import Stellovault.Shared.Decimal

set_option autoImplicit false

/-!
# The central error handler

The text of a Prisma error is not in the repository: it is a parameter.
-/

namespace Stellovault.Middleware

structure ErrorResponse where
  status : Nat
  error : String
  deriving DecidableEq, Repr

/-- `err.message`. -/
def errorMessage (prismaMessage : StoreError → String) : AppError → String
  | .notFoundError message | .unauthorizedError message | .forbiddenError message
  | .conflictError message | .validationError message | .internalError message => message
  | .store error => prismaMessage error

/-- The `instanceof` chain of `errorMiddleware`. -/
def errorStatus : AppError → Nat
  | .validationError _ => 400
  | .unauthorizedError _ => 401
  | .forbiddenError _ => 403
  | .notFoundError _ => 404
  | .conflictError _ => 409
  | .internalError _ | .store _ => 500

def errorMiddleware (prismaMessage : StoreError → String) (err : AppError) : ErrorResponse :=
  let message := errorMessage prismaMessage err
  ⟨errorStatus err, if message = "" then "Internal server error" else message⟩

/-- `notFoundMiddleware`: the error it passes to `next`. -/
def notFoundMiddleware : AppError := .notFoundError "Route not found"

/-- The errors `errorMiddleware` logs and answers with `500`: a plain `Error` and Prisma's. -/
def Unhandled : AppError → Prop
  | .internalError _ | .store _ => True
  | _ => False

theorem errorMiddleware_status_eq_500 (prismaMessage : StoreError → String) (err : AppError) :
    (errorMiddleware prismaMessage err).status = 500 ↔ Unhandled err := by
  cases err <;> simp [errorMiddleware, errorStatus, Unhandled]

example : errorMiddleware (fun _ => "") notFoundMiddleware = ⟨404, "Route not found"⟩ := by decide

theorem except_bind_error {ε α β : Type} {x : Except ε α} {f : α → Except ε β} {error : ε} :
    x >>= f = .error error ↔ x = .error error ∨ ∃ a, x = .ok a ∧ f a = .error error := by
  cases x <;> simp [bind, Except.bind]

theorem except_map_error {ε α β : Type} {x : Except ε α} {f : α → β} {error : ε} :
    x.map f = .error error ↔ x = .error error := by
  cases x <;> simp [Except.map]

/-- Every error the computation may fail with satisfies `allowed`. -/
def FailsOnly {α : Type} (allowed : AppError → Prop) (result : Except AppError α) : Prop :=
  ∀ err, result = .error err → allowed err

section FailsOnly

variable {α β : Type} {allowed allowed' : AppError → Prop}

theorem FailsOnly.bind {x : Except AppError α} {f : α → Except AppError β}
    (first : FailsOnly allowed x) (rest : ∀ a, x = .ok a → FailsOnly allowed (f a)) :
    FailsOnly allowed (x >>= f) := by
  intro err failed
  rcases except_bind_error.mp failed with failed | ⟨a, ok, failed⟩
  · exact first err failed
  · exact rest a ok err failed

theorem FailsOnly.map {x : Except AppError α} (fails : FailsOnly allowed x) (f : α → β) :
    FailsOnly allowed (x.map f) :=
  fun err failed => fails err (except_map_error.mp failed)

theorem FailsOnly.mono {x : Except AppError α} (fails : FailsOnly allowed x)
    (weaker : ∀ err, allowed err → allowed' err) : FailsOnly allowed' x :=
  fun err failed => weaker err (fails err failed)

end FailsOnly

end Stellovault.Middleware
