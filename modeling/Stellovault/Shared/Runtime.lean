import Mathlib.Data.List.Basic

set_option autoImplicit false

/-!
# What the services take from the JavaScript runtime and the store
-/

namespace Stellovault

/-- WhiteSpace and LineTerminator of ECMAScript, what `String.prototype.trim` strips. -/
def isJsWhitespace (c : Char) : Bool :=
  [0x09, 0x0A, 0x0B, 0x0C, 0x0D, 0x20, 0xA0, 0x1680, 0x2028, 0x2029, 0x202F, 0x205F, 0x3000,
    0xFEFF].contains c.toNat || (0x2000 ≤ c.toNat && c.toNat ≤ 0x200A)

/-- `String.prototype.trim`. -/
def trim (value : String) : String :=
  ⟨((value.data.dropWhile isJsWhitespace).reverse.dropWhile isJsWhitespace).reverse⟩

/-- The characters besides the ASCII letters that `String.prototype.toUpperCase` maps to text
holding an ASCII letter, and that text. -/
def specialUpperCase : List (Nat × List Char) :=
  [(0xDF, ['S', 'S']), (0x131, ['I']), (0x149, [Char.ofNat 0x2BC, 'N']),
    (0x17F, ['S']), (0x1F0, ['J', Char.ofNat 0x30C]), (0x1E96, ['H', Char.ofNat 0x331]),
    (0x1E97, ['T', Char.ofNat 0x308]), (0x1E98, ['W', Char.ofNat 0x30A]),
    (0x1E99, ['Y', Char.ofNat 0x30A]), (0x1E9A, ['A', Char.ofNat 0x2BE]),
    (0xFB00, ['F', 'F']), (0xFB01, ['F', 'I']), (0xFB02, ['F', 'L']), (0xFB03, ['F', 'F', 'I']),
    (0xFB04, ['F', 'F', 'L']), (0xFB05, ['S', 'T']), (0xFB06, ['S', 'T'])]

/-- `String.prototype.toUpperCase`. Besides `specialUpperCase`, only ASCII letters are mapped:
JavaScript maps the lower-case letters of other scripts to capitals outside ASCII, which no text
the services compare with holds. -/
def toUpperCase (value : String) : String :=
  ⟨value.data.flatMap fun c => (specialUpperCase.lookup c.toNat).getD [c.toUpper]⟩

/-- `value?.trim() || null`: a missing or blank string becomes `null`. A service that tests
`value?.trim()` for truthiness reads it the same way. -/
def trimToNull (value : Option String) : Option String :=
  match value with
  | some text => if trim text = "" then none else some (trim text)
  | none => none

/-- `value || fallback` on an optional string. -/
def orDefault (value : Option String) (fallback : String) : String :=
  match value.filter (· ≠ "") with
  | some text => text
  | none => fallback

/-- The date a request carries: absent or empty, text `new Date` reads as `NaN`, or a time in
milliseconds from the epoch. -/
inductive DateInput where
  | missing
  | invalid
  | at (milliseconds : Int)
  deriving DecidableEq, Repr

/-- TimeClip of `new Date`: a time more than 8.64e15 ms from the epoch is `NaN`. -/
def timeClip (milliseconds : Int) : Option Int :=
  if milliseconds.natAbs ≤ 8640000000000000 then some milliseconds else none

/-- The earliest time a PostgreSQL `timestamp` holds, 4714-11-24 BC; the latest, in 294276 AD, is
beyond what `timeClip` lets through. -/
def minTimestamp : Int := -210866803200000

/-- The Prisma errors the services let through or map. -/
inductive StoreError where
  /-- `P2002`: a unique index rejected the write. -/
  | uniqueViolation (index : String)
  /-- `P2025`: the row an `update` or `delete` names does not exist. -/
  | recordNotFound (model : String)
  /-- A value does not fit its `DECIMAL(20,7)` column. -/
  | numericOverflow (column : String)
  /-- `P2034`: a serializable transaction lost a write conflict and was rolled back. -/
  | transactionConflict
  /-- `P2003`: a foreign key names no row. -/
  | foreignKeyViolation (constraint : String)
  /-- `22021`: PostgreSQL refuses a text parameter holding U+0000. -/
  | nulInText
  /-- `22008`: a date before `minTimestamp`. -/
  | timestampOutOfRange
  deriving DecidableEq, Repr

/-- The error classes of `config/errors.ts`, beside the store errors. -/
inductive AppError where
  | notFoundError (message : String)
  | unauthorizedError (message : String)
  | forbiddenError (message : String)
  | conflictError (message : String)
  | validationError (message : String)
  /-- A plain `Error`: logged and answered as an internal failure. -/
  | internalError (message : String)
  | store (error : StoreError)
  deriving DecidableEq, Repr

instance exceptDecidableEq {ε α : Type} [DecidableEq ε] [DecidableEq α] :
    DecidableEq (Except ε α)
  | .error a, .error b => decidable_of_iff (a = b) (by simp)
  | .ok a, .ok b => decidable_of_iff (a = b) (by simp)
  | .error _, .ok _ => isFalse nofun
  | .ok _, .error _ => isFalse nofun

/-- `requireNonEmptyString` of the services: the trimmed string, or a `ValidationError`
naming the field. -/
def requireNonEmptyString (value : Option String) (fieldName : String) : Except AppError String :=
  match value with
  | some text => if trim text = "" then .error (.validationError (fieldName ++ " is required"))
      else .ok (trim text)
  | none => .error (.validationError (fieldName ++ " is required"))

/-- `if (condition) throw error`. -/
def throwIf (condition : Prop) [Decidable condition] (error : AppError) : Except AppError Unit :=
  if condition then .error error else .ok ()

def holdsNul (value : String) : Bool := value.data.contains (Char.ofNat 0)

/-- The text parameters of a query: PostgreSQL refuses the query if one holds U+0000. -/
def textParameters (values : List String) : Except AppError Unit :=
  throwIf (values.any holdsNul) (.store .nulInText)

/-- `parseDate` of the escrow and governance services. -/
def parseDateField (value : DateInput) (fieldName : String) : Except AppError Int :=
  match value with
  | .missing => .error (.validationError (fieldName ++ " is required"))
  | .invalid => .error (.validationError (fieldName ++ " must be a valid date"))
  | .at milliseconds =>
    match timeClip milliseconds with
    | some time => .ok time
    | none => .error (.validationError (fieldName ++ " must be a valid date"))

/-- `ContractService.buildContractInvokeXDR`: the same placeholder for every contract, method and
arguments. -/
def buildContractInvokeXDR (_contractId _method : String) (_args : List String) : String :=
  "BASE64_INVOCATION_XDR_PLACEHOLDER"

@[simp] theorem throwIf_ok {condition : Prop} [Decidable condition] {error : AppError} {u : Unit} :
    throwIf condition error = .ok u ↔ ¬ condition := by
  unfold throwIf
  split <;> simp_all

theorem throwIf_bind_error {condition : Prop} [Decidable condition] {error error' : AppError}
    {β : Type} {f : Unit → Except AppError β} :
    throwIf condition error >>= f = .error error' ↔
      condition ∧ error = error' ∨ ¬ condition ∧ f () = .error error' := by
  unfold throwIf
  split <;> simp_all [bind, Except.bind]

@[simp] theorem except_bind_ok {ε α β : Type} {x : Except ε α} {f : α → Except ε β} {b : β} :
    x >>= f = .ok b ↔ ∃ a, x = .ok a ∧ f a = .ok b := by
  cases x <;> simp [bind, Except.bind]

@[simp] theorem except_ok_bind {ε α β : Type} (a : α) (f : α → Except ε β) :
    (Except.ok a >>= f) = f a := rfl

@[simp] theorem except_error_bind {ε α β : Type} (error : ε) (f : α → Except ε β) :
    (Except.error error >>= f) = Except.error error := rfl

@[simp] theorem except_throw {ε α : Type} (error : ε) : (throw error : Except ε α) = .error error :=
  rfl

@[simp] theorem except_pure {ε α : Type} (value : α) : (pure value : Except ε α) = .ok value := rfl

@[simp] theorem except_map_ok {ε α β : Type} {x : Except ε α} {f : α → β} {b : β} :
    x.map f = .ok b ↔ ∃ a, x = .ok a ∧ f a = b := by
  cases x <;> simp [Except.map]

@[simp] theorem except_mapError_ok {ε ε' α : Type} {x : Except ε α} {f : ε → ε'} {a : α} :
    x.mapError f = .ok a ↔ x = .ok a := by
  cases x <;> simp [Except.mapError]

theorem requireNonEmptyString_ok (value : Option String) (fieldName result : String)
    (accepted : requireNonEmptyString value fieldName = .ok result) :
    value.map trim = some result ∧ result ≠ "" := by
  unfold requireNonEmptyString at accepted
  split at accepted
  · split at accepted
    · cases accepted
    · cases accepted; simp_all
  · cases accepted

theorem textParameters_error {values : List String} {error : AppError}
    (failed : textParameters values = .error error) :
    error = .store .nulInText ∧ ∃ value ∈ values, holdsNul value := by
  unfold textParameters throwIf at failed
  split at failed
  · next nul => cases failed; exact ⟨rfl, by simpa using nul⟩
  · cases failed

@[simp] theorem textParameters_ok {values : List String} {u : Unit} :
    textParameters values = .ok u ↔ ∀ value ∈ values, holdsNul value = false := by
  simp [textParameters]

theorem holdsNul_iff {value : String} : holdsNul value ↔ Char.ofNat 0 ∈ value.data := by
  simp [holdsNul]

theorem mem_of_mem_trim {value : String} {c : Char} (member : c ∈ (trim value).data) : c ∈ value.data := by
  simp only [trim, List.mem_reverse] at member
  exact (List.dropWhile_suffix _).subset ((List.dropWhile_suffix _).subset member |> List.mem_reverse.mp)

theorem holdsNul_of_trim {value : String} (nul : holdsNul (trim value)) : holdsNul value :=
  holdsNul_iff.mpr (mem_of_mem_trim (holdsNul_iff.mp nul))

theorem holdsNul_of_trimToNull {value : Option String} {text : String}
    (trimmed : trimToNull value = some text) (nul : holdsNul text) : value.any holdsNul := by
  unfold trimToNull at trimmed
  split at trimmed
  · split at trimmed
    · cases trimmed
    · cases trimmed; simpa using holdsNul_of_trim nul
  · cases trimmed

theorem dropWhile_of_none {p : Char → Bool} : ∀ {value : List Char},
    (∀ c ∈ value, p c = false) → value.dropWhile p = value
  | [], _ => rfl
  | c :: _, kept => by simp [List.dropWhile, kept c (List.mem_cons_self _ _)]

theorem trim_of_plain {value : List Char} (plain : ∀ c ∈ value, isJsWhitespace c = false) :
    trim ⟨value⟩ = ⟨value⟩ := by
  have reversed : ∀ c ∈ value.reverse, isJsWhitespace c = false := by simpa using plain
  simp only [trim, dropWhile_of_none plain, dropWhile_of_none reversed, List.reverse_reverse]

theorem requireNonEmptyString_of_plain {value : List Char} (nonempty : value ≠ [])
    (plain : ∀ c ∈ value, isJsWhitespace c = false) (fieldName : String) :
    requireNonEmptyString (some ⟨value⟩) fieldName = .ok ⟨value⟩ := by
  rw [requireNonEmptyString, trim_of_plain plain, if_neg (by simpa [String.ext_iff] using nonempty)]

end Stellovault
