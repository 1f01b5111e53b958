import Stellovault.Auth.Signature

set_option autoImplicit false

/-!
# The transaction that createEscrow returns
-/

namespace Stellovault.EscrowService

open Stellovault.Auth (isBase64 encodeBase64 decodeBase64)

/-- `Buffer.from(value)`: the UTF-8 bytes of the value. -/
def utf8Bytes (value : String) : List UInt8 :=
  value.data.flatMap String.utf8EncodeChar

/-- `/^[A-Za-z0-9+/]+={0,2}$/.test(value) && value.length % 4 === 0`. -/
def passesBase64Test (value : String) : Bool :=
  isBase64 value.data && value.length % 4 == 0

def ensureBase64 (value : String) : String :=
  if passesBase64Test value then value
  else ⟨encodeBase64 true (utf8Bytes value)⟩

example : ensureBase64 "Man" = "TWFu" := by decide

example : ensureBase64 "TWFu" = "TWFu" := by decide

theorem utf8Bytes_eq_nil {value : String} (empty : utf8Bytes value = []) : value = "" := by
  obtain ⟨chars⟩ := value
  cases chars with
  | nil => rfl
  | cons c rest =>
    have positive := c.utf8Size_pos
    rw [← String.length_utf8EncodeChar] at positive
    simp only [utf8Bytes, List.flatMap_cons, List.append_eq_nil] at empty
    simp [empty.1] at positive

theorem length_encodeBase64_padded (bytes : List UInt8) :
    (encodeBase64 true bytes).length % 4 = 0 := by
  simp only [Stellovault.Auth.encodeBase64, if_true, List.length_append, List.length_replicate]
  omega

theorem passesBase64Test_ensureBase64 {value : String} (nonempty : value ≠ "") :
    passesBase64Test (ensureBase64 value) := by
  unfold ensureBase64
  split
  · next passes => exact passes
  · have bytes : utf8Bytes value ≠ [] := fun empty => nonempty (utf8Bytes_eq_nil empty)
    simp only [passesBase64Test, Stellovault.Auth.isBase64_encodeBase64 true bytes, Bool.true_and,
      String.length, length_encodeBase64_padded, beq_self_eq_true]

theorem ensureBase64_empty : ensureBase64 "" = "" := by decide

theorem ensureBase64_idempotent (value : String) :
    (value = "" ∨ passesBase64Test (ensureBase64 value)) ∧
      ensureBase64 (ensureBase64 value) = ensureBase64 value := by
  by_cases empty : value = ""
  · subst empty
    exact ⟨.inl rfl, by rw [ensureBase64_empty, ensureBase64_empty]⟩
  · have passes := passesBase64Test_ensureBase64 empty
    exact ⟨.inr passes, if_pos passes⟩

theorem ensureBase64_decodes (value : String) (fails : passesBase64Test value = false) :
    decodeBase64 (ensureBase64 value).data = utf8Bytes value := by
  rw [ensureBase64, if_neg (by simp [fails])]
  exact Stellovault.Auth.decodeBase64_encodeBase64 true _

theorem placeholder_xdr_decodes :
    passesBase64Test (buildContractInvokeXDR "C" "create_escrow" []) = false ∧
      decodeBase64 (ensureBase64 (buildContractInvokeXDR "C" "create_escrow" [])).data =
        utf8Bytes (buildContractInvokeXDR "C" "create_escrow" []) :=
  ⟨by decide, ensureBase64_decodes _ (by decide)⟩

example : ensureBase64 (buildContractInvokeXDR "C" "create_escrow" []) =
    "QkFTRTY0X0lOVk9DQVRJT05fWERSX1BMQUNFSE9MREVS" := by
  decide

end Stellovault.EscrowService
