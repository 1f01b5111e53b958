import Stellovault.Shared.Runtime

set_option autoImplicit false

namespace Stellovault.Auth

def isHexDigit (c : Char) : Bool :=
  c.isDigit || ('a' ≤ c && c ≤ 'f') || ('A' ≤ c && c ≤ 'F')

def hexValue (c : Char) : Nat :=
  if c.isDigit then c.toNat - '0'.toNat
  else if 'a' ≤ c && c ≤ 'f' then c.toNat - 'a'.toNat + 10
  else c.toNat - 'A'.toNat + 10

/-- `/^[0-9a-fA-F]+$/`. -/
def isHex (value : List Char) : Bool :=
  !value.isEmpty && value.all isHexDigit

/-- `Buffer.from(value, "hex")`: a byte per pair of digits, up to the first pair that is
not hex. -/
def decodeHex : List Char → List UInt8
  | high :: low :: rest =>
      if isHexDigit high && isHexDigit low then
        (16 * hexValue high + hexValue low).toUInt8 :: decodeHex rest
      else []
  | _ => []

def isBase64Digit (c : Char) : Bool :=
  c.isAlphanum || c = '+' || c = '/'

def base64Value (c : Char) : Nat :=
  if c.isUpper then c.toNat - 'A'.toNat
  else if c.isLower then c.toNat - 'a'.toNat + 26
  else if c.isDigit then c.toNat - '0'.toNat + 52
  else if c = '+' then 62
  else 63

/-- `/^[A-Za-z0-9+/]+={0,2}$/`. -/
def isBase64 (value : List Char) : Bool :=
  let digits := value.takeWhile isBase64Digit
  let padding := value.drop digits.length
  !digits.isEmpty && padding.length ≤ 2 && padding.all (· = '=')

/-- Four digits give three bytes; a last group of three or two digits gives two or one. -/
def decodeBase64Digits : List Nat → List UInt8
  | a :: b :: c :: d :: rest =>
      (a * 4 + b / 16).toUInt8 :: ((b % 16) * 16 + c / 4).toUInt8 :: ((c % 4) * 64 + d).toUInt8 ::
        decodeBase64Digits rest
  | [a, b, c] => [(a * 4 + b / 16).toUInt8, ((b % 16) * 16 + c / 4).toUInt8]
  | [a, b] => [(a * 4 + b / 16).toUInt8]
  | _ => []

/-- A character's value in the table of `Buffer`, which reads the URL-safe alphabet too. -/
def base64Sextet (c : Char) : Option Nat :=
  if isBase64Digit c then some (base64Value c)
  else if c = '-' then some 62
  else if c = '_' then some 63
  else none

/-- `Buffer.from(value, "base64")`: a character outside both alphabets is skipped, and decoding
stops at the first `=`. -/
def decodeBase64 (value : List Char) : List UInt8 :=
  decodeBase64Digits ((value.takeWhile (· ≠ '=')).filterMap base64Sextet)

/-- `AuthService.decodeSignature`: the hex reading is tried first, then base64; either must
give 64 bytes. -/
def decodeSignature (signature : String) : Except AppError (List UInt8) := do
  let value ← requireNonEmptyString (some signature) "signature"
  if isHex value.data && value.length % 2 = 0 then
    let decoded := decodeHex value.data
    if decoded.length = 64 then return decoded
  if isBase64 value.data then
    let decoded := decodeBase64 value.data
    if decoded.length = 64 then return decoded
  throw (.validationError "Signature must be a 64-byte hex or base64 value")

theorem decodeSignature_of_plain {value : List Char} (nonempty : value ≠ [])
    (plain : ∀ c ∈ value, isJsWhitespace c = false) :
    decodeSignature ⟨value⟩ =
      if isHex value && value.length % 2 = 0 && (decodeHex value).length = 64 then
        .ok (decodeHex value)
      else if isBase64 value && (decodeBase64 value).length = 64 then .ok (decodeBase64 value)
      else .error (.validationError "Signature must be a 64-byte hex or base64 value") := by
  simp only [decodeSignature, requireNonEmptyString_of_plain nonempty plain, except_ok_bind,
    except_pure, except_throw, Bool.and_eq_true, decide_eq_true_eq, ite_and]
  rfl

theorem length_decodeHex_le (value : List Char) : 2 * (decodeHex value).length ≤ value.length := by
  induction value using decodeHex.induct with
  | case1 high low rest digits ih => rw [decodeHex, if_pos digits]; simp only [List.length_cons]; omega
  | case2 high low rest digits => rw [decodeHex, if_neg digits]; simp
  | case3 value short =>
    match value, short with
    | [], _ => rfl
    | [_], _ => simp [decodeHex]
    | _ :: _ :: _, short => exact (short _ _ _ rfl).elim

/-! ## The encodings a wallet sends

The service only decodes. These are the encoders of the two formats it accepts: hex in either
case, and standard base64 with or without its padding.
-/

def hexAlphabet (upper : Bool) : List Char :=
  if upper then "0123456789ABCDEF".data else "0123456789abcdef".data

/-- Two digits a byte, high half first. -/
def encodeHex (upper : Bool) : List UInt8 → List Char
  | [] => []
  | byte :: rest => (hexAlphabet upper).getD (byte.toNat / 16) '0' ::
      (hexAlphabet upper).getD (byte.toNat % 16) '0' :: encodeHex upper rest

example : encodeHex false [0xAB, 0x01] = "ab01".data := by decide

def base64Alphabet : List Char :=
  "ABCDEFGHIJKLMNOPQRSTUVWXYZabcdefghijklmnopqrstuvwxyz0123456789+/".data

/-- Three bytes give four six-bit digits; a last group of two bytes or one gives three or two. -/
def encodeBase64Digits : List UInt8 → List Nat
  | a :: b :: c :: rest => a.toNat / 4 :: (a.toNat % 4 * 16 + b.toNat / 16) ::
      (b.toNat % 16 * 4 + c.toNat / 64) :: c.toNat % 64 :: encodeBase64Digits rest
  | [a, b] => [a.toNat / 4, a.toNat % 4 * 16 + b.toNat / 16, b.toNat % 16 * 4]
  | [a] => [a.toNat / 4, a.toNat % 4 * 16]
  | [] => []

/-- Standard base64, with or without the padding to a multiple of four characters. -/
def encodeBase64 (padded : Bool) (bytes : List UInt8) : List Char :=
  let digits := (encodeBase64Digits bytes).map (base64Alphabet.getD · 'A')
  digits ++ if padded then List.replicate ((4 - digits.length % 4) % 4) '=' else []

example : encodeBase64 true [77, 97, 110, 77] = "TWFuTQ==".data := by decide

theorem hexAlphabet_digits (upper : Bool) : ∀ n ∈ List.range 16,
    isHexDigit ((hexAlphabet upper).getD n '0') ∧ hexValue ((hexAlphabet upper).getD n '0') = n ∧
      isJsWhitespace ((hexAlphabet upper).getD n '0') = false := by
  cases upper <;> decide

theorem base64Alphabet_digits : ∀ n ∈ List.range 64,
    isBase64Digit (base64Alphabet.getD n 'A') ∧ base64Value (base64Alphabet.getD n 'A') = n ∧
      isJsWhitespace (base64Alphabet.getD n 'A') = false := by
  decide

theorem hexDigit_of_lt (upper : Bool) {n : Nat} (small : n < 16) :
    isHexDigit ((hexAlphabet upper).getD n '0') ∧ hexValue ((hexAlphabet upper).getD n '0') = n ∧
      isJsWhitespace ((hexAlphabet upper).getD n '0') = false :=
  hexAlphabet_digits upper n (List.mem_range.mpr small)

theorem base64Digit_of_lt {n : Nat} (small : n < 64) :
    isBase64Digit (base64Alphabet.getD n 'A') ∧ base64Value (base64Alphabet.getD n 'A') = n ∧
      isJsWhitespace (base64Alphabet.getD n 'A') = false :=
  base64Alphabet_digits n (List.mem_range.mpr small)

theorem toUInt8_toNat (byte : UInt8) : byte.toNat.toUInt8 = byte :=
  UInt8.toNat.inj (UInt8.toNat_ofNat_of_lt byte.toNat_lt_size)

@[simp] theorem decodeHex_encodeHex (upper : Bool) (bytes : List UInt8) :
    decodeHex (encodeHex upper bytes) = bytes := by
  induction bytes with
  | nil => rfl
  | cons byte rest ih =>
    have size : byte.toNat < 256 := byte.toNat_lt_size
    obtain ⟨highDigit, highValue, -⟩ := hexDigit_of_lt upper (show byte.toNat / 16 < 16 by omega)
    obtain ⟨lowDigit, lowValue, -⟩ := hexDigit_of_lt upper (show byte.toNat % 16 < 16 by omega)
    simp only [encodeHex, decodeHex, highDigit, lowDigit, highValue, lowValue, Bool.and_self,
      if_true, ih, show 16 * (byte.toNat / 16) + byte.toNat % 16 = byte.toNat by omega,
      toUInt8_toNat]

theorem length_encodeHex (upper : Bool) (bytes : List UInt8) :
    (encodeHex upper bytes).length = 2 * bytes.length := by
  induction bytes with
  | nil => rfl
  | cons byte rest ih => simp only [encodeHex, List.length_cons, ih]; omega

theorem encodeHex_digits (upper : Bool) (bytes : List UInt8) :
    ∀ c ∈ encodeHex upper bytes, isHexDigit c ∧ isJsWhitespace c = false := by
  induction bytes with
  | nil => simp [encodeHex]
  | cons byte rest ih =>
    have size : byte.toNat < 256 := byte.toNat_lt_size
    obtain ⟨highDigit, -, highSpace⟩ := hexDigit_of_lt upper (show byte.toNat / 16 < 16 by omega)
    obtain ⟨lowDigit, -, lowSpace⟩ := hexDigit_of_lt upper (show byte.toNat % 16 < 16 by omega)
    intro c member
    simp only [encodeHex, List.mem_cons] at member
    rcases member with rfl | rfl | member
    · exact ⟨highDigit, highSpace⟩
    · exact ⟨lowDigit, lowSpace⟩
    · exact ih c member

theorem isHex_encodeHex (upper : Bool) {bytes : List UInt8} (nonempty : bytes ≠ []) :
    isHex (encodeHex upper bytes) := by
  have some : encodeHex upper bytes ≠ [] := List.ne_nil_of_length_pos (by
    rw [length_encodeHex]; exact Nat.mul_pos (by decide) (List.length_pos.mpr nonempty))
  simpa [isHex, some] using fun c member => (encodeHex_digits upper bytes c member).1

theorem sextets {a b c : Nat} (ha : a < 256) (hb : b < 256) (hc : c < 256) :
    a / 4 < 64 ∧ a % 4 * 16 + b / 16 < 64 ∧ b % 16 * 4 + c / 64 < 64 ∧ c % 64 < 64 ∧
      a / 4 * 4 + (a % 4 * 16 + b / 16) / 16 = a ∧
      (a % 4 * 16 + b / 16) % 16 * 16 + (b % 16 * 4 + c / 64) / 4 = b ∧
      (b % 16 * 4 + c / 64) % 4 * 64 + c % 64 = c := by
  omega

theorem encodeBase64Digits_lt (bytes : List UInt8) :
    ∀ digit ∈ encodeBase64Digits bytes, digit < 64 := by
  induction bytes using encodeBase64Digits.induct with
  | case1 a b c rest ih =>
    obtain ⟨first, second, third, fourth, -⟩ :=
      sextets a.toNat_lt_size b.toNat_lt_size c.toNat_lt_size
    intro digit member
    simp only [encodeBase64Digits, List.mem_cons] at member
    rcases member with rfl | rfl | rfl | rfl | member
    exacts [first, second, third, fourth, ih digit member]
  | case2 a b =>
    obtain ⟨first, second, third, -⟩ := sextets a.toNat_lt_size b.toNat_lt_size (by decide : 0 < 256)
    simp only [Nat.zero_div, Nat.add_zero] at third
    simpa [encodeBase64Digits] using ⟨first, second, third⟩
  | case3 a =>
    obtain ⟨first, second, -⟩ := sextets a.toNat_lt_size (by decide : 0 < 256) (by decide : 0 < 256)
    simp only [Nat.zero_div, Nat.add_zero] at second
    simpa [encodeBase64Digits] using ⟨first, second⟩
  | case4 => simp [encodeBase64Digits]

@[simp] theorem decodeBase64Digits_encodeBase64Digits (bytes : List UInt8) :
    decodeBase64Digits (encodeBase64Digits bytes) = bytes := by
  induction bytes using encodeBase64Digits.induct with
  | case1 a b c rest ih =>
    obtain ⟨-, -, -, -, first, second, third⟩ :=
      sextets a.toNat_lt_size b.toNat_lt_size c.toNat_lt_size
    simp only [encodeBase64Digits, decodeBase64Digits, ih, first, second, third, toUInt8_toNat]
  | case2 a b =>
    obtain ⟨-, -, -, -, first, second, -⟩ :=
      sextets a.toNat_lt_size b.toNat_lt_size (by decide : 0 < 256)
    simp only [Nat.zero_div, Nat.add_zero] at second
    simp only [encodeBase64Digits, decodeBase64Digits, first, second, toUInt8_toNat]
  | case3 a =>
    obtain ⟨-, -, -, -, first, -⟩ :=
      sextets a.toNat_lt_size (by decide : 0 < 256) (by decide : 0 < 256)
    simp only [Nat.zero_div, Nat.add_zero] at first
    simp only [encodeBase64Digits, decodeBase64Digits, first, toUInt8_toNat]
  | case4 => rfl

theorem length_encodeBase64Digits (bytes : List UInt8) :
    (encodeBase64Digits bytes).length = (4 * bytes.length + 2) / 3 := by
  induction bytes using encodeBase64Digits.induct with
  | case1 a b c rest ih => simp only [encodeBase64Digits, List.length_cons, ih]; omega
  | case2 | case3 | case4 => simp [encodeBase64Digits]

theorem encodeBase64_digits (bytes : List UInt8) :
    ∀ c ∈ (encodeBase64Digits bytes).map (base64Alphabet.getD · 'A'),
      isBase64Digit c ∧ isJsWhitespace c = false := by
  simp only [List.mem_map]
  rintro _ ⟨digit, member, rfl⟩
  obtain ⟨isDigit, -, plain⟩ := base64Digit_of_lt (encodeBase64Digits_lt bytes digit member)
  exact ⟨isDigit, plain⟩

theorem takeWhile_encodeBase64 (padded : Bool) (bytes : List UInt8) :
    (encodeBase64 padded bytes).takeWhile isBase64Digit =
      (encodeBase64Digits bytes).map (base64Alphabet.getD · 'A') := by
  rw [encodeBase64,
    List.takeWhile_append_of_pos fun c member => (encodeBase64_digits bytes c member).1]
  have padding : isBase64Digit '=' = false := by decide
  cases padded <;> simp [List.takeWhile_replicate, padding]

theorem takeWhile_encodeBase64_padding (padded : Bool) (bytes : List UInt8) :
    (encodeBase64 padded bytes).takeWhile (· ≠ '=') =
      (encodeBase64Digits bytes).map (base64Alphabet.getD · 'A') := by
  have digits : ∀ c ∈ (encodeBase64Digits bytes).map (base64Alphabet.getD · 'A'), c ≠ '=' :=
    fun c member same => absurd (same ▸ (encodeBase64_digits bytes c member).1) (by decide)
  rw [encodeBase64, List.takeWhile_append_of_pos fun c member => by simpa using digits c member]
  cases padded <;> simp [List.takeWhile_replicate]

@[simp] theorem decodeBase64_encodeBase64 (padded : Bool) (bytes : List UInt8) :
    decodeBase64 (encodeBase64 padded bytes) = bytes := by
  have sextets : (encodeBase64Digits bytes).filterMap (base64Sextet ∘ (base64Alphabet.getD · 'A')) =
      (encodeBase64Digits bytes).map id := List.filterMap_eq_map_iff_forall_eq_some.mpr fun digit member => by
    obtain ⟨isDigit, value, -⟩ := base64Digit_of_lt (encodeBase64Digits_lt bytes digit member)
    show base64Sextet (base64Alphabet.getD digit 'A') = some digit
    rw [base64Sextet, if_pos isDigit, value]
  rw [decodeBase64, takeWhile_encodeBase64_padding, List.filterMap_map, sextets, List.map_id]
  exact decodeBase64Digits_encodeBase64Digits bytes

theorem isBase64_encodeBase64 (padded : Bool) {bytes : List UInt8} (nonempty : bytes ≠ []) :
    isBase64 (encodeBase64 padded bytes) := by
  have count := length_encodeBase64Digits bytes
  have some : 0 < bytes.length := List.length_pos.mpr nonempty
  have digits : encodeBase64Digits bytes ≠ [] := List.ne_nil_of_length_pos (by omega)
  rw [isBase64, takeWhile_encodeBase64, encodeBase64]
  simp only [List.drop_left]
  cases padded <;> simp [digits, count]
  omega

theorem encodeBase64_plain (padded : Bool) (bytes : List UInt8) :
    ∀ c ∈ encodeBase64 padded bytes, isJsWhitespace c = false := by
  have padding : isJsWhitespace '=' = false := by decide
  intro c member
  rcases List.mem_append.mp member with digit | pad
  · exact (encodeBase64_digits bytes c digit).2
  · split at pad
    · exact List.eq_of_mem_replicate pad ▸ padding
    · exact absurd pad (List.not_mem_nil c)

theorem length_encodeBase64_le (padded : Bool) (bytes : List UInt8) :
    (encodeBase64 padded bytes).length ≤ (4 * bytes.length + 2) / 3 + 3 := by
  have count := length_encodeBase64Digits bytes
  cases padded <;> simp [encodeBase64, count]
  omega

theorem encoded_signature_decodes (signature : List UInt8) (size : signature.length = 64)
    (upper padded : Bool) :
    decodeSignature ⟨encodeHex upper signature⟩ = .ok signature ∧
      decodeSignature ⟨encodeBase64 padded signature⟩ = .ok signature := by
  have nonempty : signature ≠ [] := List.ne_nil_of_length_pos (by omega)
  constructor
  case left =>
    have hexLength := length_encodeHex upper signature
    rw [decodeSignature_of_plain (List.ne_nil_of_length_pos (by omega))
      fun c member => (encodeHex_digits upper signature c member).2]
    simp [isHex_encodeHex upper nonempty, hexLength, size]
  case right =>
    -- At most 88 characters: too few for the hex reading to give 64 bytes.
    have short := length_encodeBase64_le padded signature
    have hexBytes := length_decodeHex_le (encodeBase64 padded signature)
    have base64 := isBase64_encodeBase64 padded nonempty
    have chars : encodeBase64 padded signature ≠ [] := fun empty => by
      simp [empty, isBase64] at base64
    rw [decodeSignature_of_plain chars (encodeBase64_plain padded signature),
      if_neg (by simp only [Bool.and_eq_true, decide_eq_true_eq, not_and]; omega)]
    simp [base64, size]

theorem zero_signature_decodes :
    (List.replicate 64 (0 : UInt8)).length = 64 ∧
      decodeSignature ⟨encodeHex true (List.replicate 64 0)⟩ = .ok (List.replicate 64 0) ∧
      decodeSignature ⟨encodeBase64 false (List.replicate 64 0)⟩ = .ok (List.replicate 64 0) :=
  ⟨List.length_replicate _ _, encoded_signature_decodes _ (List.length_replicate _ _) true false⟩

end Stellovault.Auth
