import Mathlib.Data.Nat.Digits
import Stellovault.Auth.Signature
import Stellovault.Escrow.Machine
import Stellovault.Loan.Service
import Stellovault.Governance.Votes

set_option autoImplicit false

/-!
# The messages of the websocket service
-/

namespace Stellovault.Realtime

/-- `WebSocketEvent`. -/
inductive WebSocketEvent where
  | escrowCreated (escrowId buyerId sellerId : String)
  | escrowUpdated (escrowId status : String)
  | loanUpdated (loanId status : String)
  | governanceVoteCast (proposalId : String) (newTally : Nat)
  deriving DecidableEq, Repr

/-- The enum's text. -/
def LoanStatus.name : LoanService.LoanStatus → String
  | .pending => "PENDING"
  | .active => "ACTIVE"
  | .repaid => "REPAID"
  | .defaulted => "DEFAULTED"

/-- `broadcastEscrowCreated` and `broadcastEscrowUpdated`: the payload an escrow broadcast
sends. -/
def escrowPayload : EscrowService.Event → WebSocketEvent
  | .escrowCreated escrowId buyerId sellerId => .escrowCreated escrowId buyerId sellerId
  | .escrowUpdated escrowId status => .escrowUpdated escrowId status.name

/-- `broadcastLoanUpdated`. -/
def loanPayload : LoanService.Event → WebSocketEvent
  | .loanUpdated loanId status => .loanUpdated loanId (LoanStatus.name status)

/-- `broadcastGovernanceVoteCast`. -/
def governancePayload : GovernanceService.Event → WebSocketEvent
  | .governanceVoteCast proposalId newTally => .governanceVoteCast proposalId newTally

/-! ## `JSON.stringify` -/

/-- The quotation mark. -/
def quoteMark : Char := Char.ofNat 34

/-- The reverse solidus. -/
def backslash : Char := Char.ofNat 92

/-- A hex digit of `UnicodeEscape`, lowercase. -/
def hexDigit (n : Nat) : Char := (Auth.hexAlphabet false).getD n '0'

/-- The single character escapes of `QuoteJSONString`: a code, and the character after the
backslash that stands for it. -/
def singleCharacterEscapes : List (Nat × Char) :=
  [(8, 'b'), (9, 't'), (10, 'n'), (12, 'f'), (13, 'r'), (34, quoteMark), (92, backslash)]

/-- One character of `QuoteJSONString`: its single character escape, `\u00XX` for the other
control characters, and the character itself otherwise. A `Char` is never a lone surrogate, so
the escape of those does not arise. -/
def escapeChar (c : Char) : List Char :=
  match singleCharacterEscapes.lookup c.toNat with
  | some e => [backslash, e]
  | none =>
    if c.toNat < 32 then [backslash, 'u', '0', '0', hexDigit (c.toNat / 16), hexDigit (c.toNat % 16)]
    else [c]

/-- `QuoteJSONString`. -/
def quoteJSONString (value : String) : List Char :=
  quoteMark :: (value.data.flatMap escapeChar ++ [quoteMark])

/-- `Number.prototype.toString` on a count: its decimal digits, most significant first. -/
def countText (count : Nat) : List Char :=
  if count = 0 then ['0'] else (Nat.digits 10 count).reverse.map fun d => Char.ofNat (48 + d)

/-- A member `"key":value` of an object. -/
def member (key : String) (value : List Char) : List Char := quoteJSONString key ++ ':' :: value

/-- An object: its members between braces, separated by commas. -/
def object (members : List (List Char)) : List Char :=
  Char.ofNat 123 :: (List.intercalate [','] members ++ [Char.ofNat 125])

/-- `JSON.stringify(payload)`. -/
def stringify : WebSocketEvent → String
  | .escrowCreated escrowId buyerId sellerId =>
    ⟨object [member "type" (quoteJSONString "ESCROW_CREATED"), member "escrowId" (quoteJSONString escrowId),
      member "buyerId" (quoteJSONString buyerId), member "sellerId" (quoteJSONString sellerId)]⟩
  | .escrowUpdated escrowId status =>
    ⟨object [member "type" (quoteJSONString "ESCROW_UPDATED"), member "escrowId" (quoteJSONString escrowId),
      member "status" (quoteJSONString status)]⟩
  | .loanUpdated loanId status =>
    ⟨object [member "type" (quoteJSONString "LOAN_UPDATED"), member "loanId" (quoteJSONString loanId),
      member "status" (quoteJSONString status)]⟩
  | .governanceVoteCast proposalId newTally =>
    ⟨object [member "type" (quoteJSONString "GOVERNANCE_VOTE_CAST"),
      member "proposalId" (quoteJSONString proposalId), member "newTally" (countText newTally)]⟩

/-! ## Reading a message back -/

/-- The character a single character escape stands for; `\/` and any other escape stand for the
character after the backslash. -/
def unescape (e : Char) : Char :=
  match singleCharacterEscapes.find? (·.2 = e) with
  | some (code, _) => Char.ofNat code
  | none => e

/-- The text of a JSON string after its opening quote, and what follows its closing quote. -/
def readString : List Char → Option (List Char × List Char)
  | [] => none
  | c :: rest =>
    if c = quoteMark then some ([], rest)
    else if c = backslash then
      match rest with
      | 'u' :: '0' :: '0' :: high :: low :: rest =>
        (readString rest).map fun read =>
          (Char.ofNat (Auth.hexValue high * 16 + Auth.hexValue low) :: read.1, read.2)
      | e :: rest => (readString rest).map fun read => (unescape e :: read.1, read.2)
      | [] => none
    else (readString rest).map fun read => (c :: read.1, read.2)

/-- The decimal digits at the head of a text, read as a count, and what follows them. -/
def readCount (input : List Char) : Option (Nat × List Char) :=
  match input.span Char.isDigit with
  | ([], _) => none
  | (digits, rest) => some (digits.foldl (fun count d => 10 * count + (d.toNat - 48)) 0, rest)

/-- What follows `literal` at the head of `input`. -/
def expect (literal input : List Char) : Option (List Char) :=
  if literal.isPrefixOf input then some (input.drop literal.length) else none

/-- The first member, `{"type":"value"`, of an object. -/
def readType (input : List Char) : Option (List Char × List Char) :=
  (expect (Char.ofNat 123 :: quoteJSONString "type" ++ [':', quoteMark]) input).bind readString

/-- The next member, `,"key":"value"`, of an object. -/
def readMember (key : String) (input : List Char) : Option (List Char × List Char) :=
  (expect (',' :: quoteJSONString key ++ [':', quoteMark]) input).bind readString

/-- The next member, `,"key":count`, of an object. -/
def readCountMember (key : String) (input : List Char) : Option (Nat × List Char) :=
  (expect (',' :: quoteJSONString key ++ [':']) input).bind readCount

/-- The closing brace, and nothing after it. -/
def closes (input : List Char) : Bool := input = [Char.ofNat 125]

/-- Reads a message of the websocket service back to its payload. -/
def parseMessage (message : String) : Option WebSocketEvent := do
  let (type, rest) ← readType message.data
  if type = "ESCROW_CREATED".data then
    let (escrowId, rest) ← readMember "escrowId" rest
    let (buyerId, rest) ← readMember "buyerId" rest
    let (sellerId, rest) ← readMember "sellerId" rest
    if closes rest then some (.escrowCreated ⟨escrowId⟩ ⟨buyerId⟩ ⟨sellerId⟩) else none
  else if type = "ESCROW_UPDATED".data then
    let (escrowId, rest) ← readMember "escrowId" rest
    let (status, rest) ← readMember "status" rest
    if closes rest then some (.escrowUpdated ⟨escrowId⟩ ⟨status⟩) else none
  else if type = "LOAN_UPDATED".data then
    let (loanId, rest) ← readMember "loanId" rest
    let (status, rest) ← readMember "status" rest
    if closes rest then some (.loanUpdated ⟨loanId⟩ ⟨status⟩) else none
  else if type = "GOVERNANCE_VOTE_CAST".data then
    let (proposalId, rest) ← readMember "proposalId" rest
    let (newTally, rest) ← readCountMember "newTally" rest
    if closes rest then some (.governanceVoteCast ⟨proposalId⟩ newTally) else none
  else none

/-! ## The round trip -/

theorem expect_append (literal rest : List Char) : expect literal (literal ++ rest) = some rest := by
  simp [expect, List.isPrefixOf_iff_prefix]

theorem hexDigit_value {n : Nat} (small : n < 16) : Auth.hexValue (hexDigit n) = n :=
  (Auth.hexDigit_of_lt false small).2.1

theorem backslash_ne_quoteMark : backslash ≠ quoteMark := by decide

theorem readString_quoteMark (rest : List Char) : readString (quoteMark :: rest) = some ([], rest) := by
  rw [readString.eq_def]
  exact if_pos rfl

theorem readString_escaped {e : Char} (short : e ≠ 'u') (rest : List Char) :
    readString (backslash :: e :: rest) = (readString rest).map fun read => (unescape e :: read.1, read.2) := by
  rw [readString.eq_3 _ _ _ fun _ _ _ same _ => short same, if_neg backslash_ne_quoteMark, if_pos rfl]

theorem readString_unicode (high low : Char) (rest : List Char) :
    readString (backslash :: 'u' :: '0' :: '0' :: high :: low :: rest) =
      (readString rest).map fun read => (Char.ofNat (Auth.hexValue high * 16 + Auth.hexValue low) :: read.1, read.2) := by
  rw [readString.eq_2, if_neg backslash_ne_quoteMark, if_pos rfl]

theorem readString_plain {c : Char} (notQuote : c ≠ quoteMark) (notBackslash : c ≠ backslash)
    (rest : List Char) : readString (c :: rest) = (readString rest).map fun read => (c :: read.1, read.2) := by
  rw [readString.eq_def]
  exact (if_neg notQuote).trans (if_neg notBackslash)

theorem singleCharacterEscapes_unescape :
    ∀ escape ∈ singleCharacterEscapes, unescape escape.2 = Char.ofNat escape.1 ∧ escape.2 ≠ 'u' := by
  decide

theorem readString_escapeChar (c : Char) (rest : List Char) :
    readString (escapeChar c ++ rest) = (readString rest).map fun read => (c :: read.1, read.2) := by
  unfold escapeChar
  split
  next e listed =>
    obtain ⟨_, _, table, _⟩ := List.lookup_eq_some_iff.mp listed
    obtain ⟨back, notU⟩ := singleCharacterEscapes_unescape (c.toNat, e) (by simp [table])
    rw [List.cons_append, List.cons_append, List.nil_append, readString_escaped notU, back, Char.ofNat_toNat]
  next unlisted =>
    split
    next control =>
      -- `\u00XX`: the two hex digits give the code back.
      have code : Auth.hexValue (hexDigit (c.toNat / 16)) * 16 + Auth.hexValue (hexDigit (c.toNat % 16)) =
          c.toNat := by
        rw [hexDigit_value (by omega), hexDigit_value (by omega)]
        omega
      simp only [List.cons_append, List.nil_append]
      rw [readString_unicode, code, Char.ofNat_toNat]
    next =>
      have other := List.lookup_eq_none_iff.mp unlisted
      refine readString_plain (fun same => ?_) (fun same => ?_) rest
      · exact absurd (other (34, quoteMark) (by decide)) (by subst same; decide)
      · exact absurd (other (92, backslash) (by decide)) (by subst same; decide)

theorem readString_quoted (value rest : List Char) :
    readString (value.flatMap escapeChar ++ quoteMark :: rest) = some (value, rest) := by
  induction value with
  | nil => exact readString_quoteMark rest
  | cons c value ih => rw [List.flatMap_cons, List.append_assoc, readString_escapeChar, ih]; rfl

theorem readType_member (type : String) (rest : List Char) :
    readType (Char.ofNat 123 :: (member "type" (quoteJSONString type) ++ rest)) = some (type.data, rest) := by
  have split : Char.ofNat 123 :: (member "type" (quoteJSONString type) ++ rest) =
      (Char.ofNat 123 :: quoteJSONString "type" ++ [':', quoteMark]) ++
        (type.data.flatMap escapeChar ++ quoteMark :: rest) := by
    simp [member, quoteJSONString]
  rw [readType, split, expect_append, Option.some_bind, readString_quoted]

theorem readMember_member (key value : String) (rest : List Char) :
    readMember key (',' :: (member key (quoteJSONString value) ++ rest)) = some (value.data, rest) := by
  have split : ',' :: (member key (quoteJSONString value) ++ rest) =
      (',' :: quoteJSONString key ++ [':', quoteMark]) ++ (value.data.flatMap escapeChar ++ quoteMark :: rest) := by
    simp [member, quoteJSONString]
  rw [readMember, split, expect_append, Option.some_bind, readString_quoted]

theorem digit_facts : ∀ d < 10, (Char.ofNat (48 + d)).toNat = 48 + d ∧ (Char.ofNat (48 + d)).isDigit := by
  decide

theorem foldl_digits (digits : List Nat) (small : ∀ d ∈ digits, d < 10) :
    (digits.reverse.map fun d => Char.ofNat (48 + d)).foldl
      (fun count d => 10 * count + (d.toNat - 48)) 0 = Nat.ofDigits 10 digits := by
  induction digits with
  | nil => rfl
  | cons d digits ih =>
    have digit := (digit_facts d (small d (List.mem_cons_self _ _))).1
    rw [List.reverse_cons, List.map_append, List.foldl_append,
      ih fun e member => small e (List.mem_cons_of_mem _ member)]
    simp only [List.map_cons, List.map_nil, List.foldl_cons, List.foldl_nil, digit, Nat.ofDigits_cons]
    omega

theorem countText_digits (count : Nat) : ∀ c ∈ countText count, c.isDigit := by
  intro c member
  unfold countText at member
  split at member
  · simp only [List.mem_singleton] at member; subst member; decide
  · obtain ⟨d, digit, rfl⟩ := List.mem_map.mp member
    exact (digit_facts d (Nat.digits_lt_base (by norm_num) (List.mem_reverse.mp digit))).2

theorem readCount_countText (count : Nat) {next : Char} (notDigit : next.isDigit = false)
    (rest : List Char) : readCount (countText count ++ next :: rest) = some (count, next :: rest) := by
  have span : (countText count ++ next :: rest).span Char.isDigit = (countText count, next :: rest) := by
    rw [List.span_eq_take_drop, List.takeWhile_append_of_pos (countText_digits count),
      List.dropWhile_append_of_pos (countText_digits count), List.takeWhile_cons_of_neg (by simp [notDigit]),
      List.dropWhile_cons_of_neg (by simp [notDigit]), List.append_nil]
  unfold readCount
  rw [span]
  by_cases zero : count = 0
  · subst zero; rfl
  · have text : countText count = (Nat.digits 10 count).reverse.map fun d => Char.ofNat (48 + d) := if_neg zero
    obtain ⟨c, cs, digits⟩ := List.exists_cons_of_ne_nil (by simp [text, Nat.digits_ne_nil_iff_ne_zero.mpr zero] : countText count ≠ [])
    rw [digits]
    dsimp only
    rw [← digits, text, foldl_digits _ fun d member => Nat.digits_lt_base (by norm_num) member,
      Nat.ofDigits_digits]

theorem readCountMember_member (key : String) (count : Nat) {next : Char} (notDigit : next.isDigit = false)
    (rest : List Char) :
    readCountMember key (',' :: (member key (countText count) ++ next :: rest)) = some (count, next :: rest) := by
  have split : ',' :: (member key (countText count) ++ next :: rest) =
      (',' :: quoteJSONString key ++ [':']) ++ (countText count ++ next :: rest) := by
    simp [member]
  rw [readCountMember, split, expect_append, Option.some_bind, readCount_countText count notDigit]

theorem parseMessage_stringify (event : WebSocketEvent) : parseMessage (stringify event) = some event := by
  have brace : (Char.ofNat 125).isDigit = false := by decide
  cases event <;>
    simp [parseMessage, stringify, object, List.intercalate, readType_member, readMember_member,
      readCountMember_member _ _ brace, closes]

end Stellovault.Realtime
