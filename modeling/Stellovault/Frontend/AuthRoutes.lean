import Stellovault.Auth.Service

set_option autoImplicit false

/-!
# The sign-in routes of the frontend

The nonce lives in the client's `auth-nonce` cookie only; `System` logs what the routes did.
-/

namespace Stellovault.Frontend

open Stellovault.Auth (Keypair decodeBase64)

/-- The value of the `auth-nonce` cookie, `JSON.stringify({ nonce, publicKey })`. A value that is
not such an object makes the route throw, and it answers 500 without issuing anything. -/
structure NonceCookie where
  nonce : String
  publicKey : String
  deriving DecidableEq

/-- What `signToken` signs. -/
structure Token where
  sub : String
  type : String
  deriving DecidableEq

inductive Response where
  | failed (status : Nat) (error : String)
  /-- `{ nonce }`, setting the `auth-nonce` cookie for `maxAge` seconds. -/
  | challenged (nonce : String) (cookie : NonceCookie) (maxAge : Nat)
  /-- `{ success: true }`, setting the `accessToken` and `refreshToken` cookies and deleting
  `auth-nonce`. -/
  | verified (accessToken refreshToken : Token)
  deriving DecidableEq

structure VerifyBody where
  publicKey : Option String
  signedMessage : Option String
  signerPublicKey : Option String

/-- A string field that JavaScript reads as true. -/
def truthy (value : Option String) : Bool := value.any (· ≠ "")

/-- POST /api/v1/auth/challenge. The nonce, `randomBytes(32).toString("hex")`, is an input;
`StrKey.isValidEd25519PublicKey` accepts the keys `Keypair.fromPublicKey` does. -/
def postChallenge (keypair : Keypair) (publicKey : Option String) (nonce : String) : Response :=
  match publicKey with
  | some key => if key ≠ "" ∧ keypair.fromPublicKey key then .challenged nonce ⟨nonce, key⟩ 300
    else .failed 400 "Invalid public key"
  | none => .failed 400 "Invalid public key"

/-- POST /api/v1/auth/verify, with the `auth-nonce` cookie the request carries. -/
def postVerify (keypair : Keypair) (cookie : Option NonceCookie) (body : VerifyBody) : Response :=
  match cookie with
  | none => .failed 400 "No active challenge found"
  | some ⟨nonce, boundedPublicKey⟩ =>
    if body.publicKey ≠ some boundedPublicKey ∨
        (truthy body.signerPublicKey ∧ body.publicKey ≠ body.signerPublicKey) then
      .failed 400 "Public key mismatch"
    else match body.publicKey, body.signedMessage with
      | some publicKey, some signedMessage =>
        if publicKey = "" ∨ signedMessage = "" then .failed 400 "Missing credentials"
        -- `Keypair.fromPublicKey` throws on a key it does not accept.
        else if !keypair.fromPublicKey publicKey then .failed 500 "Internal Server Error"
        else if keypair.verify publicKey nonce (decodeBase64 signedMessage.data) then
          .verified ⟨publicKey, "access"⟩ ⟨publicKey, "refresh"⟩
        else .failed 401 "Invalid signature"
      | _, _ => .failed 400 "Missing credentials"

/-- A nonce the challenge route handed out, and when. -/
structure Produced where
  cookie : NonceCookie
  producedAt : Nat
  deriving DecidableEq

/-- A token pair the verify route issued: the nonce and the key of the cookie presented, and when. -/
structure Issuance where
  nonce : String
  publicKey : String
  tokens : Token × Token
  issuedAt : Nat
  deriving DecidableEq

structure System where
  /-- Milliseconds. -/
  now : Nat
  produced : List Produced
  issued : List Issuance
  deriving DecidableEq

/-- A request of any client, with any cookie value. -/
inductive Action where
  | challenge (publicKey : Option String) (nonce : String)
  | verify (cookie : Option NonceCookie) (body : VerifyBody)
  | elapse (milliseconds : Nat)

def step (keypair : Keypair) (sys : System) : Action → System
  | .challenge publicKey nonce =>
    match postChallenge keypair publicKey nonce with
    | .challenged _ cookie _ => { sys with produced := sys.produced ++ [⟨cookie, sys.now⟩] }
    | _ => sys
  | .verify cookie body =>
    match cookie, postVerify keypair cookie body with
    | some presented, .verified accessToken refreshToken =>
      { sys with issued := sys.issued ++
          [⟨presented.nonce, presented.publicKey, (accessToken, refreshToken), sys.now⟩] }
    | _, _ => sys
  | .elapse milliseconds => { sys with now := sys.now + milliseconds }

def run (keypair : Keypair) (sys : System) (actions : List Action) : System :=
  actions.foldl (step keypair) sys

theorem postVerify_verified {keypair : Keypair} {cookie : NonceCookie} {body : VerifyBody}
    {accessToken refreshToken : Token}
    (verified : postVerify keypair (some cookie) body = .verified accessToken refreshToken) :
    accessToken = ⟨cookie.publicKey, "access"⟩ ∧ refreshToken = ⟨cookie.publicKey, "refresh"⟩ ∧
      ∃ signedMessage, body.signedMessage = some signedMessage ∧
        keypair.verify cookie.publicKey cookie.nonce (decodeBase64 signedMessage.data) := by
  obtain ⟨nonce, boundedPublicKey⟩ := cookie
  simp only [postVerify] at verified
  split_ifs at verified with mismatch
  have bound : body.publicKey = some boundedPublicKey := not_not.mp (not_or.mp mismatch).1
  rw [bound] at verified
  cases signed : body.signedMessage with
  | none => rw [signed] at verified; cases verified
  | some signedMessage =>
    rw [signed] at verified
    simp only at verified
    split_ifs at verified with empty invalid valid
    cases verified
    exact ⟨rfl, rfl, signedMessage, rfl, valid⟩

/-- Every token pair names the key bound in the cookie presented, and that key verified a
signature over the cookie's nonce. -/
def Signed (keypair : Keypair) (sys : System) : Prop :=
  ∀ issuance ∈ sys.issued,
    issuance.tokens = (⟨issuance.publicKey, "access"⟩, ⟨issuance.publicKey, "refresh"⟩) ∧
      ∃ signature, keypair.verify issuance.publicKey issuance.nonce signature

theorem step_signed {keypair : Keypair} {sys : System} (signed : Signed keypair sys)
    (action : Action) : Signed keypair (step keypair sys action) := by
  cases action with
  | challenge publicKey nonce => simp only [step]; split <;> exact signed
  | verify cookie body =>
    simp only [step]
    split
    next presented accessToken refreshToken verified =>
      intro issuance member
      rcases List.mem_append.mp member with old | new
      · exact signed issuance old
      · obtain ⟨rfl, rfl, signedMessage, -, valid⟩ := postVerify_verified verified
        rw [List.mem_singleton.mp new]
        exact ⟨rfl, _, valid⟩
    next => exact signed
  | elapse milliseconds => exact signed

/-- The holder of `GKEY` has signed `nonce` once; `AAAA` is that signature in base64. -/
def holder : Keypair :=
  ⟨fun key => key = "GKEY", fun key message signature =>
    key = "GKEY" ∧ message = "nonce" ∧ signature = [0, 0, 0]⟩

def noSignIns : System := ⟨0, [], []⟩

def signedNonce : VerifyBody := ⟨some "GKEY", some "AAAA", none⟩

def holderTokens : Token × Token := (⟨"GKEY", "access"⟩, ⟨"GKEY", "refresh"⟩)

/-- A sign-in, then the same verify request twice more, the last after the cookie's five
minutes. -/
def replayedSignIn : List Action :=
  [.challenge (some "GKEY") "nonce", .verify (some ⟨"nonce", "GKEY"⟩) signedNonce,
    .verify (some ⟨"nonce", "GKEY"⟩) signedNonce, .elapse 301000,
    .verify (some ⟨"nonce", "GKEY"⟩) signedNonce]

theorem replayed_nonce_issues_tokens_again :
    run holder noSignIns replayedSignIn =
      ⟨301000, [⟨⟨"nonce", "GKEY"⟩, 0⟩],
        [⟨"nonce", "GKEY", holderTokens, 0⟩, ⟨"nonce", "GKEY", holderTokens, 0⟩,
          ⟨"nonce", "GKEY", holderTokens, 301000⟩]⟩ := by
  decide

end Stellovault.Frontend
