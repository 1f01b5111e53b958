import Stellovault.Frontend.AuthRoutes

set_option autoImplicit false

/-!
# Sessions of the frontend

A cookie value is a token `signToken` signed, or text `verifyToken` refuses.
-/

namespace Stellovault.Frontend

open Stellovault.Auth (Keypair)

/-- The claims of a token `signToken` signed; `iat` and `exp` are in seconds. -/
structure Jwt where
  sub : String
  type : String
  iat : Nat
  exp : Nat
  deriving DecidableEq, Repr

/-- "1h", in seconds. -/
def accessLifetime : Nat := 3600

/-- "7d", in seconds. -/
def refreshLifetime : Nat := 604800

/-- `signToken(payload, expiresIn)` at `now` milliseconds: `setIssuedAt()` and
`setExpirationTime(expiresIn)` read the clock in whole seconds. -/
def signToken (payload : Token) (expiresIn now : Nat) : Jwt :=
  ⟨payload.sub, payload.type, now / 1000, now / 1000 + expiresIn⟩

/-- A cookie value: the `index`-th token `signToken` signed, or any other text. -/
inductive CookieValue where
  | signed (index : Nat)
  | other (text : String)
  deriving DecidableEq

/-- `verifyToken` at `now` milliseconds: `jwtVerify` refuses a token whose `exp` is not after the
clock in seconds. -/
def verifyToken (signedTokens : List Jwt) (now : Nat) : CookieValue → Option Jwt
  | .signed index =>
    match signedTokens[index]? with
    | some payload => if now / 1000 < payload.exp then some payload else none
    | none => none
  | .other _ => none

def refreshAccessToken (signedTokens : List Jwt) (now : Nat) (refreshToken : CookieValue) : Option Jwt :=
  match verifyToken signedTokens now refreshToken with
  | some payload =>
    if payload.type ≠ "refresh" then none else some (signToken ⟨payload.sub, "access"⟩ accessLifetime now)
  | none => none

/-- `String.prototype.startsWith`. -/
def startsWith (text start : String) : Bool := start.data.isPrefixOf text.data

inductive ProxyResponse where
  /-- `NextResponse.next()`, setting the `accessToken` cookie when the silent refresh signed one. -/
  | next (accessToken : Option Jwt)
  | redirect (location : String)
  deriving DecidableEq

/-- The first half of `proxy`: the payload of the access token, and otherwise the access token the
silent refresh signs. -/
def checkTokens (signedTokens : List Jwt) (now : Nat) (accessToken refreshToken : Option CookieValue) :
    Option Jwt × Option Jwt :=
  match accessToken.bind (verifyToken signedTokens now) with
  | some payload => (some payload, none)
  | none => (none, refreshToken.bind (refreshAccessToken signedTokens now))

/-- `proxy`, on a path of its matcher. A redirect drops the cookie the silent refresh set on the
response of `NextResponse.next()`. -/
def proxy (signedTokens : List Jwt) (now : Nat) (pathname : String)
    (accessToken refreshToken : Option CookieValue) : ProxyResponse :=
  let checked := checkTokens signedTokens now accessToken refreshToken
  let isValid := checked.1.isSome || checked.2.isSome
  if startsWith pathname "/dashboard" && !isValid then .redirect "/login"
  else if pathname == "/login" && isValid then .redirect "/dashboard"
  else .next checked.2

/-- The sign-in routes, and every token the frontend signed, oldest first. -/
structure Session where
  sys : System
  signedTokens : List Jwt

/-- A request of the sign-in routes or time passing, or a page request through `proxy` with any
cookies. -/
inductive SessionAction where
  | auth (action : Action)
  | visit (pathname : String) (accessToken refreshToken : Option CookieValue)

/-- The tokens POST /api/v1/auth/verify signs. -/
def verifyTokens (keypair : Keypair) (now : Nat) : Action → List Jwt
  | .verify cookie body =>
    match postVerify keypair cookie body with
    | .verified accessToken refreshToken =>
      [signToken accessToken accessLifetime now, signToken refreshToken refreshLifetime now]
    | _ => []
  | _ => []

namespace Session

def step (keypair : Keypair) (session : Session) : SessionAction → Session
  | .auth action =>
    ⟨Frontend.step keypair session.sys action, session.signedTokens ++ verifyTokens keypair session.sys.now action⟩
  | .visit _ accessToken refreshToken =>
    { session with signedTokens := session.signedTokens ++
        (checkTokens session.signedTokens session.sys.now accessToken refreshToken).2.toList }

def run (keypair : Keypair) (session : Session) (actions : List SessionAction) : Session :=
  actions.foldl (step keypair) session

/-- A frontend process that has signed nothing yet, at `now`. -/
def start (now : Nat) : Session := ⟨⟨now, [], []⟩, []⟩

end Session

/-! ## The tokens a request presents -/

theorem verifyToken_some {signedTokens : List Jwt} {now : Nat} {value : CookieValue} {payload : Jwt}
    (valid : verifyToken signedTokens now value = some payload) :
    payload ∈ signedTokens ∧ now / 1000 < payload.exp := by
  cases value with
  | other => cases valid
  | signed index =>
    simp only [verifyToken] at valid
    split at valid
    next stored =>
      split_ifs at valid with unexpired
      cases valid
      exact ⟨List.getElem?_mem stored, unexpired⟩
    next => cases valid

theorem refreshAccessToken_some {signedTokens : List Jwt} {now : Nat} {value : CookieValue} {token : Jwt}
    (refreshed : refreshAccessToken signedTokens now value = some token) :
    ∃ refresh ∈ signedTokens, refresh.type = "refresh" ∧ now / 1000 < refresh.exp ∧
      token = ⟨refresh.sub, "access", now / 1000, now / 1000 + accessLifetime⟩ := by
  unfold refreshAccessToken at refreshed
  split at refreshed
  next refresh valid =>
    split_ifs at refreshed with notRefresh
    cases refreshed
    obtain ⟨member, unexpired⟩ := verifyToken_some valid
    exact ⟨refresh, member, not_not.mp notRefresh, unexpired, rfl⟩
  next => cases refreshed

theorem proxy_dashboard_valid {signedTokens : List Jwt} {now : Nat} {pathname : String}
    {accessToken refreshToken : Option CookieValue} {setCookie : Option Jwt}
    (dashboard : startsWith pathname "/dashboard" = true)
    (passed : proxy signedTokens now pathname accessToken refreshToken = .next setCookie) :
    (checkTokens signedTokens now accessToken refreshToken).1.isSome ∨
      (checkTokens signedTokens now accessToken refreshToken).2.isSome := by
  unfold proxy at passed
  by_contra invalid
  simp only [not_or, Bool.not_eq_true] at invalid
  simp [dashboard, invalid] at passed

/-! ## Every session starts at a sign-in -/

theorem issued_step {keypair : Keypair} {sys : System} {issuance : Issuance} (member : issuance ∈ sys.issued)
    (action : Action) : issuance ∈ (step keypair sys action).issued := by
  cases action with
  | challenge => simp only [step]; split <;> exact member
  | verify cookie body => simp only [step]; split <;> simp [member]
  | elapse => exact member

/-- Every signed token names the key of a sign-in, and expires at most seven days after it, and an
hour more for an access token. -/
def Rooted (session : Session) : Prop :=
  ∀ jwt ∈ session.signedTokens, ∃ issuance ∈ session.sys.issued, jwt.sub = issuance.publicKey ∧
    jwt.exp ≤ issuance.issuedAt / 1000 + refreshLifetime + if jwt.type = "refresh" then 0 else accessLifetime

theorem verifyTokens_rooted (keypair : Keypair) (sys : System) (action : Action) :
    ∀ jwt ∈ verifyTokens keypair sys.now action, ∃ issuance ∈ (step keypair sys action).issued,
      jwt.sub = issuance.publicKey ∧
        jwt.exp ≤ issuance.issuedAt / 1000 + refreshLifetime + if jwt.type = "refresh" then 0 else accessLifetime := by
  cases action with
  | verify cookie body =>
    simp only [verifyTokens, step]
    split
    next accessToken refreshToken verified =>
      cases cookie with
      | none => cases verified
      | some presented =>
        obtain ⟨rfl, rfl, -⟩ := postVerify_verified verified
        simp only [verified]
        intro jwt member
        refine ⟨⟨presented.nonce, presented.publicKey, (⟨presented.publicKey, "access"⟩,
          ⟨presented.publicKey, "refresh"⟩), sys.now⟩, by simp, ?_⟩
        simp only [List.mem_cons, List.mem_singleton, List.not_mem_nil, or_false] at member
        rcases member with rfl | rfl <;> simp [signToken, accessLifetime, refreshLifetime]
    next => simp
  | _ => simp [verifyTokens]

theorem Session.step_rooted (keypair : Keypair) {session : Session} (rooted : Rooted session)
    (action : SessionAction) : Rooted (session.step keypair action) := by
  intro jwt member
  cases action with
  | auth action =>
    rcases List.mem_append.mp member with old | new
    · obtain ⟨issuance, issued, sub, exp⟩ := rooted jwt old
      exact ⟨issuance, issued_step issued action, sub, exp⟩
    · exact verifyTokens_rooted keypair session.sys action jwt new
  | visit pathname accessToken refreshToken =>
    rcases List.mem_append.mp member with old | new
    · exact rooted jwt old
    · -- The silent refresh: an hour's access token from a refresh token of a sign-in.
      have refreshed : (checkTokens session.signedTokens session.sys.now accessToken refreshToken).2 = some jwt :=
        Option.mem_toList.mp new
      unfold checkTokens at refreshed
      split at refreshed
      · cases refreshed
      · obtain ⟨value, -, refreshing⟩ := Option.bind_eq_some.mp refreshed
        obtain ⟨refresh, stored, isRefresh, unexpired, rfl⟩ := refreshAccessToken_some refreshing
        obtain ⟨issuance, issued, sub, exp⟩ := rooted refresh stored
        rw [if_pos isRefresh] at exp
        exact ⟨issuance, issued, sub, by simp only [if_neg (by decide : "access" ≠ "refresh")]; omega⟩

theorem Session.run_rooted (keypair : Keypair) {session : Session} (rooted : Rooted session)
    (actions : List SessionAction) : Rooted (session.run keypair actions) := by
  induction actions generalizing session with
  | nil => exact rooted
  | cons action rest ih => exact ih (Session.step_rooted keypair rooted action)

theorem Session.run_keeps_signed (keypair : Keypair) {session : Session} (signed : Signed keypair session.sys)
    (actions : List SessionAction) : Signed keypair (session.run keypair actions).sys := by
  induction actions generalizing session with
  | nil => exact signed
  | cons action rest ih =>
    apply ih
    cases action with
    | auth action => exact step_signed signed action
    | visit => exact signed

theorem checkTokens_within_session {session : Session} (rooted : Rooted session)
    {accessToken refreshToken : Option CookieValue}
    (valid : (checkTokens session.signedTokens session.sys.now accessToken refreshToken).1.isSome ∨
      (checkTokens session.signedTokens session.sys.now accessToken refreshToken).2.isSome) :
    ∃ issuance ∈ session.sys.issued,
      session.sys.now / 1000 < issuance.issuedAt / 1000 + refreshLifetime + accessLifetime := by
  unfold checkTokens at valid
  split at valid
  next payload presented =>
    obtain ⟨value, -, verified⟩ := Option.bind_eq_some.mp presented
    obtain ⟨member, unexpired⟩ := verifyToken_some verified
    obtain ⟨issuance, issued, -, exp⟩ := rooted payload member
    refine ⟨issuance, issued, ?_⟩
    split_ifs at exp <;> omega
  next =>
    obtain ⟨token, refreshed⟩ := Option.isSome_iff_exists.mp (valid.resolve_left (by simp))
    obtain ⟨value, -, refreshing⟩ := Option.bind_eq_some.mp refreshed
    obtain ⟨refresh, stored, isRefresh, unexpired, -⟩ := refreshAccessToken_some refreshing
    obtain ⟨issuance, issued, -, exp⟩ := rooted refresh stored
    rw [if_pos isRefresh] at exp
    exact ⟨issuance, issued, by omega⟩

theorem dashboard_access_within_session (keypair : Keypair) (now : Nat) (actions : List SessionAction)
    (pathname : String) (accessToken refreshToken : Option CookieValue) {setCookie : Option Jwt}
    (dashboard : startsWith pathname "/dashboard" = true)
    (passed : proxy ((Session.start now).run keypair actions).signedTokens
      ((Session.start now).run keypair actions).sys.now pathname accessToken refreshToken = .next setCookie) :
    ∃ issuance ∈ ((Session.start now).run keypair actions).sys.issued,
      ((Session.start now).run keypair actions).sys.now / 1000 <
          issuance.issuedAt / 1000 + refreshLifetime + accessLifetime ∧
        ∃ signature, keypair.verify issuance.publicKey issuance.nonce signature := by
  obtain ⟨issuance, issued, within⟩ :=
    checkTokens_within_session (Session.run_rooted keypair (fun _ member => by cases member) actions)
      (proxy_dashboard_valid dashboard passed)
  exact ⟨issuance, issued, within, (Session.run_keeps_signed keypair (fun _ member => by cases member) actions
    issuance issued).2⟩

/-- One sign-in of the holder of `GKEY`, and a second after it. -/
def signIn : List SessionAction :=
  [.auth (.challenge (some "GKEY") "nonce"), .auth (.verify (some ⟨"nonce", "GKEY"⟩) signedNonce),
    .auth (.elapse 1000)]

theorem visit_after_sign_in_within_session :
    startsWith "/dashboard" "/dashboard" = true ∧
      proxy ((Session.start 0).run holder signIn).signedTokens
          ((Session.start 0).run holder signIn).sys.now "/dashboard" (some (.signed 0)) none = .next none ∧
      ∃ issuance ∈ ((Session.start 0).run holder signIn).sys.issued,
        ((Session.start 0).run holder signIn).sys.now / 1000 <
            issuance.issuedAt / 1000 + refreshLifetime + accessLifetime ∧
          ∃ signature, holder.verify issuance.publicKey issuance.nonce signature :=
  ⟨by decide, by decide,
    @dashboard_access_within_session holder 0 signIn "/dashboard" (some (.signed 0)) none none
      (by decide) (by decide)⟩

end Stellovault.Frontend
