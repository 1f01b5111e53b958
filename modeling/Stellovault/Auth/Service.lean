import Stellovault.Auth.Store
import Stellovault.Auth.Signature

set_option autoImplicit false

namespace Stellovault.Auth

/-- What the services call of `Keypair` in `@stellar/stellar-sdk`. -/
structure Keypair where
  /-- `Keypair.fromPublicKey(address)` returns instead of throwing. -/
  fromPublicKey : String → Bool
  /-- `Keypair.fromPublicKey(address).verify(message, signature)`. -/
  verify : String → String → List UInt8 → Bool

def challengeTtlMs : Nat := 10 * 60 * 1000

structure Challenge where
  nonce : String
  expiresAt : Nat
  message : String
  deriving DecidableEq, Repr

def normalizeAddress (address : String) : Except AppError String :=
  (requireNonEmptyString (some address) "walletAddress").map toUpperCase

def buildChallengeMessage (purpose : ChallengePurpose) (nonce : String) : String :=
  let action := match purpose with
    | .login => "login"
    | .linkWallet => "link-wallet"
  "stellovault:" ++ action ++ ":" ++ nonce

/-- `UserService.normalise`. -/
def normalise (address : String) : String :=
  toUpperCase (trim address)

section

variable (keypair : Keypair)

def assertValidStellarAddress (address : String) : Except AppError Unit :=
  if keypair.fromPublicKey address then .ok ()
  else .error (.validationError "Invalid Stellar wallet address")

def verifyAndConsumeChallenge (db : Store) (address nonce signature : String)
    (purpose : ChallengePurpose) (userId : Option Nat) : Except AppError Store := do
  let normalizedNonce ← requireNonEmptyString (some nonce) "nonce"
  let message := buildChallengeMessage purpose normalizedNonce
  let signatureBytes ← decodeSignature signature
  if !keypair.verify address message signatureBytes then
    throw (.unauthorizedError "Invalid signature")
  textParameters [normalizedNonce]
  let (count, db) := db.consumeChallenges address normalizedNonce purpose userId
  if count ≠ 1 then
    throw (.unauthorizedError "Invalid or expired challenge")
  return db

/-- `generateChallenge`; the nonce, `randomBytes(24).toString("hex")`, is an input. -/
def generateChallenge (address : String) (purpose : ChallengePurpose) (userId : Option Nat)
    (nonce : String) (db : Store) : Except AppError (Challenge × Store) := do
  let normalizedAddress ← normalizeAddress address
  assertValidStellarAddress keypair normalizedAddress
  if purpose = .linkWallet ∧ userId = none then
    throw (.validationError "userId is required for wallet linking challenges")
  let expiresAt := db.now + challengeTtlMs
  textParameters [normalizedAddress, nonce]
  let (_, db) ← db.createWalletChallenge normalizedAddress nonce purpose userId expiresAt
  return (⟨nonce, expiresAt, buildChallengeMessage purpose nonce⟩, db)

/-- The body of the `linkWallet` transaction. -/
def linkWalletTransaction (userId : Nat) (normalizedAddress nonce signature : String)
    (label : Option String) (tx : Store) : Except AppError (Wallet × Store) := do
  tx.lockUserRow userId
  textParameters [normalizedAddress]
  if (tx.findWalletByAddress normalizedAddress).isSome then
    throw (.conflictError "Wallet address is already linked")
  if (tx.findUserByStellarAddress normalizedAddress).any (·.id ≠ userId) then
    throw (.conflictError "Wallet address is already linked")
  let tx ← verifyAndConsumeChallenge keypair tx normalizedAddress nonce signature .linkWallet
    (some userId)
  let isPrimary := tx.countWallets userId = 0
  textParameters (trimToNull label).toList
  let (createdWallet, tx) ← tx.createWallet userId normalizedAddress (trimToNull label) isPrimary
  let tx ← if isPrimary then tx.updateUserStellarAddress userId normalizedAddress else pure tx
  return (createdWallet, tx)

/-- The `catch` of `linkWallet`: a `P2002` from the store becomes a `ConflictError`. -/
def mapUniqueViolation {α : Type} : Except AppError α → Except AppError α
  | .error (.store (.uniqueViolation _)) => .error (.conflictError "Wallet address is already linked")
  | result => result

def linkWallet (userId : Nat) (address nonce signature : String) (label : Option String)
    (db : Store) : Except AppError (Wallet × Store) := do
  let normalizedAddress ← normalizeAddress address
  assertValidStellarAddress keypair normalizedAddress
  mapUniqueViolation (linkWalletTransaction keypair userId normalizedAddress nonce signature label db)

end

def unlinkWalletTransaction (userId walletId : Nat) (tx : Store) :
    Except AppError (Unit × Store) := do
  tx.lockUserRow userId
  let wallets := tx.walletsOf userId
  let some wallet := wallets.find? (·.id = walletId)
    | throw (.notFoundError "Wallet not found")
  if wallets.length ≤ 1 then
    throw (.validationError "Cannot unlink the only wallet")
  let tx ← if wallet.isPrimary then do
      let some replacement := wallets.find? (·.id ≠ walletId)
        | throw (.validationError "Cannot unlink the only primary wallet")
      let (_, tx) ← (tx.clearPrimary userId).updateWallet replacement.id
        fun wallet => { wallet with isPrimary := true }
      tx.updateUserStellarAddress userId replacement.address
    else pure tx
  let tx ← tx.deleteWallet walletId
  return ((), tx)

def setPrimaryWalletTransaction (userId walletId : Nat) (tx : Store) :
    Except AppError (Wallet × Store) := do
  tx.lockUserRow userId
  if (tx.findWallet walletId userId).isNone then
    throw (.notFoundError "Wallet not found")
  let (updatedWallet, tx) ← (tx.clearPrimary userId).updateWallet walletId
    fun wallet => { wallet with isPrimary := true }
  let tx ← tx.updateUserStellarAddress userId updatedWallet.address
  return (updatedWallet, tx)

def updateWalletLabel (userId walletId : Nat) (label : Option String) (db : Store) :
    Except AppError (Wallet × Store) := do
  if (db.findWallet walletId userId).isNone then
    throw (.notFoundError "Wallet not found")
  textParameters (trimToNull label).toList
  db.updateWallet walletId fun wallet => { wallet with label := trimToNull label }

/-- `UserService.createUser`. -/
def createUser (keypair : Keypair) (stellarAddress : Option String) (db : Store) :
    Except AppError (User × Store) := do
  let some address := stellarAddress
    | throw (.validationError "stellarAddress is required")
  if trim address = "" then
    throw (.validationError "stellarAddress is required")
  let normalised := normalise address
  assertValidStellarAddress keypair normalised
  textParameters [normalised]
  return db.upsertUser normalised

/-- A call into the services, with the inputs the environment chooses. -/
inductive Request where
  | createUser (stellarAddress : Option String)
  | generateChallenge (address : String) (purpose : ChallengePurpose) (userId : Option Nat)
      (nonce : String)
  | linkWallet (userId : Nat) (address nonce signature : String) (label : Option String)
  | unlinkWallet (userId walletId : Nat)
  | setPrimaryWallet (userId walletId : Nat)
  | updateWalletLabel (userId walletId : Nat) (label : Option String)
  | elapse (milliseconds : Nat)
  deriving DecidableEq, Repr

/-- The writes of a call that returns. -/
def serve (keypair : Keypair) : Request → Store → Except AppError Store
  | .createUser stellarAddress, db => (createUser keypair stellarAddress db).map Prod.snd
  | .generateChallenge address purpose userId nonce, db =>
      (generateChallenge keypair address purpose userId nonce db).map Prod.snd
  | .linkWallet userId address nonce signature label, db =>
      (linkWallet keypair userId address nonce signature label db).map Prod.snd
  | .unlinkWallet userId walletId, db => (unlinkWalletTransaction userId walletId db).map Prod.snd
  | .setPrimaryWallet userId walletId, db =>
      (setPrimaryWalletTransaction userId walletId db).map Prod.snd
  | .updateWalletLabel userId walletId label, db =>
      (updateWalletLabel userId walletId label db).map Prod.snd
  | .elapse milliseconds, db => .ok { db with now := db.now + milliseconds }

/-- Each call runs alone against the store: the wallet writes of one user are serialized by
the lock on the user's row, and a call that throws writes nothing. -/
def step (keypair : Keypair) (db : Store) (request : Request) : Store :=
  match serve keypair request db with
  | .ok db' => db'
  | .error _ => db

def run (keypair : Keypair) (db : Store) (requests : List Request) : Store :=
  requests.foldl (step keypair) db

section

variable {keypair : Keypair}

theorem verifyAndConsumeChallenge_ok {db db' : Store} {address nonce signature : String}
    {purpose : ChallengePurpose} {userId : Option Nat}
    (ok : verifyAndConsumeChallenge keypair db address nonce signature purpose userId = .ok db') :
    trim nonce ≠ "" ∧ ∃ signatureBytes, decodeSignature signature = .ok signatureBytes ∧
      keypair.verify address (buildChallengeMessage purpose (trim nonce)) signatureBytes ∧
      (db.consumeChallenges address (trim nonce) purpose userId).1 = 1 ∧
      db' = (db.consumeChallenges address (trim nonce) purpose userId).2 := by
  simp only [verifyAndConsumeChallenge, except_bind_ok] at ok
  obtain ⟨normalizedNonce, accepted, bytes, decoded, ok⟩ := ok
  obtain ⟨same, blank⟩ := requireNonEmptyString_ok _ _ _ accepted
  cases Option.some.inj same
  refine ⟨blank, bytes, decoded, ?_⟩
  split at ok
  · simp at ok
  · split at ok <;> simp_all

theorem verifyAndConsumeChallenge_frame {db db' : Store} {address nonce signature : String}
    {purpose : ChallengePurpose} {userId : Option Nat}
    (ok : verifyAndConsumeChallenge keypair db address nonce signature purpose userId = .ok db') :
    db'.users = db.users ∧ db'.wallets = db.wallets ∧ db'.nextId = db.nextId ∧ db'.now = db.now := by
  obtain ⟨-, -, -, -, -, rfl⟩ := verifyAndConsumeChallenge_ok ok
  simp

theorem linkWalletTransaction_ok {userId : Nat} {normalizedAddress nonce signature : String}
    {label : Option String} {tx tx' : Store} {wallet : Wallet}
    (ok : linkWalletTransaction keypair userId normalizedAddress nonce signature label tx =
      .ok (wallet, tx')) :
    tx.userExists userId ∧ (∀ other ∈ tx.wallets, other.address ≠ normalizedAddress) ∧
      (∀ owner ∈ tx.findUserByStellarAddress normalizedAddress, owner.id = userId) ∧
      ∃ consumed, verifyAndConsumeChallenge keypair tx normalizedAddress nonce signature
          .linkWallet (some userId) = .ok consumed ∧
        wallet = ⟨tx.nextId, userId, normalizedAddress, tx.countWallets userId = 0,
          trimToNull label, tx.now⟩ ∧
        (tx.countWallets userId = 0 →
          ∀ user ∈ tx.users, user.stellarAddress = normalizedAddress → user.id = userId) ∧
        tx' = { tx with
          users := if tx.countWallets userId = 0 then
            tx.users.map (Store.assignStellarAddress userId normalizedAddress) else tx.users,
          wallets := tx.wallets ++ [wallet], walletChallenges := consumed.walletChallenges,
          nextId := tx.nextId + 1 } := by
  simp only [linkWalletTransaction, except_bind_ok] at ok
  obtain ⟨⟨⟩, locked, ⟨⟩, -, ok⟩ := ok
  split at ok
  · simp at ok
  split at ok
  · simp at ok
  next _ unowned =>
  simp only [except_pure, except_bind_ok, true_and, exists_const] at ok
  obtain ⟨consumed, verified, ⟨⟩, -, ⟨created, createdStore⟩, creation, ok⟩ := ok
  obtain ⟨sameUsers, sameWallets, sameNext, sameNow⟩ := verifyAndConsumeChallenge_frame verified
  have sameCount : consumed.countWallets userId = tx.countWallets userId := by
    simp only [Store.countWallets, sameWallets]
  obtain ⟨free, rfl, rfl⟩ := Store.createWallet_ok.mp creation
  simp only [sameUsers, sameWallets, sameNext, sameNow, sameCount] at free ok ⊢
  refine ⟨(Store.lockUserRow_ok userId).mp locked, free, ?_, consumed, verified, ?_⟩
  · intro owner found
    simp only [Option.mem_def] at found
    simpa [found] using unowned
  split at ok
  next first =>
    obtain ⟨updated, assigned, same⟩ := except_bind_ok.mp ok
    obtain ⟨-, owned, rfl⟩ := Store.updateUserStellarAddress_ok.mp assigned
    simp only [Except.ok.injEq, Prod.mk.injEq] at same
    obtain ⟨rfl, rfl⟩ := same
    refine ⟨rfl, fun _ => owned, ?_⟩
    simp [first]
  next later =>
    simp only [except_pure, except_bind_ok, Except.ok.injEq, Prod.mk.injEq, exists_eq_left] at ok
    obtain ⟨a, rfl, rfl, rfl⟩ := ok
    exact ⟨rfl, fun first => absurd first later, by simp [later]⟩

theorem mapUniqueViolation_ok {α : Type} {result : Except AppError α} {value : α} :
    mapUniqueViolation result = .ok value ↔ result = .ok value := by
  unfold mapUniqueViolation; split <;> simp_all

theorem linkWallet_ok {userId : Nat} {address nonce signature : String} {label : Option String}
    {db db' : Store} {wallet : Wallet}
    (ok : linkWallet keypair userId address nonce signature label db = .ok (wallet, db')) :
    ∃ normalizedAddress, normalizeAddress address = .ok normalizedAddress ∧
      linkWalletTransaction keypair userId normalizedAddress nonce signature label db =
        .ok (wallet, db') := by
  simp only [linkWallet, except_bind_ok, mapUniqueViolation_ok] at ok
  obtain ⟨normalizedAddress, normalized, -, -, transaction⟩ := ok
  exact ⟨normalizedAddress, normalized, transaction⟩

theorem unlinkWalletTransaction_ok {userId walletId : Nat} {tx tx' : Store} {result : Unit}
    (ok : unlinkWalletTransaction userId walletId tx = .ok (result, tx')) :
    tx.userExists userId ∧ 1 < tx.countWallets userId ∧
      ∃ wallet ∈ tx.wallets, wallet.id = walletId ∧ wallet.userId = userId ∧
        if wallet.isPrimary then
          ∃ replacement ∈ tx.wallets, replacement.userId = userId ∧ replacement.id ≠ walletId ∧
            (∀ user ∈ tx.users, user.stellarAddress = replacement.address → user.id = userId) ∧
            tx' = { tx with
              users := tx.users.map (Store.assignStellarAddress userId replacement.address),
              wallets := (tx.wallets.map (Store.promote userId replacement.id)).filter
                fun other => other.id ≠ walletId }
        else tx' = { tx with wallets := tx.wallets.filter fun other => other.id ≠ walletId } := by
  simp only [unlinkWalletTransaction, except_bind_ok] at ok
  obtain ⟨⟨⟩, locked, ok⟩ := ok
  split at ok
  swap
  · simp at ok
  rename_i wallet found
  split at ok
  · simp at ok
  rename_i several
  obtain ⟨member, owned, same⟩ := Store.find_walletsOf found
  refine ⟨(Store.lockUserRow_ok userId).mp locked, by
    rw [Store.countWallets_eq_length]; omega, wallet, member, by simpa using same, owned, ?_⟩
  simp only [except_pure, except_bind_ok, exists_const, true_and] at ok
  split at ok
  next primary =>
    simp only [primary, if_true]
    split at ok
    next replacement chosen =>
      obtain ⟨chosenMember, chosenOwned, other⟩ := Store.find_walletsOf chosen
      simp only [except_bind_ok] at ok
      obtain ⟨⟨updated, promoted⟩, promotion, assigned, assignment, deleted, deletion, same⟩ := ok
      obtain ⟨_, -, -, rfl⟩ := Store.promotePrimary_ok.mp promotion
      obtain ⟨-, unique, rfl⟩ := Store.updateUserStellarAddress_ok.mp assignment
      obtain ⟨-, rfl⟩ := Store.deleteWallet_ok.mp deletion
      cases same
      exact ⟨replacement, chosenMember, chosenOwned, by simpa using other, unique, rfl⟩
    next => simp at ok
  next secondary =>
    simp only [secondary, if_false, Bool.false_eq_true]
    simp only [except_pure, except_bind_ok] at ok
    obtain ⟨kept, keptSame, deleted, deletion, same⟩ := ok
    cases keptSame
    obtain ⟨-, rfl⟩ := Store.deleteWallet_ok.mp deletion
    cases same
    rfl

theorem setPrimaryWalletTransaction_ok {userId walletId : Nat} {tx tx' : Store}
    {updated : Wallet}
    (ok : setPrimaryWalletTransaction userId walletId tx = .ok (updated, tx')) :
    tx.userExists userId ∧ (∃ owned ∈ tx.wallets, owned.id = walletId ∧ owned.userId = userId) ∧
      ∃ wallet, tx.wallets.find? (fun wallet => wallet.id = walletId) = some wallet ∧
        updated = { wallet with isPrimary := true } ∧
        (∀ user ∈ tx.users, user.stellarAddress = wallet.address → user.id = userId) ∧
        tx' = { tx with
          users := tx.users.map (Store.assignStellarAddress userId wallet.address),
          wallets := tx.wallets.map (Store.promote userId walletId) } := by
  simp only [setPrimaryWalletTransaction, except_bind_ok] at ok
  obtain ⟨⟨⟩, locked, ok⟩ := ok
  split at ok
  · simp at ok
  rename_i present
  simp only [except_pure, except_bind_ok, exists_const, true_and] at ok
  obtain ⟨⟨promotedWallet, promoted⟩, promotion, assigned, assignment, same⟩ := ok
  obtain ⟨wallet, found, rfl, rfl⟩ := Store.promotePrimary_ok.mp promotion
  obtain ⟨-, unique, rfl⟩ := Store.updateUserStellarAddress_ok.mp assignment
  simp only [Except.ok.injEq, Prod.mk.injEq] at same
  obtain ⟨rfl, rfl⟩ := same
  exact ⟨(Store.lockUserRow_ok userId).mp locked,
    Store.findWallet_isSome (Option.ne_none_iff_isSome.mp (by simpa using present)), wallet, found,
    rfl, unique, rfl⟩

theorem updateWalletLabel_ok {userId walletId : Nat} {label : Option String} {db db' : Store}
    {updated : Wallet} (ok : updateWalletLabel userId walletId label db = .ok (updated, db')) :
    (∃ owned ∈ db.wallets, owned.id = walletId ∧ owned.userId = userId) ∧
      db' = { db with wallets := db.wallets.map fun wallet =>
        if wallet.id = walletId then { wallet with label := trimToNull label } else wallet } := by
  simp only [updateWalletLabel] at ok
  split at ok
  · simp at ok
  rename_i present
  simp only [except_pure, except_bind_ok, exists_const, true_and] at ok
  obtain ⟨⟨⟩, -, ok⟩ := ok
  obtain ⟨-, -, -, rfl⟩ := Store.updateWallet_ok.mp ok
  exact ⟨Store.findWallet_isSome (Option.ne_none_iff_isSome.mp (by simpa using present)), rfl⟩

theorem createUser_ok {stellarAddress : Option String} {db db' : Store} {user : User}
    (ok : createUser keypair stellarAddress db = .ok (user, db')) :
    ∃ address, stellarAddress = some address ∧ keypair.fromPublicKey (normalise address) ∧
      db.upsertUser (normalise address) = (user, db') := by
  simp only [createUser] at ok
  split at ok
  swap
  · simp at ok
  rename_i address
  split at ok
  · simp at ok
  simp only [except_pure, except_bind_ok, exists_const, true_and, assertValidStellarAddress] at ok
  split at ok
  · simp only [except_bind_ok, Except.ok.injEq, exists_eq_left, true_and] at ok
    obtain ⟨_, ⟨⟩, -, upserted⟩ := ok
    exact ⟨address, rfl, by assumption, upserted⟩
  · simp at ok

theorem generateChallenge_ok {address : String} {purpose : ChallengePurpose}
    {userId : Option Nat} {nonce : String} {db db' : Store} {challenge : Challenge}
    (ok : generateChallenge keypair address purpose userId nonce db = .ok (challenge, db')) :
    ∃ normalizedAddress, normalizeAddress address = .ok normalizedAddress ∧
      keypair.fromPublicKey normalizedAddress ∧ ¬ (purpose = .linkWallet ∧ userId = none) ∧
      ∃ row, db.createWalletChallenge normalizedAddress nonce purpose userId
        (db.now + challengeTtlMs) = .ok (row, db') := by
  simp only [generateChallenge, except_bind_ok, assertValidStellarAddress] at ok
  obtain ⟨normalizedAddress, normalized, ⟨⟩, valid, ok⟩ := ok
  split at valid
  · rename_i accepted
    split at ok
    · simp at ok
    rename_i allowed
    simp only [except_pure, except_bind_ok, exists_const, true_and] at ok
    obtain ⟨⟨⟩, -, ⟨row, created⟩, creation, same⟩ := ok
    simp only [Except.ok.injEq, Prod.mk.injEq] at same
    obtain ⟨-, rfl⟩ := same
    exact ⟨normalizedAddress, normalized, accepted, allowed, row, creation⟩
  · simp at valid

end

theorem step_of_error (keypair : Keypair) (db : Store) (request : Request) (error : AppError)
    (failed : serve keypair request db = .error error) : step keypair db request = db := by
  simp [step, failed]

end Stellovault.Auth
