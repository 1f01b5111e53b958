import Stellovault.Shared.Runtime

set_option autoImplicit false

namespace Stellovault.Auth

structure User where
  id : Nat
  stellarAddress : String
  deriving DecidableEq, Repr

structure Wallet where
  id : Nat
  userId : Nat
  address : String
  isPrimary : Bool
  label : Option String
  createdAt : Nat
  deriving DecidableEq, Repr

inductive ChallengePurpose where
  | login
  | linkWallet
  deriving DecidableEq, Repr

structure WalletChallenge where
  id : Nat
  userId : Option Nat
  walletAddress : String
  nonce : String
  purpose : ChallengePurpose
  expiresAt : Nat
  usedAt : Option Nat
  deriving DecidableEq, Repr

/-- The `User`, `Wallet` and `WalletChallenge` tables, the allocator behind their
primary keys, and the clock in milliseconds. Rows are kept in insertion order, which is
`createdAt` order. -/
structure Store where
  users : List User
  wallets : List Wallet
  walletChallenges : List WalletChallenge
  nextId : Nat
  now : Nat
  deriving DecidableEq, Repr

namespace Store

variable (tx : Store)

def userExists (userId : Nat) : Bool :=
  tx.users.any fun user => user.id = userId

def findWalletByAddress (address : String) : Option Wallet :=
  tx.wallets.find? fun wallet => wallet.address = address

def findUserByStellarAddress (address : String) : Option User :=
  tx.users.find? fun user => user.stellarAddress = address

/-- `wallet.findMany({ where: { userId }, orderBy: { createdAt: "asc" } })`. -/
def walletsOf (userId : Nat) : List Wallet :=
  tx.wallets.filter fun wallet => wallet.userId = userId

def countWallets (userId : Nat) : Nat :=
  tx.wallets.countP fun wallet => wallet.userId = userId

/-- `wallet.findFirst({ where: { id: walletId, userId } })`. -/
def findWallet (walletId userId : Nat) : Option Wallet :=
  tx.wallets.find? fun wallet => wallet.id = walletId ∧ wallet.userId = userId

/-- `SELECT id FROM "User" WHERE id = userId FOR UPDATE`. -/
def lockUserRow (userId : Nat) : Except AppError Unit :=
  if tx.userExists userId then .ok () else .error (.notFoundError "User not found")

def createWallet (userId : Nat) (address : String) (label : Option String) (isPrimary : Bool) :
    Except AppError (Wallet × Store) :=
  if tx.wallets.any (fun wallet => wallet.address = address) then
    .error (.store (.uniqueViolation "Wallet_address_key"))
  else
    let wallet : Wallet := ⟨tx.nextId, userId, address, isPrimary, label, tx.now⟩
    .ok (wallet, { tx with wallets := tx.wallets ++ [wallet], nextId := tx.nextId + 1 })

def assignStellarAddress (userId : Nat) (address : String) (user : User) : User :=
  if user.id = userId then { user with stellarAddress := address } else user

/-- `user.update({ where: { id: userId }, data: { stellarAddress: address } })`, under the
unique index `User_stellarAddress_key`. -/
def updateUserStellarAddress (userId : Nat) (address : String) : Except AppError Store :=
  if !tx.userExists userId then .error (.store (.recordNotFound "User"))
  else if tx.users.any (fun user => user.id ≠ userId ∧ user.stellarAddress = address) then
    .error (.store (.uniqueViolation "User_stellarAddress_key"))
  else .ok { tx with users := tx.users.map (assignStellarAddress userId address) }

def unsetPrimary (userId : Nat) (wallet : Wallet) : Wallet :=
  if wallet.userId = userId then { wallet with isPrimary := false } else wallet

/-- `wallet.updateMany({ where: { userId }, data: { isPrimary: false } })`. -/
def clearPrimary (userId : Nat) : Store :=
  { tx with wallets := tx.wallets.map (unsetPrimary userId) }

/-- `wallet.update({ where: { id: walletId }, data })`. -/
def updateWallet (walletId : Nat) (data : Wallet → Wallet) : Except AppError (Wallet × Store) :=
  match tx.wallets.find? (fun wallet => wallet.id = walletId) with
  | some wallet =>
      .ok (data wallet, { tx with wallets := tx.wallets.map fun other =>
        if other.id = walletId then data other else other })
  | none => .error (.store (.recordNotFound "Wallet"))

def deleteWallet (walletId : Nat) : Except AppError Store :=
  if tx.wallets.any (fun wallet => wallet.id = walletId) then
    .ok { tx with wallets := tx.wallets.filter fun wallet => wallet.id ≠ walletId }
  else .error (.store (.recordNotFound "Wallet"))

/-- `user.upsert({ where: { stellarAddress }, update: {}, create: { stellarAddress } })`. -/
def upsertUser (stellarAddress : String) : User × Store :=
  match tx.findUserByStellarAddress stellarAddress with
  | some user => (user, tx)
  | none =>
      let user : User := ⟨tx.nextId, stellarAddress⟩
      (user, { tx with users := tx.users ++ [user], nextId := tx.nextId + 1 })

def createWalletChallenge (walletAddress nonce : String) (purpose : ChallengePurpose)
    (userId : Option Nat) (expiresAt : Nat) : Except AppError (WalletChallenge × Store) :=
  if tx.walletChallenges.any (fun challenge => challenge.walletAddress = walletAddress ∧
      challenge.nonce = nonce ∧ challenge.purpose = purpose) then
    .error (.store (.uniqueViolation "WalletChallenge_walletAddress_nonce_purpose_key"))
  else if userId.any (!tx.userExists ·) then
    .error (.store (.foreignKeyViolation "WalletChallenge_userId_fkey"))
  else
    let challenge : WalletChallenge :=
      ⟨tx.nextId, userId, walletAddress, nonce, purpose, expiresAt, none⟩
    .ok (challenge,
      { tx with walletChallenges := tx.walletChallenges ++ [challenge], nextId := tx.nextId + 1 })

/-- The `where` of the consuming `walletChallenge.updateMany`: the `userId` clause is added
only when a user id is supplied. -/
def consumable (walletAddress nonce : String) (purpose : ChallengePurpose) (userId : Option Nat)
    (now : Nat) (challenge : WalletChallenge) : Bool :=
  challenge.walletAddress = walletAddress ∧ challenge.nonce = nonce ∧ challenge.purpose = purpose ∧
    challenge.usedAt = none ∧ now < challenge.expiresAt ∧
    userId.all fun id => challenge.userId = some id

/-- `walletChallenge.updateMany({ where, data: { usedAt: now } })`: the count of rows
matched, and the store with each of them marked used. -/
def consumeChallenges (walletAddress nonce : String) (purpose : ChallengePurpose)
    (userId : Option Nat) : Nat × Store :=
  let selected := consumable walletAddress nonce purpose userId tx.now
  (tx.walletChallenges.countP selected,
    { tx with walletChallenges := tx.walletChallenges.map fun challenge =>
      if selected challenge then { challenge with usedAt := some tx.now } else challenge })

/-- A row after `clearPrimary userId` and then `updateWallet walletId` setting `isPrimary`. -/
def promote (userId walletId : Nat) (wallet : Wallet) : Wallet :=
  if wallet.id = walletId then { wallet with isPrimary := true }
  else if wallet.userId = userId then { wallet with isPrimary := false } else wallet

variable {tx}

@[simp] theorem clearPrimary_users (userId : Nat) : (tx.clearPrimary userId).users = tx.users := rfl

@[simp] theorem consumeChallenges_users (address nonce : String) (purpose : ChallengePurpose)
    (userId : Option Nat) : (tx.consumeChallenges address nonce purpose userId).2.users = tx.users :=
  rfl

@[simp] theorem consumeChallenges_wallets (address nonce : String) (purpose : ChallengePurpose)
    (userId : Option Nat) :
    (tx.consumeChallenges address nonce purpose userId).2.wallets = tx.wallets := rfl

@[simp] theorem consumeChallenges_nextId (address nonce : String) (purpose : ChallengePurpose)
    (userId : Option Nat) :
    (tx.consumeChallenges address nonce purpose userId).2.nextId = tx.nextId := rfl

@[simp] theorem consumeChallenges_now (address nonce : String) (purpose : ChallengePurpose)
    (userId : Option Nat) : (tx.consumeChallenges address nonce purpose userId).2.now = tx.now :=
  rfl

theorem find_walletsOf {userId : Nat} {select : Wallet → Bool} {wallet : Wallet}
    (found : (tx.walletsOf userId).find? select = some wallet) :
    wallet ∈ tx.wallets ∧ wallet.userId = userId ∧ select wallet := by
  have member := List.mem_of_find?_eq_some found
  simp only [walletsOf, List.mem_filter, decide_eq_true_eq] at member
  exact ⟨member.1, member.2, List.find?_some found⟩

theorem findWallet_isSome {walletId userId : Nat} (found : (tx.findWallet walletId userId).isSome) :
    ∃ wallet ∈ tx.wallets, wallet.id = walletId ∧ wallet.userId = userId := by
  simpa [findWallet, List.find?_isSome] using found

@[simp] theorem mem_walletsOf {userId : Nat} {wallet : Wallet} :
    wallet ∈ tx.walletsOf userId ↔ wallet ∈ tx.wallets ∧ wallet.userId = userId := by
  simp [walletsOf]

theorem promote_of_other {userId walletId : Nat} {wallet : Wallet} (other : wallet.id ≠ walletId)
    (notOwned : wallet.userId ≠ userId) : promote userId walletId wallet = wallet := by
  simp [promote, other, notOwned]

theorem promote_isPrimary_owned {userId walletId : Nat} {wallet : Wallet}
    (owned : wallet.userId = userId) :
    (promote userId walletId wallet).isPrimary = decide (wallet.id = walletId) := by
  by_cases same : wallet.id = walletId <;> simp [promote, same, owned]

theorem countWallets_eq_length (userId : Nat) :
    tx.countWallets userId = (tx.walletsOf userId).length :=
  List.countP_eq_length_filter _ _

theorem lockUserRow_ok (userId : Nat) : tx.lockUserRow userId = .ok () ↔ tx.userExists userId := by
  unfold lockUserRow; split <;> simp_all

theorem createWallet_ok {userId : Nat} {address : String} {label : Option String}
    {isPrimary : Bool} {wallet : Wallet} {tx' : Store} :
    tx.createWallet userId address label isPrimary = .ok (wallet, tx') ↔
      (∀ other ∈ tx.wallets, other.address ≠ address) ∧
        wallet = ⟨tx.nextId, userId, address, isPrimary, label, tx.now⟩ ∧
        tx' = { tx with wallets := tx.wallets ++ [wallet], nextId := tx.nextId + 1 } := by
  unfold createWallet
  split
  next taken =>
    obtain ⟨other, member, same⟩ := by simpa using taken
    refine iff_of_false (by simp) ?_
    rintro ⟨free, -⟩
    exact free other member same
  next free =>
    simp only [List.any_eq_true, decide_eq_true_eq, not_exists, not_and] at free
    simp only [Except.ok.injEq, Prod.mk.injEq]
    constructor
    · rintro ⟨rfl, rfl⟩; exact ⟨free, rfl, rfl⟩
    · rintro ⟨-, rfl, rfl⟩; exact ⟨rfl, rfl⟩

theorem updateUserStellarAddress_ok {userId : Nat} {address : String} {tx' : Store} :
    tx.updateUserStellarAddress userId address = .ok tx' ↔
      tx.userExists userId ∧ (∀ user ∈ tx.users, user.stellarAddress = address → user.id = userId) ∧
        tx' = { tx with users := tx.users.map (assignStellarAddress userId address) } := by
  unfold updateUserStellarAddress
  split
  next missing => simp_all
  next present =>
    split
    next taken =>
      obtain ⟨user, member, other, same⟩ := by simpa using taken
      refine iff_of_false (by simp) ?_
      rintro ⟨-, owned, -⟩
      exact other (owned user member same)
    next free =>
      simp only [List.any_eq_true, decide_eq_true_eq, not_exists, not_and] at free
      simp only [Bool.not_eq_true', Bool.not_eq_false] at present
      simp only [Except.ok.injEq, present, true_and]
      exact ⟨fun same => ⟨fun user member owned => by_contra fun other => free user member other owned,
        same.symm⟩, fun ⟨_, same⟩ => same.symm⟩

theorem updateWallet_ok {walletId : Nat} {data : Wallet → Wallet} {updated : Wallet}
    {tx' : Store} :
    tx.updateWallet walletId data = .ok (updated, tx') ↔
      ∃ wallet, tx.wallets.find? (fun wallet => wallet.id = walletId) = some wallet ∧
        updated = data wallet ∧
        tx' = { tx with wallets := tx.wallets.map fun other =>
          if other.id = walletId then data other else other } := by
  unfold updateWallet
  split
  next wallet found =>
    simp only [Except.ok.injEq, Prod.mk.injEq, found, Option.some.injEq, exists_eq_left']
    exact ⟨fun ⟨same, rest⟩ => ⟨same.symm, rest.symm⟩, fun ⟨same, rest⟩ => ⟨same.symm, rest.symm⟩⟩
  next missing => simp [missing]

theorem deleteWallet_ok {walletId : Nat} {tx' : Store} :
    tx.deleteWallet walletId = .ok tx' ↔
      (∃ wallet ∈ tx.wallets, wallet.id = walletId) ∧
        tx' = { tx with wallets := tx.wallets.filter fun wallet => wallet.id ≠ walletId } := by
  unfold deleteWallet
  split
  next present =>
    simp only [List.any_eq_true, decide_eq_true_eq] at present
    simp only [Except.ok.injEq, present, true_and]
    exact eq_comm
  next missing =>
    refine iff_of_false (by simp) ?_
    rintro ⟨⟨wallet, member, same⟩, -⟩
    exact missing (by simpa using ⟨wallet, member, same⟩)

@[simp] theorem assignStellarAddress_id (userId : Nat) (address : String) (user : User) :
    (assignStellarAddress userId address user).id = user.id := by
  unfold assignStellarAddress; split <;> rfl

theorem assignStellarAddress_of_eq {userId : Nat} {address : String} {user : User}
    (same : user.id = userId) : (assignStellarAddress userId address user).stellarAddress = address := by
  rw [assignStellarAddress, if_pos same]

theorem assignStellarAddress_of_ne {userId : Nat} {address : String} {user : User}
    (other : user.id ≠ userId) : assignStellarAddress userId address user = user :=
  if_neg other

@[simp] theorem promote_id (userId walletId : Nat) (wallet : Wallet) :
    (promote userId walletId wallet).id = wallet.id := by
  unfold promote; split <;> (try split) <;> rfl

@[simp] theorem promote_userId (userId walletId : Nat) (wallet : Wallet) :
    (promote userId walletId wallet).userId = wallet.userId := by
  unfold promote; split <;> (try split) <;> rfl

@[simp] theorem promote_address (userId walletId : Nat) (wallet : Wallet) :
    (promote userId walletId wallet).address = wallet.address := by
  unfold promote; split <;> (try split) <;> rfl

@[simp] theorem unsetPrimary_id (userId : Nat) (wallet : Wallet) :
    (unsetPrimary userId wallet).id = wallet.id := by
  unfold unsetPrimary; split <;> rfl

theorem promotePrimary_ok {userId walletId : Nat} {updated : Wallet} {tx' : Store} :
    (tx.clearPrimary userId).updateWallet walletId
        (fun wallet => { wallet with isPrimary := true }) = .ok (updated, tx') ↔
      ∃ wallet, tx.wallets.find? (fun wallet => wallet.id = walletId) = some wallet ∧
        updated = { wallet with isPrimary := true } ∧
        tx' = { tx with wallets := tx.wallets.map (promote userId walletId) } := by
  have promoted : ∀ wallet : Wallet, ({ unsetPrimary userId wallet with isPrimary := true } : Wallet) =
      { wallet with isPrimary := true } := by
    intro wallet; unfold unsetPrimary; split <;> rfl
  have mapped : ((tx.clearPrimary userId).wallets.map fun other =>
      if other.id = walletId then { other with isPrimary := true } else other) =
      tx.wallets.map (promote userId walletId) := by
    simp only [clearPrimary, List.map_map]
    congr 1; funext wallet
    unfold promote unsetPrimary
    by_cases same : wallet.id = walletId <;> by_cases owned : wallet.userId = userId <;>
      simp [same, owned]
  rw [updateWallet_ok, mapped]
  simp only [clearPrimary, List.find?_map, Function.comp_def, unsetPrimary_id, Option.map_eq_some']
  constructor
  · rintro ⟨_, ⟨wallet, present, rfl⟩, rfl, rfl⟩
    exact ⟨wallet, present, promoted wallet, rfl⟩
  · rintro ⟨wallet, present, rfl, rfl⟩
    exact ⟨_, ⟨wallet, present, rfl⟩, (promoted wallet).symm, rfl⟩

theorem createWalletChallenge_ok {walletAddress nonce : String} {purpose : ChallengePurpose}
    {userId : Option Nat} {expiresAt : Nat} {challenge : WalletChallenge} {tx' : Store} :
    tx.createWalletChallenge walletAddress nonce purpose userId expiresAt = .ok (challenge, tx') ↔
      (∀ other ∈ tx.walletChallenges, ¬ (other.walletAddress = walletAddress ∧
        other.nonce = nonce ∧ other.purpose = purpose)) ∧ (∀ id ∈ userId, tx.userExists id) ∧
        challenge = ⟨tx.nextId, userId, walletAddress, nonce, purpose, expiresAt, none⟩ ∧
        tx' = { tx with
          walletChallenges := tx.walletChallenges ++ [challenge], nextId := tx.nextId + 1 } := by
  unfold createWalletChallenge
  split
  next taken =>
    obtain ⟨other, member, same⟩ := by simpa using taken
    refine iff_of_false (by simp) ?_
    rintro ⟨free, -⟩
    exact free other member ⟨same.1, same.2.1, same.2.2⟩
  next free =>
    simp only [List.any_eq_true, decide_eq_true_eq, not_exists, not_and] at free
    split
    next orphan =>
      refine iff_of_false (by simp) ?_
      rintro ⟨-, owners, -⟩
      cases userId <;> simp_all
    next owned =>
      have owners : ∀ id ∈ userId, tx.userExists id := by cases userId <;> simp_all
      simp only [Except.ok.injEq, Prod.mk.injEq]
      constructor
      · rintro ⟨rfl, rfl⟩
        exact ⟨fun other member ⟨same, sameNonce, samePurpose⟩ =>
          free other member same sameNonce samePurpose, owners, rfl, rfl⟩
      · rintro ⟨-, -, rfl, rfl⟩; exact ⟨rfl, rfl⟩

end Store

end Stellovault.Auth
