import Mathlib.Data.List.Sort
import Stellovault.Auth.WalletRuns

set_option autoImplicit false

/-!
# Reading a user's wallets

Rows that tie in `orderBy` come in an order the database chooses, a parameter of each query.
-/

namespace Stellovault.Auth

/-- `orderBy: [{ isPrimary: "desc" }, { createdAt: "asc" }]` between a row and a later one. -/
def PrimaryFirst (wallet later : Wallet) : Prop :=
  (wallet.isPrimary = true ∧ later.isPrimary = false) ∨
    (wallet.isPrimary = later.isPrimary ∧ wallet.createdAt ≤ later.createdAt)

instance primaryFirstDecidable : DecidableRel PrimaryFirst := fun _ _ => by
  unfold PrimaryFirst; infer_instance

instance primaryFirstTotal : IsTotal Wallet PrimaryFirst :=
  ⟨fun ⟨_, _, _, first, _, firstAt⟩ ⟨_, _, _, second, _, secondAt⟩ => by
    unfold PrimaryFirst
    have byAge := Nat.le_total firstAt secondAt
    cases first <;> cases second
    · exact byAge.imp (fun older => .inr ⟨rfl, older⟩) fun older => .inr ⟨rfl, older⟩
    · exact .inr (.inl ⟨rfl, rfl⟩)
    · exact .inl (.inl ⟨rfl, rfl⟩)
    · exact byAge.imp (fun older => .inr ⟨rfl, older⟩) fun older => .inr ⟨rfl, older⟩⟩

instance primaryFirstTrans : IsTrans Wallet PrimaryFirst :=
  ⟨fun ⟨_, _, _, first, _, _⟩ ⟨_, _, _, second, _, _⟩ ⟨_, _, _, third, _, _⟩ before after => by
    unfold PrimaryFirst at *
    cases first <;> cases second <;> cases third <;> simp_all <;> omega⟩

/-- A correct answer of the database to the query: the rows it was given, in `orderBy` order.
Rows that tie may come in any order, and each query picks its own. -/
def OrdersPrimaryFirst (order : List Wallet → List Wallet) : Prop :=
  ∀ rows, (order rows).Perm rows ∧ (order rows).Sorted PrimaryFirst

/-- The primary wallet first, then the others, each group oldest first, rows that tie in the
order they were given. -/
def primaryFirst (rows : List Wallet) : List Wallet := rows.insertionSort PrimaryFirst

theorem primaryFirst_orders : OrdersPrimaryFirst primaryFirst :=
  fun rows => ⟨List.perm_insertionSort _ rows, List.sorted_insertionSort _ rows⟩

/-- The user row with its wallets, `{ ...rest, primaryWallet, wallets }`. -/
structure UserProfile where
  id : Nat
  stellarAddress : String
  primaryWallet : Option Wallet
  wallets : List Wallet
  deriving DecidableEq, Repr

/-- `AuthService.getUserWallets`, with the database's `order`. -/
def getUserWallets (db : Store) (order : List Wallet → List Wallet) (userId : Nat) : List Wallet :=
  order (db.walletsOf userId)

/-- `UserService.getUserById`, with the database's `order`. -/
def getUserById (db : Store) (order : List Wallet → List Wallet) (id : Nat) : Except AppError UserProfile :=
  match db.users.find? (·.id = id) with
  | none => .error (.notFoundError "User not found")
  | some user =>
    let wallets := getUserWallets db order id
    .ok ⟨user.id, user.stellarAddress, wallets.find? (·.isPrimary), wallets⟩

theorem sorted_primary_head {wallets : List Wallet} (sorted : wallets.Sorted PrimaryFirst)
    (single : wallets.countP (·.isPrimary) = 1) :
    ∃ primary rest, wallets = primary :: rest ∧ primary.isPrimary ∧ ∀ other ∈ rest, other.isPrimary = false := by
  obtain ⟨primary, member, isPrimary⟩ : ∃ primary ∈ wallets, primary.isPrimary := by
    simpa using List.countP_pos_iff.mp (by omega : 0 < wallets.countP (·.isPrimary))
  cases wallets with
  | nil => cases member
  | cons first rest =>
    have firstPrimary : first.isPrimary := by
      rcases List.mem_cons.mp member with same | later
      · exact same ▸ isPrimary
      · rcases List.rel_of_sorted_cons sorted primary later with ⟨primaryFirst, _⟩ | ⟨same, _⟩
        · exact primaryFirst
        · exact same ▸ isPrimary
    have none : rest.countP (·.isPrimary) = 0 := by
      rw [List.countP_cons, if_pos firstPrimary] at single
      omega
    exact ⟨first, rest, rfl, firstPrimary, fun other later => by
      simpa using List.countP_eq_zero.mp none other later⟩

theorem find_user {db : Store} {id : Nat} {user : User} (found : db.users.find? (·.id = id) = some user) :
    user ∈ db.users ∧ user.id = id := by
  have same := List.find?_some found
  simp only [decide_eq_true_eq] at same
  exact ⟨List.mem_of_find?_eq_some found, same⟩

theorem profile_primary_wallet_first (keypair : Keypair) (requests : List Request)
    {order : List Wallet → List Wallet} (ordered : OrdersPrimaryFirst order) (id : Nat) {profile : UserProfile}
    (found : getUserById (run keypair emptyStore requests) order id = .ok profile) :
    profile.wallets.Perm ((run keypair emptyStore requests).walletsOf id) ∧
      (profile.wallets = [] ∧ profile.primaryWallet = none ∨
        ∃ primary rest, profile.wallets = primary :: rest ∧ profile.primaryWallet = some primary ∧
          primary.isPrimary ∧ primary.address = profile.stellarAddress ∧
          ∀ other ∈ rest, other.isPrimary = false) := by
  set db := run keypair emptyStore requests
  have kept := @run_keeps keypair (fun db => SinglePrimary db ∧ Denormalized db)
    (fun effect wf holds => ⟨effect.singlePrimary wf holds.1, effect.denormalized wf holds.2⟩) requests
    emptyStore (by decide) ⟨by decide, by decide⟩
  unfold getUserById at found
  split at found
  · cases found
  · next user findUser =>
    cases found
    obtain ⟨member, rfl⟩ := find_user findUser
    have perm := (ordered (db.walletsOf user.id)).1
    have sorted := (ordered (db.walletsOf user.id)).2
    refine ⟨perm, ?_⟩
    simp only [getUserWallets] at perm sorted ⊢
    cases listed : order (db.walletsOf user.id) with
    | nil => exact .inl ⟨rfl, rfl⟩
    | cons first rest =>
      rw [listed] at perm sorted
      have positive : 0 < db.countWallets user.id := by
        rw [Store.countWallets_eq_length, ← perm.length_eq]
        exact Nat.succ_pos _
      have single : (first :: rest).countP (·.isPrimary) = 1 := by
        rw [perm.countP_eq]
        exact kept.2.1 user.id positive
      obtain ⟨primary, others, same, isPrimary, secondary⟩ := sorted_primary_head sorted single
      rw [same] at perm ⊢
      obtain ⟨wallet, owned, walletPrimary, address⟩ := kept.2.2 user member positive
      have first : wallet = primary := by
        rcases List.mem_cons.mp (perm.symm.subset owned) with same | later
        · exact same
        · simp [secondary wallet later] at walletPrimary
      subst first
      exact .inr ⟨wallet, others, rfl, List.find?_cons_of_pos _ walletPrimary, walletPrimary, address, secondary⟩

/-- User 0 links `GA`, a second later `GB`, and makes `GB` its primary wallet. -/
def promoteLaterWallet : List Request :=
  [.createUser (some "GA"),
    .generateChallenge "GA" .linkWallet (some 0) "n1", .linkWallet 0 "GA" "n1" sampleSignature none,
    .elapse 1000,
    .generateChallenge "GB" .linkWallet (some 0) "n2", .linkWallet 0 "GB" "n2" sampleSignature none,
    .setPrimaryWallet 0 4]

/-- The profile of user 0 then: the newer wallet first, as the primary one. -/
def promotedProfile : UserProfile :=
  ⟨0, "GB", some ⟨4, 0, "GB", true, none, 1000⟩, [⟨4, 0, "GB", true, none, 1000⟩, ⟨2, 0, "GA", false, none, 0⟩]⟩

set_option maxRecDepth 20000 in
theorem promoteLaterWallet_profile :
    getUserById (run acceptingKeypair emptyStore promoteLaterWallet) primaryFirst 0 = .ok promotedProfile := by
  decide

theorem promoted_wallet_listed_first :
    OrdersPrimaryFirst primaryFirst ∧
      getUserById (run acceptingKeypair emptyStore promoteLaterWallet) primaryFirst 0 = .ok promotedProfile ∧
      promotedProfile.wallets.Perm ((run acceptingKeypair emptyStore promoteLaterWallet).walletsOf 0) ∧
      (promotedProfile.wallets = [] ∧ promotedProfile.primaryWallet = none ∨
        ∃ primary rest, promotedProfile.wallets = primary :: rest ∧ promotedProfile.primaryWallet = some primary ∧
          primary.isPrimary ∧ primary.address = promotedProfile.stellarAddress ∧
          ∀ other ∈ rest, other.isPrimary = false) :=
  ⟨primaryFirst_orders, promoteLaterWallet_profile,
    profile_primary_wallet_first acceptingKeypair promoteLaterWallet primaryFirst_orders 0 promoteLaterWallet_profile⟩

end Stellovault.Auth
