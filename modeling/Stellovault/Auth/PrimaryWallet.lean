import Mathlib.Data.List.Nodup
import Stellovault.Auth.Service

set_option autoImplicit false

namespace Stellovault.Auth

/-- What the keys of the schema give every store: wallet ids are distinct, and every id in
use, the owner of a wallet included, was handed out by the allocator. -/
structure WellFormed (db : Store) : Prop where
  walletKeys : (db.wallets.map (·.id)).Nodup
  walletFresh : ∀ wallet ∈ db.wallets, wallet.id < db.nextId
  ownerFresh : ∀ wallet ∈ db.wallets, wallet.userId < db.nextId
  userFresh : ∀ user ∈ db.users, user.id < db.nextId

def primaryCount (db : Store) (userId : Nat) : Nat :=
  (db.walletsOf userId).countP (·.isPrimary)

/-- Exactly one primary wallet for every user with a wallet. -/
def SinglePrimary (db : Store) : Prop :=
  ∀ userId, 0 < db.countWallets userId → primaryCount db userId = 1

/-- The user's `stellarAddress` is the address of one of its primary wallets. -/
def Denormalized (db : Store) : Prop :=
  ∀ user ∈ db.users, 0 < db.countWallets user.id →
    ∃ wallet ∈ db.walletsOf user.id, wallet.isPrimary ∧ wallet.address = user.stellarAddress

theorem countP_key_le_one {α : Type} (key : α → Nat) (rows : List α)
    (distinct : (rows.map key).Nodup) (target : Nat) (select : α → Prop) [DecidablePred select] :
    rows.countP (fun row => key row = target ∧ select row) ≤ 1 := by
  induction rows with
  | nil => simp
  | cons row rest ih =>
    simp only [List.map_cons, List.nodup_cons, List.mem_map, not_exists, not_and] at distinct
    by_cases hit : key row = target ∧ select row
    · have none : rest.countP (fun row => key row = target ∧ select row) = 0 :=
        List.countP_eq_zero.mpr fun other member same =>
          distinct.1 other member (by rw [(of_decide_eq_true same).1, hit.1])
      rw [List.countP_cons, none]
      simp [hit]
    · simpa [hit] using ih distinct.2

theorem countP_key_eq_one {α : Type} (key : α → Nat) (rows : List α)
    (distinct : (rows.map key).Nodup) {row : α} (member : row ∈ rows) (select : α → Prop)
    [DecidablePred select] (selected : select row) :
    rows.countP (fun other => key other = key row ∧ select other) = 1 :=
  le_antisymm (countP_key_le_one key rows distinct (key row) select)
    (List.countP_pos_iff.mpr ⟨row, member, by simp [selected]⟩)

theorem eq_of_key_eq {α : Type} (key : α → Nat) {rows : List α} (distinct : (rows.map key).Nodup)
    {row other : α} (member : row ∈ rows) (otherMember : other ∈ rows) (same : key row = key other) :
    row = other :=
  List.inj_on_of_nodup_map distinct member otherMember same

theorem walletsOf_rows {db db' : Store} (rewrite : Wallet → Wallet) (keep : Wallet → Bool)
    (sameOwner : ∀ wallet, (rewrite wallet).userId = wallet.userId)
    (wallets : db'.wallets = (db.wallets.map rewrite).filter keep) (userId : Nat) :
    db'.walletsOf userId = ((db.walletsOf userId).map rewrite).filter keep := by
  simp only [Store.walletsOf, wallets, List.filter_filter, List.filter_map, Function.comp_def,
    sameOwner, Bool.and_comm]

theorem walletsOf_append {db db' : Store} {wallet : Wallet}
    (wallets : db'.wallets = db.wallets ++ [wallet]) (userId : Nat) :
    db'.walletsOf userId = db.walletsOf userId ++ if wallet.userId = userId then [wallet] else [] := by
  simp only [Store.walletsOf, wallets, List.filter_append, List.filter_singleton]
  split <;> simp_all

namespace WellFormed

variable {db : Store}

theorem owner_lt (wf : WellFormed db) {userId : Nat} (exists_ : db.userExists userId) :
    userId < db.nextId := by
  obtain ⟨user, member, same⟩ := by simpa [Store.userExists] using exists_
  exact same ▸ wf.userFresh user member

theorem wallet_eq (wf : WellFormed db) {wallet other : Wallet} (member : wallet ∈ db.wallets)
    (otherMember : other ∈ db.wallets) (same : wallet.id = other.id) : wallet = other :=
  eq_of_key_eq (·.id) wf.walletKeys member otherMember same

theorem walletsOf_keys (wf : WellFormed db) (userId : Nat) :
    ((db.walletsOf userId).map (·.id)).Nodup :=
  ((List.filter_sublist _).map _).nodup wf.walletKeys

theorem key_ne_of_owner_ne (wf : WellFormed db) {wallet other : Wallet} (member : wallet ∈ db.wallets)
    (otherMember : other ∈ db.wallets) (owners : wallet.userId ≠ other.userId) : wallet.id ≠ other.id :=
  fun same => owners (congrArg Wallet.userId (wf.wallet_eq member otherMember same))

theorem of_rows {db' : Store} (wf : WellFormed db) (rewrite : Wallet → Wallet)
    (keep : Wallet → Bool) (sameId : ∀ wallet, (rewrite wallet).id = wallet.id)
    (sameOwner : ∀ wallet, (rewrite wallet).userId = wallet.userId) (assign : User → User)
    (sameUser : ∀ user, (assign user).id = user.id)
    (wallets : db'.wallets = (db.wallets.map rewrite).filter keep)
    (users : db'.users = db.users.map assign) (allocated : db'.nextId = db.nextId) :
    WellFormed db' := by
  have origin : ∀ wallet ∈ db'.wallets, ∃ original ∈ db.wallets, wallet = rewrite original := by
    intro wallet member
    rw [wallets, List.mem_filter, List.mem_map] at member
    obtain ⟨⟨original, m, rfl⟩, -⟩ := member
    exact ⟨original, m, rfl⟩
  refine ⟨?_, ?_, ?_, ?_⟩
  · have keys : (db.wallets.map rewrite).map (·.id) = db.wallets.map (·.id) := by
      simp only [List.map_map, Function.comp_def, sameId]
    rw [wallets]
    exact ((List.filter_sublist _).map _).nodup (keys ▸ wf.walletKeys)
  · intro wallet member
    obtain ⟨original, m, rfl⟩ := origin wallet member
    simpa [sameId, allocated] using wf.walletFresh original m
  · intro wallet member
    obtain ⟨original, m, rfl⟩ := origin wallet member
    simpa [sameOwner, allocated] using wf.ownerFresh original m
  · intro user member
    rw [users, List.mem_map] at member
    obtain ⟨original, m, rfl⟩ := member
    simpa [sameUser, allocated] using wf.userFresh original m

theorem promote_walletsOf (wf : WellFormed db) {actor userId : Nat} {target : Wallet}
    (member : target ∈ db.wallets) (owned : target.userId = actor) (other : actor ≠ userId) :
    (db.walletsOf userId).map (Store.promote actor target.id) = db.walletsOf userId := by
  refine (List.map_congr_left fun row rowMember => ?_).trans (List.map_id' _)
  obtain ⟨rowIn, rowOwned⟩ := Store.mem_walletsOf.mp rowMember
  exact Store.promote_of_other (wf.key_ne_of_owner_ne rowIn member (by omega)) (by omega)

theorem delete_walletsOf (wf : WellFormed db) {userId : Nat} {target : Wallet}
    (member : target ∈ db.wallets) (other : target.userId ≠ userId) :
    (db.walletsOf userId).filter (fun row => row.id ≠ target.id) = db.walletsOf userId := by
  refine List.filter_eq_self.mpr fun row rowMember => ?_
  obtain ⟨rowIn, rowOwned⟩ := Store.mem_walletsOf.mp rowMember
  simpa using wf.key_ne_of_owner_ne rowIn member (by omega)

end WellFormed

/-- `wallet.update({ where: { id: walletId }, data: { label } })` on a row. -/
def relabel (walletId : Nat) (label : Option String) (wallet : Wallet) : Wallet :=
  if wallet.id = walletId then { wallet with label := label } else wallet

@[simp] theorem relabel_id (walletId : Nat) (label : Option String) (wallet : Wallet) :
    (relabel walletId label wallet).id = wallet.id := by
  unfold relabel; split <;> rfl

@[simp] theorem relabel_userId (walletId : Nat) (label : Option String) (wallet : Wallet) :
    (relabel walletId label wallet).userId = wallet.userId := by
  unfold relabel; split <;> rfl

@[simp] theorem relabel_isPrimary (walletId : Nat) (label : Option String) (wallet : Wallet) :
    (relabel walletId label wallet).isPrimary = wallet.isPrimary := by
  unfold relabel; split <;> rfl

@[simp] theorem relabel_address (walletId : Nat) (label : Option String) (wallet : Wallet) :
    (relabel walletId label wallet).address = wallet.address := by
  unfold relabel; split <;> rfl

/-- What a request that returns does to the users and wallets: the one inversion lemma the
invariants below are proved from. -/
inductive Effect (db db' : Store) : Prop where
  | bookkeeping (users : db'.users = db.users) (wallets : db'.wallets = db.wallets)
      (allocated : db.nextId ≤ db'.nextId)
  | createUser (address : String) (users : db'.users = db.users ++ [⟨db.nextId, address⟩])
      (wallets : db'.wallets = db.wallets) (allocated : db'.nextId = db.nextId + 1)
  | linkWallet (userId : Nat) (address : String) (label : Option String)
      (locked : db.userExists userId) (free : ∀ wallet ∈ db.wallets, wallet.address ≠ address)
      (unclaimed : db.countWallets userId = 0 →
        ∀ user ∈ db.users, user.stellarAddress = address → user.id = userId)
      (users : db'.users = if db.countWallets userId = 0 then
        db.users.map (Store.assignStellarAddress userId address) else db.users)
      (wallets : db'.wallets = db.wallets ++
        [⟨db.nextId, userId, address, db.countWallets userId = 0, label, db.now⟩])
      (allocated : db'.nextId = db.nextId + 1)
  | unlinkPrimary (userId : Nat) (wallet replacement : Wallet) (member : wallet ∈ db.wallets)
      (owned : wallet.userId = userId) (primary : wallet.isPrimary)
      (replacementMember : replacement ∈ db.wallets) (replacementOwned : replacement.userId = userId)
      (other : replacement.id ≠ wallet.id)
      (unclaimed : ∀ user ∈ db.users, user.stellarAddress = replacement.address → user.id = userId)
      (users : db'.users = db.users.map (Store.assignStellarAddress userId replacement.address))
      (wallets : db'.wallets = (db.wallets.map (Store.promote userId replacement.id)).filter
        fun other => other.id ≠ wallet.id)
      (allocated : db'.nextId = db.nextId)
  | unlinkSecondary (userId : Nat) (wallet : Wallet) (member : wallet ∈ db.wallets)
      (owned : wallet.userId = userId) (several : 1 < db.countWallets userId)
      (secondary : wallet.isPrimary = false) (users : db'.users = db.users)
      (wallets : db'.wallets = db.wallets.filter fun other => other.id ≠ wallet.id)
      (allocated : db'.nextId = db.nextId)
  | setPrimary (userId : Nat) (wallet : Wallet) (member : wallet ∈ db.wallets)
      (owned : wallet.userId = userId)
      (unclaimed : ∀ user ∈ db.users, user.stellarAddress = wallet.address → user.id = userId)
      (users : db'.users = db.users.map (Store.assignStellarAddress userId wallet.address))
      (wallets : db'.wallets = db.wallets.map (Store.promote userId wallet.id))
      (allocated : db'.nextId = db.nextId)
  | updateLabel (walletId : Nat) (label : Option String) (users : db'.users = db.users)
      (wallets : db'.wallets = db.wallets.map (relabel walletId label))
      (allocated : db'.nextId = db.nextId)

theorem serve_effect {keypair : Keypair} {db db' : Store} (wf : WellFormed db)
    {request : Request} (served : serve keypair request db = .ok db') : Effect db db' := by
  cases request with
  | createUser stellarAddress =>
    obtain ⟨⟨user, stored⟩, created, rfl⟩ := except_map_ok.mp served
    obtain ⟨address, -, -, upserted⟩ := createUser_ok created
    unfold Store.upsertUser at upserted
    split at upserted <;> cases upserted
    · exact .bookkeeping rfl rfl le_rfl
    · exact .createUser _ rfl rfl rfl
  | generateChallenge address purpose userId nonce =>
    obtain ⟨⟨challenge, stored⟩, generated, rfl⟩ := except_map_ok.mp served
    obtain ⟨_, -, -, -, row, created⟩ := generateChallenge_ok generated
    obtain ⟨-, -, -, rfl⟩ := Store.createWalletChallenge_ok.mp created
    exact .bookkeeping rfl rfl (Nat.le_succ _)
  | linkWallet userId address nonce signature label =>
    obtain ⟨⟨wallet, stored⟩, linked, rfl⟩ := except_map_ok.mp served
    obtain ⟨normalizedAddress, -, transaction⟩ := linkWallet_ok linked
    obtain ⟨locked, free, -, consumed, -, rfl, unclaimed, rfl⟩ :=
      linkWalletTransaction_ok transaction
    exact .linkWallet userId normalizedAddress (trimToNull label) locked free unclaimed rfl rfl rfl
  | unlinkWallet userId walletId =>
    obtain ⟨⟨⟩, unlinked, rfl⟩ := except_map_ok.mp served
    obtain ⟨-, several, wallet, member, rfl, owned, outcome⟩ := unlinkWalletTransaction_ok unlinked
    split at outcome
    next primary =>
      obtain ⟨replacement, replacementMember, replacementOwned, other, unclaimed, rfl⟩ := outcome
      exact .unlinkPrimary userId wallet replacement member owned primary replacementMember
        replacementOwned other unclaimed rfl rfl rfl
    next secondary =>
      subst outcome
      exact .unlinkSecondary userId wallet member owned several (by simpa using secondary) rfl rfl rfl
  | setPrimaryWallet userId walletId =>
    obtain ⟨⟨updated, stored⟩, promoted, rfl⟩ := except_map_ok.mp served
    obtain ⟨-, ⟨owned, ownedMember, rfl, ownedBy⟩, wallet, found, -, unclaimed, rfl⟩ :=
      setPrimaryWalletTransaction_ok promoted
    have same : wallet = owned := wf.wallet_eq (List.mem_of_find?_eq_some found) ownedMember
      (by simpa using List.find?_some found)
    subst same
    exact .setPrimary userId wallet ownedMember ownedBy unclaimed rfl rfl rfl
  | updateWalletLabel userId walletId label =>
    obtain ⟨⟨updated, stored⟩, relabelled, rfl⟩ := except_map_ok.mp served
    obtain ⟨-, rfl⟩ := updateWalletLabel_ok relabelled
    exact .updateLabel walletId (trimToNull label) rfl rfl rfl
  | elapse milliseconds =>
    cases served
    exact .bookkeeping rfl rfl le_rfl

namespace Effect

variable {db db' : Store}

theorem wellFormed (effect : Effect db db') (wf : WellFormed db) : WellFormed db' := by
  have lt : ∀ {n}, n < db.nextId → n < db.nextId + 1 := fun bound => Nat.lt_succ_of_lt bound
  cases effect with
  | bookkeeping users wallets allocated =>
    refine ⟨?_, ?_, ?_, ?_⟩ <;> simp only [users, wallets]
    exacts [wf.walletKeys, fun w m => (wf.walletFresh w m).trans_le allocated,
      fun w m => (wf.ownerFresh w m).trans_le allocated, fun u m => (wf.userFresh u m).trans_le allocated]
  | createUser address users wallets allocated =>
    refine ⟨?_, ?_, ?_, ?_⟩ <;> simp only [users, wallets, allocated]
    · exact wf.walletKeys
    · exact fun w m => lt (wf.walletFresh w m)
    · exact fun w m => lt (wf.ownerFresh w m)
    · simp only [List.mem_append, List.mem_singleton]
      rintro user (member | rfl)
      exacts [lt (wf.userFresh user member), Nat.lt_succ_self _]
  | linkWallet userId address label locked free unclaimed users wallets allocated =>
    refine ⟨?_, ?_, ?_, ?_⟩ <;> simp only [users, wallets, allocated]
    · simp only [List.map_append, List.map_cons, List.map_nil, List.nodup_append, List.nodup_cons,
        List.not_mem_nil, not_false_eq_true, List.nodup_nil, and_self, List.disjoint_singleton,
        List.mem_map, not_exists, not_and, true_and, wf.walletKeys]
      exact fun w m same => absurd (wf.walletFresh w m) (by omega)
    · simp only [List.mem_append, List.mem_singleton]
      rintro w (m | rfl)
      exacts [lt (wf.walletFresh w m), Nat.lt_succ_self _]
    · simp only [List.mem_append, List.mem_singleton]
      rintro w (m | rfl)
      exacts [lt (wf.ownerFresh w m), lt (wf.owner_lt locked)]
    · intro user member
      split at member
      · obtain ⟨original, m, rfl⟩ := List.mem_map.mp member
        simpa using lt (wf.userFresh original m)
      · exact lt (wf.userFresh user member)
  | unlinkPrimary userId wallet replacement _ _ _ _ _ _ _ users wallets allocated =>
    exact wf.of_rows _ _ (Store.promote_id _ _) (Store.promote_userId _ _) _
      (Store.assignStellarAddress_id _ _) wallets users allocated
  | unlinkSecondary userId wallet _ _ _ _ users wallets allocated =>
    exact wf.of_rows id _ (fun _ => rfl) (fun _ => rfl) id (fun _ => rfl)
      (by simpa using wallets) (by simpa using users) allocated
  | setPrimary userId wallet _ _ _ users wallets allocated =>
    exact wf.of_rows _ (fun _ => true) (Store.promote_id _ _) (Store.promote_userId _ _) _
      (Store.assignStellarAddress_id _ _) (by simpa using wallets) users allocated
  | updateLabel walletId label users wallets allocated =>
    exact wf.of_rows _ (fun _ => true) (relabel_id walletId label) (relabel_userId walletId label)
      id (fun _ => rfl) (by simpa using wallets) (by simpa using users) allocated

theorem singlePrimary (effect : Effect db db') (wf : WellFormed db) (single : SinglePrimary db) :
    SinglePrimary db' := by
  intro userId positive
  have before : 0 < db.countWallets userId → primaryCount db userId = 1 := single userId
  have unique : ∀ {actor : Nat} {chosen : Wallet}, chosen ∈ db.wallets → chosen.userId = actor →
      (db.walletsOf actor).countP (fun wallet => wallet.id = chosen.id) = 1 := by
    intro actor chosen member owned
    simpa using countP_key_eq_one (·.id) _ (wf.walletsOf_keys actor)
      (Store.mem_walletsOf.mpr ⟨member, owned⟩) (fun _ => True) trivial
  simp only [primaryCount, Store.countWallets_eq_length] at before positive ⊢
  cases effect with
  | bookkeeping _ wallets _ | createUser _ _ wallets _ =>
    simp only [Store.walletsOf, wallets] at positive ⊢
    exact before positive
  | linkWallet actor address label _ _ _ _ wallets _ =>
    rw [walletsOf_append wallets] at positive ⊢
    by_cases same : actor = userId
    · subst same
      by_cases first : (db.walletsOf actor).length = 0
      · simp [List.eq_nil_of_length_eq_zero first, Store.countWallets_eq_length]
      · simp [before (Nat.pos_of_ne_zero first), first, Store.countWallets_eq_length]
    · simpa [same] using before (by simpa [same] using positive)
  | unlinkPrimary actor wallet replacement member owned primary replacementMember
      replacementOwned other _ _ wallets _ =>
    rw [walletsOf_rows _ _ (Store.promote_userId actor replacement.id) wallets] at positive ⊢
    by_cases same : actor = userId
    · subst same
      rw [List.countP_filter, List.countP_map, ← unique replacementMember replacementOwned]
      refine List.countP_congr fun row rowMember => ?_
      simp only [Function.comp_apply, Store.promote_isPrimary_owned (Store.mem_walletsOf.mp rowMember).2,
        Store.promote_id, Bool.and_eq_true, decide_eq_true_eq, ne_eq]
      exact ⟨fun chosen => chosen.1, fun chosen => ⟨chosen, chosen ▸ other⟩⟩
    · rw [wf.promote_walletsOf replacementMember replacementOwned same,
        wf.delete_walletsOf member (by omega)] at positive ⊢
      exact before positive
  | unlinkSecondary actor wallet member owned several secondary _ wallets _ =>
    rw [walletsOf_rows id _ (fun _ => rfl) (by rw [List.map_id]; exact wallets), List.map_id] at positive ⊢
    by_cases same : actor = userId
    · subst same
      rw [List.countP_filter, ← before (by rw [← Store.countWallets_eq_length]; omega)]
      refine List.countP_congr fun row rowMember => ?_
      have distinct : row.isPrimary → row.id ≠ wallet.id := fun rowPrimary same =>
        absurd (wf.wallet_eq (Store.mem_walletsOf.mp rowMember).1 member same ▸ rowPrimary)
          (by simp [secondary])
      simpa using distinct
    · rw [wf.delete_walletsOf member (by omega)] at positive ⊢
      exact before positive
  | setPrimary actor wallet member owned _ _ wallets _ =>
    rw [walletsOf_rows _ (fun _ => true) (Store.promote_userId actor wallet.id)
      (by simpa using wallets), List.filter_true] at positive ⊢
    by_cases same : actor = userId
    · subst same
      rw [List.countP_map, ← unique member owned]
      refine List.countP_congr fun row rowMember => ?_
      simp [Store.promote_isPrimary_owned (Store.mem_walletsOf.mp rowMember).2]
    · rw [wf.promote_walletsOf member owned same] at positive ⊢
      exact before positive
  | updateLabel walletId label _ wallets _ =>
    rw [walletsOf_rows _ (fun _ => true) (relabel_userId walletId label)
      (by simpa using wallets), List.filter_true] at positive ⊢
    simpa [List.countP_map, Function.comp_def] using before (by simpa using positive)

theorem keepsWallets (effect : Effect db db') (wf : WellFormed db) {userId : Nat}
    (positive : 0 < db.countWallets userId) : 0 < db'.countWallets userId := by
  rw [Store.countWallets_eq_length] at positive ⊢
  cases effect with
  | bookkeeping _ wallets _ | createUser _ _ wallets _ =>
    simpa [Store.walletsOf, wallets] using positive
  | linkWallet actor address label _ _ _ _ wallets _ =>
    simp only [Store.walletsOf, wallets, List.filter_append, List.length_append] at positive ⊢
    exact Nat.lt_add_right _ positive
  | unlinkPrimary actor wallet replacement member owned _ replacementMember replacementOwned other
      _ _ wallets _ =>
    rw [walletsOf_rows _ _ (Store.promote_userId actor replacement.id) wallets]
    by_cases same : actor = userId
    · subst same
      exact List.length_pos_of_mem (List.mem_filter.mpr ⟨List.mem_map.mpr ⟨replacement,
        Store.mem_walletsOf.mpr ⟨replacementMember, replacementOwned⟩, rfl⟩, by simpa using other⟩)
    · rwa [wf.promote_walletsOf replacementMember replacementOwned same,
        wf.delete_walletsOf member (by omega)]
  | unlinkSecondary actor wallet member owned several _ _ wallets _ =>
    rw [walletsOf_rows id _ (fun _ => rfl) (by rw [List.map_id]; exact wallets), List.map_id]
    by_cases same : actor = userId
    · subst same
      have once := countP_key_le_one (fun row : Wallet => row.id) _ (wf.walletsOf_keys actor)
        wallet.id fun _ => True
      have split := List.length_eq_countP_add_countP (fun row : Wallet => row.id = wallet.id)
        (db.walletsOf actor)
      rw [Store.countWallets_eq_length] at several
      simp only [and_true, decide_not, Bool.decide_eq_true, ← List.countP_eq_length_filter] at once split ⊢
      omega
    · rwa [wf.delete_walletsOf member (by omega)]
  | setPrimary actor wallet _ _ _ _ wallets _ =>
    rwa [walletsOf_rows _ (fun _ => true) (Store.promote_userId actor wallet.id)
      (by simpa using wallets), List.filter_true, List.length_map]
  | updateLabel walletId label _ wallets _ =>
    rwa [walletsOf_rows _ (fun _ => true) (relabel_userId walletId label)
      (by simpa using wallets), List.filter_true, List.length_map]

theorem denormalized (effect : Effect db db') (wf : WellFormed db) (denorm : Denormalized db) :
    Denormalized db' := by
  intro user member positive
  rw [Store.countWallets_eq_length] at positive
  have before : ∀ user ∈ db.users, 0 < (db.walletsOf user.id).length →
      ∃ wallet ∈ db.walletsOf user.id, wallet.isPrimary ∧ wallet.address = user.stellarAddress :=
    fun user member positive => denorm user member (by rwa [Store.countWallets_eq_length])
  cases effect with
  | bookkeeping users wallets _ =>
    rw [show db'.walletsOf user.id = db.walletsOf user.id by simp [Store.walletsOf, wallets]] at positive ⊢
    exact before user (users ▸ member) positive
  | createUser address users wallets _ =>
    rw [show db'.walletsOf user.id = db.walletsOf user.id by simp [Store.walletsOf, wallets]] at positive ⊢
    rw [users, List.mem_append, List.mem_singleton] at member
    rcases member with member | rfl
    · exact before user member positive
    · obtain ⟨wallet, walletMember⟩ := List.exists_mem_of_length_pos positive
      obtain ⟨walletIn, owned⟩ := Store.mem_walletsOf.mp walletMember
      simpa [owned] using wf.ownerFresh wallet walletIn
  | linkWallet actor address label _ _ _ users wallets _ =>
    have rows := walletsOf_append wallets
    rw [users] at member
    split at member
    next first =>
      obtain ⟨original, originalMember, rfl⟩ := List.mem_map.mp member
      rw [Store.assignStellarAddress_id, rows] at positive ⊢
      by_cases same : original.id = actor
      · exact ⟨⟨db.nextId, actor, address, db.countWallets actor = 0, label, db.now⟩, by simp [same],
          decide_eq_true first, by rw [Store.assignStellarAddress_of_eq same]⟩
      · simp only [Store.assignStellarAddress_of_ne same, Ne.symm same, if_false, List.append_nil]
          at positive ⊢
        exact before original originalMember positive
    next later =>
      rw [rows] at positive ⊢
      by_cases same : actor = user.id
      · obtain ⟨wallet, walletMember, primary, stored⟩ := before user member
          (by rw [← same, ← Store.countWallets_eq_length]; exact Nat.pos_of_ne_zero later)
        exact ⟨wallet, List.mem_append_left _ walletMember, primary, stored⟩
      · simp only [same, if_false, List.append_nil] at positive ⊢
        exact before user member positive
  | unlinkPrimary actor wallet replacement walletMember owned _ replacementMember replacementOwned
      other _ users wallets _ =>
    rw [users, List.mem_map] at member
    obtain ⟨original, originalMember, rfl⟩ := member
    rw [Store.assignStellarAddress_id, walletsOf_rows _ _ (Store.promote_userId actor replacement.id)
      wallets] at positive ⊢
    by_cases same : original.id = actor
    · refine ⟨Store.promote actor replacement.id replacement, ?_, by simp [Store.promote],
        by rw [Store.assignStellarAddress_of_eq same, Store.promote_address]⟩
      rw [same, List.mem_filter]
      exact ⟨List.mem_map_of_mem _ (Store.mem_walletsOf.mpr ⟨replacementMember, replacementOwned⟩),
        by simpa using other⟩
    · rw [wf.promote_walletsOf replacementMember replacementOwned (Ne.symm same),
        wf.delete_walletsOf walletMember (by omega)] at positive ⊢
      rw [Store.assignStellarAddress_of_ne same]
      exact before original originalMember positive
  | unlinkSecondary actor wallet walletMember owned several secondary users wallets _ =>
    rw [users] at member
    rw [walletsOf_rows id _ (fun _ => rfl) (by rw [List.map_id]; exact wallets), List.map_id]
      at positive ⊢
    by_cases same : user.id = actor
    · obtain ⟨kept, keptMember, primary, stored⟩ := before user member
        (by rw [same, ← Store.countWallets_eq_length]; omega)
      refine ⟨kept, List.mem_filter.mpr ⟨keptMember, ?_⟩, primary, stored⟩
      have distinct : kept.id ≠ wallet.id := fun sameId =>
        absurd (wf.wallet_eq (Store.mem_walletsOf.mp keptMember).1 walletMember sameId ▸ primary)
          (by simp [secondary])
      simpa using distinct
    · rw [wf.delete_walletsOf walletMember (by omega)] at positive ⊢
      exact before user member positive
  | setPrimary actor wallet walletMember owned _ users wallets _ =>
    rw [users, List.mem_map] at member
    obtain ⟨original, originalMember, rfl⟩ := member
    rw [Store.assignStellarAddress_id, walletsOf_rows _ (fun _ => true)
      (Store.promote_userId actor wallet.id) (by simpa using wallets), List.filter_true] at positive ⊢
    by_cases same : original.id = actor
    · refine ⟨Store.promote actor wallet.id wallet, ?_, by simp [Store.promote],
        by rw [Store.assignStellarAddress_of_eq same, Store.promote_address]⟩
      rw [same]
      exact List.mem_map_of_mem _ (Store.mem_walletsOf.mpr ⟨walletMember, owned⟩)
    · rw [wf.promote_walletsOf walletMember owned (Ne.symm same)] at positive ⊢
      rw [Store.assignStellarAddress_of_ne same]
      exact before original originalMember positive
  | updateLabel walletId label users wallets _ =>
    rw [users] at member
    rw [walletsOf_rows _ (fun _ => true) (relabel_userId walletId label) (by simpa using wallets),
      List.filter_true] at positive ⊢
    obtain ⟨wallet, walletMember, primary, address⟩ := before user member (by simpa using positive)
    exact ⟨relabel walletId label wallet, List.mem_map_of_mem _ walletMember, by simpa using primary,
      by simpa using address⟩

end Effect

end Stellovault.Auth
