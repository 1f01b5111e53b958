import Stellovault.Auth.WalletRuns

set_option autoImplicit false

/-!
# The wallet requests of one user leave every other user alone

A request that names another user's wallet is answered with a `NotFoundError` and writes nothing.
-/

namespace Stellovault.Auth

/-- The user a wallet request acts for. -/
def Request.walletActor : Request → Option Nat
  | .linkWallet userId _ _ _ _ | .unlinkWallet userId _ | .setPrimaryWallet userId _
  | .updateWalletLabel userId _ _ => some userId
  | _ => none

/-- The wallet a request names. -/
def Request.walletTarget : Request → Option Nat
  | .unlinkWallet _ walletId | .setPrimaryWallet _ walletId | .updateWalletLabel _ walletId _ =>
    some walletId
  | _ => none

/-- Every row that is not `actor`'s is as it was. -/
structure Isolated (actor : Nat) (db db' : Store) : Prop where
  wallets : ∀ userId, userId ≠ actor → db'.walletsOf userId = db.walletsOf userId
  users : db'.users.filter (·.id ≠ actor) = db.users.filter (·.id ≠ actor)

theorem filter_assignStellarAddress (users : List User) (actor : Nat) (address : String) :
    (users.map (Store.assignStellarAddress actor address)).filter (·.id ≠ actor) =
      users.filter (·.id ≠ actor) := by
  rw [List.filter_map]
  simp only [Function.comp_def, Store.assignStellarAddress_id]
  refine (List.map_congr_left fun user member => ?_).trans (List.map_id _)
  have other : user.id ≠ actor := by simpa using (List.mem_filter.mp member).2
  exact Store.assignStellarAddress_of_ne other

namespace WellFormed

variable {db : Store}

theorem relabel_walletsOf (wf : WellFormed db) {actor userId : Nat} {target : Wallet}
    (member : target ∈ db.wallets) (owned : target.userId = actor) (other : actor ≠ userId)
    (label : Option String) :
    (db.walletsOf userId).map (relabel target.id label) = db.walletsOf userId := by
  refine (List.map_congr_left fun row rowMember => ?_).trans (List.map_id' _)
  obtain ⟨rowIn, rowOwned⟩ := Store.mem_walletsOf.mp rowMember
  simp [relabel, wf.key_ne_of_owner_ne rowIn member (by omega)]

theorem findWallet_foreign (wf : WellFormed db) {actor : Nat} {wallet : Wallet}
    (member : wallet ∈ db.wallets) (foreign : wallet.userId ≠ actor) :
    db.findWallet wallet.id actor = none := by
  simp only [Store.findWallet, List.find?_eq_none, decide_eq_true_eq, not_and]
  intro row rowIn same owned
  exact foreign (owned ▸ congrArg Wallet.userId (wf.wallet_eq member rowIn same.symm))

end WellFormed

theorem serve_isolated {keypair : Keypair} {db db' : Store} (wf : WellFormed db) {request : Request}
    {actor : Nat} (acting : request.walletActor = some actor)
    (served : serve keypair request db = .ok db') : Isolated actor db db' := by
  cases request with
  | linkWallet userId address nonce signature label =>
    cases acting
    obtain ⟨⟨wallet, stored⟩, linked, rfl⟩ := except_map_ok.mp served
    obtain ⟨normalizedAddress, -, transaction⟩ := linkWallet_ok linked
    obtain ⟨-, -, -, consumed, -, rfl, -, rfl⟩ := linkWalletTransaction_ok transaction
    refine ⟨fun userId other => ?_, ?_⟩
    · rw [walletsOf_append rfl, if_neg (Ne.symm other), List.append_nil]
    · dsimp only
      split
      · exact filter_assignStellarAddress _ _ _
      · rfl
  | unlinkWallet userId walletId =>
    cases acting
    obtain ⟨⟨⟩, unlinked, rfl⟩ := except_map_ok.mp served
    obtain ⟨-, -, wallet, member, rfl, owned, outcome⟩ := unlinkWalletTransaction_ok unlinked
    split at outcome
    next =>
      obtain ⟨replacement, replacementMember, replacementOwned, -, -, rfl⟩ := outcome
      refine ⟨fun userId other => ?_, filter_assignStellarAddress _ _ _⟩
      rw [walletsOf_rows _ _ (Store.promote_userId actor replacement.id) rfl,
        wf.promote_walletsOf replacementMember replacementOwned (Ne.symm other),
        wf.delete_walletsOf member (by omega)]
    next =>
      subst outcome
      refine ⟨fun userId other => ?_, rfl⟩
      rw [walletsOf_rows id _ (fun _ => rfl) (by rw [List.map_id]), List.map_id,
        wf.delete_walletsOf member (by omega)]
  | setPrimaryWallet userId walletId =>
    cases acting
    obtain ⟨⟨updated, stored⟩, promoted, rfl⟩ := except_map_ok.mp served
    obtain ⟨-, ⟨owned, ownedMember, rfl, ownedBy⟩, -, -, -, -, rfl⟩ :=
      setPrimaryWalletTransaction_ok promoted
    refine ⟨fun userId other => ?_, filter_assignStellarAddress _ _ _⟩
    rw [← wf.promote_walletsOf ownedMember ownedBy (Ne.symm other)]
    simp only [Store.walletsOf, List.filter_map, Function.comp_def, Store.promote_userId]
  | updateWalletLabel userId walletId label =>
    cases acting
    obtain ⟨⟨updated, stored⟩, relabelled, rfl⟩ := except_map_ok.mp served
    obtain ⟨⟨owned, ownedMember, rfl, ownedBy⟩, rfl⟩ := updateWalletLabel_ok relabelled
    refine ⟨fun userId other => ?_, rfl⟩
    show Store.walletsOf { db with wallets := db.wallets.map (relabel owned.id (trimToNull label)) }
      userId = _
    rw [← wf.relabel_walletsOf ownedMember ownedBy (Ne.symm other) (trimToNull label)]
    simp only [Store.walletsOf, List.filter_map, Function.comp_def, relabel_userId]
  | createUser | generateChallenge | elapse => cases acting

theorem serve_foreign_wallet {keypair : Keypair} {db : Store} (wf : WellFormed db)
    {request : Request} {actor : Nat} (acting : request.walletActor = some actor)
    {wallet : Wallet} (naming : request.walletTarget = some wallet.id) (member : wallet ∈ db.wallets)
    (foreign : wallet.userId ≠ actor) :
    ∃ message, serve keypair request db = .error (.notFoundError message) := by
  have missing := wf.findWallet_foreign member foreign
  have notOwned : (db.walletsOf actor).find? (·.id = wallet.id) = none := by
    rw [List.find?_eq_none]
    intro row rowMember same
    obtain ⟨rowIn, rowOwned⟩ := Store.mem_walletsOf.mp rowMember
    exact foreign (rowOwned ▸ congrArg Wallet.userId
      (wf.wallet_eq member rowIn (of_decide_eq_true same).symm))
  cases request with
  | unlinkWallet userId walletId =>
    cases acting; cases naming
    by_cases present : db.userExists actor
    · exact ⟨"Wallet not found", by
        simp [serve, unlinkWalletTransaction, Store.lockUserRow, present, notOwned, Except.map]⟩
    · exact ⟨"User not found", by simp [serve, unlinkWalletTransaction, Store.lockUserRow, present,
        Except.map]⟩
  | setPrimaryWallet userId walletId =>
    cases acting; cases naming
    by_cases present : db.userExists actor
    · exact ⟨"Wallet not found", by
        simp [serve, setPrimaryWalletTransaction, Store.lockUserRow, present, missing, Except.map]⟩
    · exact ⟨"User not found", by simp [serve, setPrimaryWalletTransaction, Store.lockUserRow,
        present, Except.map]⟩
  | updateWalletLabel userId walletId label =>
    cases acting; cases naming
    exact ⟨"Wallet not found", by simp [serve, updateWalletLabel, missing, Except.map]⟩
  | createUser | generateChallenge | linkWallet | elapse => cases naming

theorem wallet_requests_isolated (keypair : Keypair) (db : Store) (wf : WellFormed db)
    (earlier : List Request) (request : Request) (actor : Nat)
    (acting : request.walletActor = some actor) :
    Isolated actor (run keypair db earlier) (step keypair (run keypair db earlier) request) ∧
      ∀ wallet ∈ (run keypair db earlier).wallets, request.walletTarget = some wallet.id →
        wallet.userId ≠ actor →
          (∃ message, serve keypair request (run keypair db earlier) =
            .error (.notFoundError message)) ∧
          step keypair (run keypair db earlier) request = run keypair db earlier := by
  have reached := (@run_keeps keypair (fun _ => True) (fun _ _ _ => trivial) earlier _ wf trivial).1
  refine ⟨?_, fun wallet member naming foreign => ?_⟩
  · unfold step
    split
    next served => exact serve_isolated reached acting served
    next => exact ⟨fun _ _ => rfl, rfl⟩
  · obtain ⟨message, failed⟩ := serve_foreign_wallet reached acting naming member foreign
    exact ⟨⟨message, failed⟩, by rw [step, failed]⟩

/-- Two users, each holding one primary wallet. -/
def twoUsers : Store :=
  ⟨[⟨0, "GA"⟩, ⟨2, "GB"⟩], [⟨1, 0, "GA", true, none, 0⟩, ⟨3, 2, "GB", true, none, 0⟩], [], 4, 0⟩

theorem foreign_wallet_not_found :
    WellFormed twoUsers ∧ (Request.setPrimaryWallet 0 3).walletActor = some 0 ∧
      Isolated 0 (run acceptingKeypair twoUsers [])
        (step acceptingKeypair (run acceptingKeypair twoUsers []) (.setPrimaryWallet 0 3)) ∧
      ∀ wallet ∈ (run acceptingKeypair twoUsers []).wallets,
        (Request.setPrimaryWallet 0 3).walletTarget = some wallet.id → wallet.userId ≠ 0 →
          (∃ message, serve acceptingKeypair (.setPrimaryWallet 0 3)
            (run acceptingKeypair twoUsers []) = .error (.notFoundError message)) ∧
          step acceptingKeypair (run acceptingKeypair twoUsers []) (.setPrimaryWallet 0 3) =
            run acceptingKeypair twoUsers [] :=
  ⟨by decide, rfl,
    wallet_requests_isolated acceptingKeypair twoUsers (by decide) [] (.setPrimaryWallet 0 3) 0 rfl⟩

end Stellovault.Auth
