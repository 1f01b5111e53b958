import Stellovault.Auth.PrimaryWallet

set_option autoImplicit false

namespace Stellovault.Auth

section

variable {keypair : Keypair}

theorem run_append (db : Store) (earlier later : List Request) :
    run keypair db (earlier ++ later) = run keypair (run keypair db earlier) later :=
  List.foldl_append ..

theorem step_effect {db : Store} (wf : WellFormed db) (request : Request) :
    Effect db (step keypair db request) := by
  unfold step
  split
  next served => exact serve_effect wf served
  next => exact .bookkeeping rfl rfl le_rfl

theorem run_keeps (Holds : Store → Prop)
    (keeps : ∀ {db db' : Store}, Effect db db' → WellFormed db → Holds db → Holds db')
    (requests : List Request) {db : Store} (wf : WellFormed db) (holds : Holds db) :
    WellFormed (run keypair db requests) ∧ Holds (run keypair db requests) := by
  induction requests generalizing db with
  | nil => exact ⟨wf, holds⟩
  | cons request rest ih =>
    have effect := @step_effect keypair _ wf request
    exact ih (effect.wellFormed wf) (keeps effect wf holds)

end

theorem countWallets_pos_iff {db : Store} {userId : Nat} :
    0 < db.countWallets userId ↔ ∃ wallet ∈ db.wallets, wallet.userId = userId := by
  simp [Store.countWallets_eq_length, List.length_pos_iff_exists_mem]

theorem singlePrimary_iff {db : Store} :
    SinglePrimary db ↔ ∀ wallet ∈ db.wallets, primaryCount db wallet.userId = 1 := by
  constructor
  · intro single wallet member
    exact single _ (countWallets_pos_iff.mpr ⟨wallet, member, rfl⟩)
  · intro each userId positive
    obtain ⟨wallet, member, rfl⟩ := countWallets_pos_iff.mp positive
    exact each wallet member

theorem wellFormed_iff {db : Store} : WellFormed db ↔ (db.wallets.map (·.id)).Nodup ∧
    (∀ wallet ∈ db.wallets, wallet.id < db.nextId) ∧
    (∀ wallet ∈ db.wallets, wallet.userId < db.nextId) ∧ ∀ user ∈ db.users, user.id < db.nextId :=
  ⟨fun wf => ⟨wf.walletKeys, wf.walletFresh, wf.ownerFresh, wf.userFresh⟩,
    fun ⟨keys, fresh, owner, user⟩ => ⟨keys, fresh, owner, user⟩⟩

instance : DecidablePred WellFormed := fun _ => decidable_of_iff _ wellFormed_iff.symm

instance : DecidablePred SinglePrimary := fun _ => decidable_of_iff _ singlePrimary_iff.symm

instance : DecidablePred Denormalized := fun _ => by unfold Denormalized; infer_instance

theorem wallet_flow_keeps_one_primary (keypair : Keypair) (db : Store) (wf : WellFormed db)
    (single : SinglePrimary db) (earlier later : List Request) (userId : Nat)
    (had : 0 < (run keypair db earlier).countWallets userId) :
    0 < (run keypair db (earlier ++ later)).countWallets userId ∧
      primaryCount (run keypair db (earlier ++ later)) userId = 1 := by
  obtain ⟨wfEarlier, singleEarlier⟩ := run_keeps SinglePrimary Effect.singlePrimary earlier wf single
  have kept := @run_keeps keypair (fun db => 0 < db.countWallets userId)
    (fun effect wf positive => effect.keepsWallets wf positive) later _ wfEarlier had
  rw [run_append]
  exact ⟨kept.2, (run_keeps SinglePrimary Effect.singlePrimary later wfEarlier singleEarlier).2
    userId kept.2⟩

/-- A keypair whose holder signs every challenge: every address is taken as a public key and
every signature as valid. -/
def acceptingKeypair : Keypair := ⟨fun _ => true, fun _ _ _ => true⟩

/-- A user holding one primary wallet. -/
def sampleStore : Store := ⟨[⟨0, "GA"⟩], [⟨1, 0, "GA", true, none, 0⟩], [], 2, 0⟩

/-- User 0 holds `GA`, its primary wallet, and `GB`. -/
def twoWalletStore : Store :=
  ⟨[⟨0, "GA"⟩], [⟨1, 0, "GA", true, none, 0⟩, ⟨2, 0, "GB", false, none, 0⟩], [], 3, 0⟩

theorem sample_keeps_one_primary :
    WellFormed twoWalletStore ∧ SinglePrimary twoWalletStore ∧
      0 < (run acceptingKeypair twoWalletStore [.setPrimaryWallet 0 2]).countWallets 0 ∧
      (0 < (run acceptingKeypair twoWalletStore ([.setPrimaryWallet 0 2] ++ [.unlinkWallet 0 2])).countWallets 0 ∧
        primaryCount (run acceptingKeypair twoWalletStore ([.setPrimaryWallet 0 2] ++ [.unlinkWallet 0 2])) 0 = 1) ∧
      (run acceptingKeypair twoWalletStore ([.setPrimaryWallet 0 2] ++ [.unlinkWallet 0 2])).wallets =
        [⟨1, 0, "GA", true, none, 0⟩] :=
  ⟨by decide, by decide, by decide, wallet_flow_keeps_one_primary acceptingKeypair twoWalletStore
    (by decide) (by decide) [.setPrimaryWallet 0 2] [.unlinkWallet 0 2] 0 (by decide), by decide⟩

theorem wallet_flow_keeps_address_denormalized (keypair : Keypair) (db : Store)
    (wf : WellFormed db) (denorm : Denormalized db) (requests : List Request) :
    Denormalized (run keypair db requests) ∧
      ∀ request error, serve keypair request (run keypair db requests) = .error error →
        run keypair db (requests ++ [request]) = run keypair db requests := by
  refine ⟨(run_keeps Denormalized Effect.denormalized requests wf denorm).2, ?_⟩
  intro request error failed
  rw [run_append]
  exact step_of_error keypair _ request error failed

theorem sample_keeps_address_denormalized :
    WellFormed sampleStore ∧ Denormalized sampleStore ∧
      (Denormalized (run acceptingKeypair sampleStore [.setPrimaryWallet 0 1]) ∧
        ∀ request error,
          serve acceptingKeypair request (run acceptingKeypair sampleStore [.setPrimaryWallet 0 1]) =
            .error error →
          run acceptingKeypair sampleStore ([.setPrimaryWallet 0 1] ++ [request]) =
            run acceptingKeypair sampleStore [.setPrimaryWallet 0 1]) :=
  ⟨by decide, by decide, wallet_flow_keeps_address_denormalized acceptingKeypair sampleStore
    (by decide) (by decide) [.setPrimaryWallet 0 1]⟩

def emptyStore : Store := ⟨[], [], [], 0, 0⟩

/-- Sixty-four zero bytes, in hex. -/
def sampleSignature : String := ⟨List.replicate 128 '0'⟩

/-- User 0 links `GA` and then `GB`, which is not its primary wallet; `createUser` then finds
no user whose `stellarAddress` is `GB` and creates one. -/
def claimLinkedAddress : List Request :=
  [.createUser (some "GA"),
    .generateChallenge "GA" .linkWallet (some 0) "n1", .linkWallet 0 "GA" "n1" sampleSignature none,
    .generateChallenge "GB" .linkWallet (some 0) "n2", .linkWallet 0 "GB" "n2" sampleSignature none,
    .createUser (some "GB")]

set_option maxRecDepth 20000 in
theorem linked_address_claimed_by_new_user :
    (∃ wallet ∈ (run acceptingKeypair emptyStore claimLinkedAddress).wallets,
        wallet.userId = 0 ∧ wallet.address = "GB") ∧
      (∃ user ∈ (run acceptingKeypair emptyStore claimLinkedAddress).users,
        user.id ≠ 0 ∧ user.stellarAddress = "GB") ∧
      serve acceptingKeypair (.setPrimaryWallet 0 4) (run acceptingKeypair emptyStore claimLinkedAddress) =
        .error (.store (.uniqueViolation "User_stellarAddress_key")) ∧
      serve acceptingKeypair (.unlinkWallet 0 2) (run acceptingKeypair emptyStore claimLinkedAddress) =
        .error (.store (.uniqueViolation "User_stellarAddress_key")) := by
  decide

end Stellovault.Auth
