import Stellovault.Auth.WalletRuns

set_option autoImplicit false

namespace Stellovault.Auth

namespace Store

variable {tx : Store} {walletAddress nonce : String} {purpose : ChallengePurpose}
  {userId : Option Nat}

theorem consumeChallenges_single
    (once : (tx.consumeChallenges walletAddress nonce purpose userId).1 = 1) :
    ∃ challenge ∈ tx.walletChallenges,
      consumable walletAddress nonce purpose userId tx.now challenge ∧
      (tx.consumeChallenges walletAddress nonce purpose userId).2.walletChallenges =
        tx.walletChallenges.map fun row =>
          if row = challenge then { row with usedAt := some tx.now } else row := by
  simp only [consumeChallenges, List.countP_eq_length_filter] at once ⊢
  obtain ⟨challenge, selected⟩ := List.length_eq_one.mp once
  have chosen := List.mem_filter.mp (selected ▸ List.mem_singleton_self challenge)
  refine ⟨challenge, chosen.1, chosen.2, List.map_congr_left fun row member => ?_⟩
  by_cases hit : consumable walletAddress nonce purpose userId tx.now row
  · have same : row = challenge :=
      List.mem_singleton.mp (selected ▸ List.mem_filter.mpr ⟨member, hit⟩)
    rw [if_pos hit, if_pos same]
  · have other : row ≠ challenge := fun same => hit (same ▸ chosen.2)
    rw [if_neg hit, if_neg other]

theorem consumeChallenges_keeps_used {row : WalletChallenge} (member : row ∈ tx.walletChallenges)
    (used : row.usedAt.isSome) :
    row ∈ (tx.consumeChallenges walletAddress nonce purpose userId).2.walletChallenges := by
  have idle : consumable walletAddress nonce purpose userId tx.now row = false := by
    cases marked : row.usedAt <;> simp_all [consumable]
  exact List.mem_map.mpr ⟨row, member, by simp [idle]⟩

theorem consumeChallenges_rows {row : WalletChallenge}
    (member : row ∈ (tx.consumeChallenges walletAddress nonce purpose userId).2.walletChallenges) :
    ∃ old ∈ tx.walletChallenges, ∃ usedAt, row = { old with usedAt := usedAt } := by
  obtain ⟨old, oldMember, rfl⟩ := List.mem_map.mp member
  refine ⟨old, oldMember, ?_⟩
  split
  · exact ⟨_, rfl⟩
  · exact ⟨old.usedAt, rfl⟩

end Store

/-- A `generateChallenge` among the requests wrote a row with the columns of `challenge`. -/
def Issued (requests : List Request) (challenge : WalletChallenge) : Prop :=
  ∃ address, .generateChallenge address challenge.purpose challenge.userId challenge.nonce ∈ requests ∧
    normalizeAddress address = .ok challenge.walletAddress

/-- What a request that returns does to the challenge rows. -/
inductive ChallengeEffect (request : Request) (db db' : Store) : Prop where
  | untouched (challenges : db'.walletChallenges = db.walletChallenges)
  | issued (address walletAddress nonce : String) (purpose : ChallengePurpose)
      (userId : Option Nat) (requested : request = .generateChallenge address purpose userId nonce)
      (normalized : normalizeAddress address = .ok walletAddress)
      (challenges : db'.walletChallenges = db.walletChallenges ++
        [⟨db.nextId, userId, walletAddress, nonce, purpose, db.now + challengeTtlMs, none⟩])
  | consumed (userId : Nat) (address nonce signature walletAddress : String)
      (label : Option String) (requested : request = .linkWallet userId address nonce signature label)
      (normalized : normalizeAddress address = .ok walletAddress)
      (once : (db.consumeChallenges walletAddress (trim nonce) .linkWallet (some userId)).1 = 1)
      (challenges : db'.walletChallenges =
        (db.consumeChallenges walletAddress (trim nonce) .linkWallet (some userId)).2.walletChallenges)

theorem serve_linkWallet_consumes {keypair : Keypair} {db db' : Store} {userId : Nat}
    {address nonce signature : String} {label : Option String}
    (served : serve keypair (.linkWallet userId address nonce signature label) db = .ok db') :
    ∃ walletAddress, normalizeAddress address = .ok walletAddress ∧
      (db.consumeChallenges walletAddress (trim nonce) .linkWallet (some userId)).1 = 1 ∧
      db'.walletChallenges =
        (db.consumeChallenges walletAddress (trim nonce) .linkWallet (some userId)).2.walletChallenges := by
  obtain ⟨⟨wallet, stored⟩, linked, rfl⟩ := except_map_ok.mp served
  obtain ⟨walletAddress, normalized, transaction⟩ := linkWallet_ok linked
  obtain ⟨-, -, -, consumed, verified, -, -, rfl⟩ := linkWalletTransaction_ok transaction
  obtain ⟨-, -, -, -, once, rfl⟩ := verifyAndConsumeChallenge_ok verified
  exact ⟨walletAddress, normalized, once, rfl⟩

theorem serve_challengeEffect {keypair : Keypair} {db db' : Store} {request : Request}
    (served : serve keypair request db = .ok db') : ChallengeEffect request db db' := by
  cases request with
  | createUser stellarAddress =>
    obtain ⟨⟨user, stored⟩, created, rfl⟩ := except_map_ok.mp served
    obtain ⟨address, -, -, upserted⟩ := createUser_ok created
    unfold Store.upsertUser at upserted
    split at upserted <;> cases upserted <;> exact .untouched rfl
  | generateChallenge address purpose userId nonce =>
    obtain ⟨⟨challenge, stored⟩, generated, rfl⟩ := except_map_ok.mp served
    obtain ⟨walletAddress, normalized, -, -, row, created⟩ := generateChallenge_ok generated
    obtain ⟨-, -, rfl, rfl⟩ := Store.createWalletChallenge_ok.mp created
    exact .issued address walletAddress nonce purpose userId rfl normalized rfl
  | linkWallet userId address nonce signature label =>
    obtain ⟨walletAddress, normalized, once, challenges⟩ := serve_linkWallet_consumes served
    exact .consumed userId address nonce signature walletAddress label rfl normalized once challenges
  | unlinkWallet userId walletId =>
    obtain ⟨⟨⟩, unlinked, rfl⟩ := except_map_ok.mp served
    obtain ⟨-, -, wallet, -, -, -, outcome⟩ := unlinkWalletTransaction_ok unlinked
    split at outcome
    · obtain ⟨-, -, -, -, -, rfl⟩ := outcome
      exact .untouched rfl
    · subst outcome
      exact .untouched rfl
  | setPrimaryWallet userId walletId =>
    obtain ⟨⟨updated, stored⟩, promoted, rfl⟩ := except_map_ok.mp served
    obtain ⟨-, -, -, -, -, -, rfl⟩ := setPrimaryWalletTransaction_ok promoted
    exact .untouched rfl
  | updateWalletLabel userId walletId label =>
    obtain ⟨⟨updated, stored⟩, relabelled, rfl⟩ := except_map_ok.mp served
    obtain ⟨-, rfl⟩ := updateWalletLabel_ok relabelled
    exact .untouched rfl
  | elapse milliseconds =>
    cases served
    exact .untouched rfl

section

variable {keypair : Keypair}

theorem step_keeps_used {db : Store} (request : Request) {row : WalletChallenge}
    (member : row ∈ db.walletChallenges) (used : row.usedAt.isSome) :
    row ∈ (step keypair db request).walletChallenges := by
  unfold step
  split
  next served =>
    cases serve_challengeEffect served with
    | untouched challenges => rwa [challenges]
    | issued _ _ _ _ _ _ _ challenges => exact challenges ▸ List.mem_append_left _ member
    | consumed _ _ _ _ _ _ _ _ _ challenges =>
      exact challenges ▸ Store.consumeChallenges_keeps_used member used
  next => exact member

theorem run_keeps_used (requests : List Request) {db : Store} {row : WalletChallenge}
    (member : row ∈ db.walletChallenges) (used : row.usedAt.isSome) :
    row ∈ (run keypair db requests).walletChallenges := by
  induction requests generalizing db with
  | nil => exact member
  | cons request rest ih => exact ih (step_keeps_used request member used)

theorem step_issued {db : Store} {prior : List Request} (request : Request)
    (issued : ∀ row ∈ db.walletChallenges, Issued prior row) :
    ∀ row ∈ (step keypair db request).walletChallenges, Issued (prior ++ [request]) row := by
  have later : ∀ row, Issued prior row → Issued (prior ++ [request]) row :=
    fun row ⟨address, member, normalized⟩ => ⟨address, List.mem_append_left _ member, normalized⟩
  unfold step
  split
  next served =>
    intro row member
    cases serve_challengeEffect served with
    | untouched challenges => exact later row (issued row (challenges ▸ member))
    | issued address _ _ _ _ requested normalized challenges =>
      rw [challenges, List.mem_append, List.mem_singleton] at member
      rcases member with old | rfl
      · exact later row (issued row old)
      · exact ⟨address, by simp [requested], normalized⟩
    | consumed _ _ _ _ _ _ _ _ _ challenges =>
      obtain ⟨old, oldMember, usedAt, rfl⟩ := Store.consumeChallenges_rows (challenges ▸ member)
      exact later old (issued old oldMember)
  next => exact fun row member => later row (issued row member)

theorem run_issued (requests : List Request) {db : Store} {prior : List Request}
    (issued : ∀ row ∈ db.walletChallenges, Issued prior row) :
    ∀ row ∈ (run keypair db requests).walletChallenges, Issued (prior ++ requests) row := by
  induction requests generalizing db prior with
  | nil => simpa using issued
  | cons request rest ih => simpa using ih (step_issued request issued)

end

theorem committed_link_consumes_issued_challenge (keypair : Keypair) (db : Store)
    (fresh : db.walletChallenges = []) (earlier : List Request) (userId : Nat)
    (address nonce signature : String) (label : Option String) (committed : Store)
    (served : serve keypair (.linkWallet userId address nonce signature label)
      (run keypair db earlier) = .ok committed) :
    (∃ challenge ∈ (run keypair db earlier).walletChallenges, Issued earlier challenge ∧
      normalizeAddress address = .ok challenge.walletAddress ∧ challenge.nonce = trim nonce ∧
      challenge.purpose = .linkWallet ∧ challenge.userId = some userId ∧
      challenge.usedAt = none ∧ (run keypair db earlier).now < challenge.expiresAt ∧
      committed.walletChallenges = (run keypair db earlier).walletChallenges.map fun row =>
        if row = challenge then { row with usedAt := some (run keypair db earlier).now } else row) ∧
    ∀ later, ∀ row ∈ committed.walletChallenges, row.usedAt.isSome →
      row ∈ (run keypair committed later).walletChallenges := by
  refine ⟨?_, fun later row member used => run_keeps_used later member used⟩
  have issued := @run_issued keypair earlier db []
    (by simp [fresh] : ∀ row ∈ db.walletChallenges, Issued [] row)
  obtain ⟨walletAddress, normalized, once, challenges⟩ := serve_linkWallet_consumes served
  obtain ⟨challenge, member, selected, marked⟩ := Store.consumeChallenges_single once
  simp only [Store.consumable, decide_eq_true_eq, Option.all_some] at selected
  obtain ⟨stored, nonceStored, purposeStored, unused, live, owner⟩ := selected
  exact ⟨challenge, member, by simpa using issued challenge member, stored ▸ normalized,
    nonceStored, purposeStored, by simpa using owner, unused, live, challenges.trans marked⟩

/-- `generateChallenge` for `GA` by user 0. -/
def issueChallenge : List Request :=
  [.createUser (some "GA"), .generateChallenge "GA" .linkWallet (some 0) "n1"]

set_option maxRecDepth 20000 in
theorem link_consumes_sample_challenge :
    emptyStore.walletChallenges = [] ∧
      serve acceptingKeypair (.linkWallet 0 " ga" " n1" sampleSignature none)
        (run acceptingKeypair emptyStore issueChallenge) =
        .ok (run acceptingKeypair emptyStore (issueChallenge ++ [.linkWallet 0 " ga" " n1" sampleSignature none])) ∧
      ((∃ challenge ∈ (run acceptingKeypair emptyStore issueChallenge).walletChallenges,
          Issued issueChallenge challenge ∧
          normalizeAddress " ga" = .ok challenge.walletAddress ∧ challenge.nonce = trim " n1" ∧
          challenge.purpose = .linkWallet ∧ challenge.userId = some 0 ∧
          challenge.usedAt = none ∧ (run acceptingKeypair emptyStore issueChallenge).now < challenge.expiresAt ∧
          (run acceptingKeypair emptyStore (issueChallenge ++ [.linkWallet 0 " ga" " n1" sampleSignature none])).walletChallenges =
            (run acceptingKeypair emptyStore issueChallenge).walletChallenges.map fun row =>
              if row = challenge then
                { row with usedAt := some (run acceptingKeypair emptyStore issueChallenge).now }
              else row) ∧
        ∀ later, ∀ row ∈ (run acceptingKeypair emptyStore
            (issueChallenge ++ [.linkWallet 0 " ga" " n1" sampleSignature none])).walletChallenges,
          row.usedAt.isSome →
          row ∈ (run acceptingKeypair (run acceptingKeypair emptyStore
            (issueChallenge ++ [.linkWallet 0 " ga" " n1" sampleSignature none])) later).walletChallenges) :=
  ⟨rfl, by decide, committed_link_consumes_issued_challenge acceptingKeypair emptyStore rfl issueChallenge
    0 " ga" " n1" sampleSignature none _ (by decide)⟩

set_option maxRecDepth 20000 in
theorem padded_link_consumes_other_row :
    (serve acceptingKeypair (.linkWallet 0 " ga" " n1" sampleSignature none)
        (run acceptingKeypair emptyStore issueChallenge)).toBool = true ∧
      ∀ row ∈ (run acceptingKeypair emptyStore issueChallenge).walletChallenges,
        row.nonce ≠ " n1" ∧ row.walletAddress ≠ toUpperCase " ga" := by
  decide

end Stellovault.Auth
