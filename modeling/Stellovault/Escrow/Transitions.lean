import Stellovault.Escrow.Machine

set_option autoImplicit false

namespace Stellovault.EscrowService

theorem mem_escrowAllowedTransitions_self (status : EscrowStatus) :
    status ∈ escrowAllowedTransitions status := by
  cases status <;> decide

theorem eq_of_mem_escrowAllowedTransitions_terminal {status next : EscrowStatus}
    (terminal : status = .completed ∨ status = .expired)
    (allowed : next ∈ escrowAllowedTransitions status) : next = status := by
  rcases terminal with rfl | rfl <;> simpa [escrowAllowedTransitions] using allowed

theorem createEscrow_ok {sys sys' : System} {payload : CreateEscrowRequest} {escrowId : String}
    (ok : createEscrow sys payload escrowId = .ok sys') :
    ∃ escrow : Escrow, escrow.id = escrowId ∧ escrow.status = .pending ∧
      escrow.stellarTxHash = none ∧ escrow.buyerId ≠ escrow.sellerId ∧
      escrow.buyerId ∈ sys.users ∧ escrow.sellerId ∈ sys.users ∧
      (sys.findEscrow escrowId).isSome = false ∧
      sys' = { sys with
        escrows := sys.escrows ++ [escrow]
        events := sys.events ++ [.escrowCreated escrow.id escrow.buyerId escrow.sellerId] } := by
  unfold createEscrow at ok
  split at ok
  · split at ok
    · simp only [except_bind_ok, except_pure, Except.ok.injEq] at ok
      obtain ⟨_, distinct, _, -, _, -, _, -, _, -, _, parties, _, -, _, -, _, fresh, _, -, rfl⟩ := ok
      obtain ⟨buyer, seller⟩ := not_not.mp (throwIf_ok.mp parties)
      exact ⟨_, rfl, rfl, rfl, throwIf_ok.mp distinct, buyer, seller, by simpa using fresh, rfl⟩
    · cases ok
  · cases ok

/-- A rewrite of rows that keeps every field of a row but its status and its hash. -/
def InPlace (rewrite : Escrow → Escrow) : Prop :=
  ∀ escrow, ∃ status stellarTxHash,
    rewrite escrow = { escrow with status := status, stellarTxHash := stellarTxHash }

theorem InPlace.id : InPlace id := fun escrow => ⟨escrow.status, escrow.stellarTxHash, rfl⟩

theorem InPlace.comp {first second : Escrow → Escrow} (firstInPlace : InPlace first)
    (secondInPlace : InPlace second) : InPlace (second ∘ first) := by
  intro escrow
  obtain ⟨_, _, moved⟩ := firstInPlace escrow
  obtain ⟨status, stellarTxHash, movedAgain⟩ := secondInPlace (first escrow)
  exact ⟨status, stellarTxHash, by rw [Function.comp_apply, movedAgain, moved]⟩

/-- How one action moves the rows: each row is rewritten in place, in its status and its hash
only, along an allowed transition; new rows come last, `PENDING`, between two distinct users;
the record of changes takes the rows whose status the rewrite changes; and the users stay. -/
structure RowsStep (sys sys' : System) (rewrite : Escrow → Escrow) (created : List Escrow) :
    Prop where
  escrows : sys'.escrows = sys.escrows.map rewrite ++ created
  changes : sys'.changes = sys.changes ++ (sys.escrows.filter fun escrow =>
      (rewrite escrow).status ≠ escrow.status).map fun escrow =>
    ⟨escrow.id, escrow.status, (rewrite escrow).status⟩
  users : sys'.users = sys.users
  inPlace : InPlace rewrite
  allowed : ∀ escrow, (rewrite escrow).status ∈ escrowAllowedTransitions escrow.status
  fresh : ∀ escrow ∈ created, escrow.status = .pending ∧ escrow.buyerId ≠ escrow.sellerId ∧
    escrow.buyerId ∈ sys.users ∧ escrow.sellerId ∈ sys.users

namespace RowsStep

variable {sys sys' : System}

theorem of_unchanged (escrows : sys'.escrows = sys.escrows) (changes : sys'.changes = sys.changes)
    (users : sys'.users = sys.users) : RowsStep sys sys' id [] where
  escrows := by simp [escrows]
  changes := by simp [changes]
  users := users
  inPlace := InPlace.id
  allowed escrow := mem_escrowAllowedTransitions_self escrow.status
  fresh := by simp

theorem of_updateMany {selected : Escrow → Bool} {update : Escrow → Escrow}
    (inPlace : InPlace update)
    (allowed : ∀ escrow, selected escrow → (update escrow).status ∈ escrowAllowedTransitions escrow.status)
    (escrows : sys'.escrows = (sys.updateMany selected update).2.escrows)
    (changes : sys'.changes = (sys.updateMany selected update).2.changes)
    (users : sys'.users = sys.users) :
    RowsStep sys sys' (fun escrow => if selected escrow then update escrow else escrow) [] where
  escrows := by simp [escrows, System.updateMany, System.rewriteRows]
  changes := by simp [changes, System.updateMany, System.rewriteRows]
  users := users
  inPlace escrow := by
    split
    · exact inPlace escrow
    · exact InPlace.id escrow
  allowed escrow := by
    split
    · exact allowed escrow ‹_›
    · exact mem_escrowAllowedTransitions_self escrow.status
  fresh := by simp

end RowsStep

theorem step_rows {sys sys' : System} {action : Action} (stepped : step sys action = some sys') :
    ∃ rewrite created, RowsStep sys sys' rewrite created := by
  cases action with
  | createEscrow payload escrowId =>
    simp only [step] at stepped
    split at stepped <;> cases stepped
    next created =>
      obtain ⟨escrow, -, pending, -, distinct, buyer, seller, -, rfl⟩ := createEscrow_ok created
      exact ⟨id, [escrow], by simp, by simp, rfl, InPlace.id,
        fun escrow => mem_escrowAllowedTransitions_self escrow.status,
        by simpa using ⟨pending, distinct, buyer, seller⟩⟩
    next => exact ⟨id, [], .of_unchanged rfl rfl rfl⟩
  | receiveEvent payload => cases stepped; exact ⟨id, [], .of_unchanged rfl rfl rfl⟩
  | resumeCall call =>
    obtain ⟨phase, -, resumed⟩ := Option.bind_eq_some.mp stepped
    cases phase with
    | validated escrowId status stellarTxHash =>
      simp only [resumeCall] at resumed
      split at resumed
      · cases resumed; exact ⟨id, [], .of_unchanged rfl rfl rfl⟩
      · split at resumed
        · cases resumed; exact ⟨id, [], .of_unchanged rfl rfl rfl⟩
        · split at resumed <;> cases resumed <;> exact ⟨id, [], .of_unchanged rfl rfl rfl⟩
    | checked escrowId status stellarTxHash existing allowed =>
      simp only [resumeCall] at resumed
      split at resumed
      · cases resumed; exact ⟨id, [], .of_unchanged rfl rfl rfl⟩
      · split at resumed <;> cases resumed <;>
          exact ⟨_, [], RowsStep.of_updateMany (fun escrow => ⟨_, _, rfl⟩) (fun escrow selected => by
            simpa [applyEvent, (of_decide_eq_true selected).2] using allowed) rfl rfl rfl⟩
    | written escrowId existing => cases resumed; exact ⟨id, [], .of_unchanged rfl rfl rfl⟩
    | reread existing updated =>
      cases updated with
      | none => cases resumed; exact ⟨id, [], .of_unchanged rfl rfl rfl⟩
      | some updated =>
        cases resumed
        exact ⟨id, [], .of_unchanged (by split <;> rfl) (by split <;> rfl) (by split <;> rfl)⟩
    | returned result => cases resumed
  | fireTimer => cases stepped; exact ⟨id, [], .of_unchanged rfl rfl rfl⟩
  | resumeSweep sweep =>
    obtain ⟨phase, -, resumed⟩ := Option.bind_eq_some.mp stepped
    cases phase with
    | selecting =>
      simp only [resumeSweep] at resumed
      split at resumed <;> cases resumed <;> exact ⟨id, [], .of_unchanged rfl rfl rfl⟩
    | updating overdue =>
      cases resumed
      exact ⟨_, [], RowsStep.of_updateMany (fun escrow => ⟨_, _, rfl⟩) (fun escrow selected => by
        simp [(of_decide_eq_true selected).1, escrowAllowedTransitions]) rfl rfl rfl⟩
    | reselecting overdue => cases resumed; exact ⟨id, [], .of_unchanged rfl rfl rfl⟩
    | broadcasting expired => cases resumed; exact ⟨id, [], .of_unchanged rfl rfl rfl⟩
    | finished => cases resumed
  | elapse milliseconds => cases stepped; exact ⟨id, [], .of_unchanged rfl rfl rfl⟩

theorem run_rows {sys sys' : System} {actions : List Action} (ran : run sys actions = some sys') :
    (∃ changes, sys'.changes = sys.changes ++ changes ∧
      ∀ change ∈ changes, change.after ∈ escrowAllowedTransitions change.before ∧
        change.after ≠ change.before) ∧
    sys'.users = sys.users ∧
    ∃ rewrite : Escrow → Escrow, ∃ created, sys'.escrows = sys.escrows.map rewrite ++ created ∧
      InPlace rewrite ∧
      (∀ escrow, escrow.status = .completed ∨ escrow.status = .expired →
        (rewrite escrow).status = escrow.status) ∧
      ∀ escrow ∈ created, escrow.buyerId ≠ escrow.sellerId ∧ escrow.buyerId ∈ sys.users ∧
        escrow.sellerId ∈ sys.users := by
  induction actions generalizing sys with
  | nil =>
    cases ran
    exact ⟨⟨[], by simp, by simp⟩, rfl, id, [], by simp, InPlace.id, fun _ _ => rfl, by simp⟩
  | cons action rest ih =>
    obtain ⟨next, stepped, ran⟩ := Option.bind_eq_some.mp ran
    obtain ⟨rewrite, created, rows⟩ := step_rows stepped
    obtain ⟨⟨changes, grown, allowed⟩, users, later, laterCreated, laterRows, laterInPlace,
      laterTerminal, laterFresh⟩ := ih ran
    refine ⟨⟨(sys.escrows.filter fun escrow => (rewrite escrow).status ≠ escrow.status).map
        (fun escrow => ⟨escrow.id, escrow.status, (rewrite escrow).status⟩) ++ changes,
        by rw [grown, rows.changes, List.append_assoc], ?_⟩, users.trans rows.users,
      later ∘ rewrite, created.map later ++ laterCreated, ?_, rows.inPlace.comp laterInPlace,
      fun escrow terminal => ?_, fun escrow member => ?_⟩
    · intro change member
      rcases List.mem_append.mp member with written | member
      · obtain ⟨escrow, selected, rfl⟩ := List.mem_map.mp written
        exact ⟨rows.allowed escrow, (of_decide_eq_true (List.mem_filter.mp selected).2)⟩
      · exact allowed change member
    · rw [laterRows, rows.escrows, List.map_append, List.map_map, List.append_assoc]
    · have first := eq_of_mem_escrowAllowedTransitions_terminal terminal (rows.allowed escrow)
      rw [Function.comp_apply, laterTerminal _ (first ▸ terminal), first]
    · rcases List.mem_append.mp member with moved | added
      · obtain ⟨original, originalMember, rfl⟩ := List.mem_map.mp moved
        obtain ⟨-, distinct, buyer, seller⟩ := rows.fresh original originalMember
        obtain ⟨_, _, kept⟩ := laterInPlace original
        rw [kept]
        exact ⟨distinct, buyer, seller⟩
      · rw [← rows.users]
        exact laterFresh escrow added

theorem rewriteRows_of_fixed {sys : System} {rewrite : Escrow → Escrow}
    (fixed : ∀ escrow ∈ sys.escrows, rewrite escrow = escrow) : sys.rewriteRows rewrite = sys := by
  have rows : sys.escrows.map rewrite = sys.escrows :=
    (List.map_congr_left fixed).trans (List.map_id _)
  have unchanged : (sys.escrows.filter fun escrow => (rewrite escrow).status ≠ escrow.status) = [] :=
    List.filter_eq_nil_iff.mpr fun escrow member => by simp [fixed escrow member]
  simp only [System.rewriteRows, rows, unchanged, List.map_nil, List.append_nil]

theorem toList_any {α : Type} (value : Option α) (p : α → Bool) : value.toList.any p = value.any p := by
  cases value <;> simp [Option.toList]

theorem stale_call_fails {sys : System} {call : Nat} {escrowId : String} {status : EscrowStatus}
    {stellarTxHash : Option String} {existing : Escrow}
    {allowed : status ∈ escrowAllowedTransitions existing.status}
    (current : sys.calls.get? call = some (.checked escrowId status stellarTxHash existing allowed))
    (stale : ∀ escrow ∈ sys.escrows, escrow.id = escrowId → escrow.status ≠ existing.status) :
    step sys (.resumeCall call) = some (sys.setCall call (.returned (.error
      (if stellarTxHash.any holdsNul then .store .nulInText else .validationError
        "Escrow status changed concurrently. Please retry with latest state.")))) := by
  have unmatched : ∀ escrow ∈ sys.escrows,
      ¬ (escrow.id = escrowId ∧ escrow.status = existing.status) :=
    fun escrow member ⟨same, held⟩ => stale escrow member same held
  have unchanged : (sys.rewriteRows fun escrow =>
      if decide (escrow.id = escrowId ∧ escrow.status = existing.status) then
        applyEvent status stellarTxHash escrow else escrow) = sys :=
    rewriteRows_of_fixed fun escrow member => if_neg (by simpa using unmatched escrow member)
  have zero : sys.escrows.countP
      (fun escrow => decide (escrow.id = escrowId ∧ escrow.status = existing.status)) = 0 :=
    List.countP_eq_zero.mpr fun escrow member => by simpa using unmatched escrow member
  simp only [step, current, Option.some_bind, resumeCall, textParameters, throwIf, toList_any]
  by_cases nul : stellarTxHash.any holdsNul = true
  · simp only [nul, if_true]
  · simp only [nul, if_false, System.updateMany, zero, unchanged]
    rfl

theorem escrow_status_follows_transitions (sys : System) (actions : List Action) (sys' : System)
    (ran : run sys actions = some sys') :
    (∃ changes, sys'.changes = sys.changes ++ changes ∧
      ∀ change ∈ changes, change.after ∈ escrowAllowedTransitions change.before) ∧
    (∃ rewrite : Escrow → Escrow, ∃ created, sys'.escrows = sys.escrows.map rewrite ++ created ∧
      ∀ escrow, escrow.status = .completed ∨ escrow.status = .expired →
        (rewrite escrow).status = escrow.status) ∧
    ∀ call escrowId status stellarTxHash existing allowed,
      sys'.calls.get? call = some (.checked escrowId status stellarTxHash existing allowed) →
      (∀ escrow ∈ sys'.escrows, escrow.id = escrowId → escrow.status ≠ existing.status) →
      step sys' (.resumeCall call) = some (sys'.setCall call (.returned (.error
        (if stellarTxHash.any holdsNul then .store .nulInText else .validationError
          "Escrow status changed concurrently. Please retry with latest state.")))) := by
  obtain ⟨⟨changes, grown, allowed⟩, -, rewrite, created, rows, -, terminal, -⟩ := run_rows ran
  exact ⟨⟨changes, grown, fun change member => (allowed change member).1⟩,
    ⟨rewrite, created, rows, terminal⟩,
    fun _ _ _ _ _ _ current stale => stale_call_fails current stale⟩

/-- An escrow awaiting its first event. -/
def pendingEscrow : System :=
  ⟨["buyer", "seller"], [⟨"escrow", "buyer", "seller", 500, "USDC", .pending, none, 1000, 0⟩],
    "escrow-contract", 0, [], [], [], []⟩

/-- The row of `pendingEscrow`. -/
def pendingRow : Escrow := ⟨"escrow", "buyer", "seller", 500, "USDC", .pending, none, 1000, 0⟩

/-- Two notifications race on `pendingEscrow`: both pass their check, the `ACTIVE` one writes, and
the `DISPUTED` one then matches no row. -/
def racingNotifications : List Action :=
  [.receiveEvent ⟨some "escrow", some "ACTIVE", none⟩, .receiveEvent ⟨some "escrow", some "DISPUTED", none⟩,
    .resumeCall 0, .resumeCall 1, .resumeCall 0, .resumeCall 1]

def afterWinningWrite : System := (run pendingEscrow (racingNotifications.take 5)).getD pendingEscrow

theorem pending_escrow_follows_transitions :
    run pendingEscrow (racingNotifications.take 5) = some afterWinningWrite ∧
    afterWinningWrite.changes = [⟨"escrow", .pending, .active⟩] ∧
    (∃ changes, afterWinningWrite.changes = pendingEscrow.changes ++ changes ∧
      ∀ change ∈ changes, change.after ∈ escrowAllowedTransitions change.before) ∧
    (∃ rewrite : Escrow → Escrow, ∃ created, afterWinningWrite.escrows = pendingEscrow.escrows.map rewrite ++ created ∧
      ∀ escrow, escrow.status = .completed ∨ escrow.status = .expired →
        (rewrite escrow).status = escrow.status) ∧
    afterWinningWrite.calls.get? 1 = some (.checked "escrow" .disputed none pendingRow (by decide)) ∧
    step afterWinningWrite (.resumeCall 1) = some (afterWinningWrite.setCall 1 (.returned (.error
      (.validationError "Escrow status changed concurrently. Please retry with latest state.")))) := by
  have ran : run pendingEscrow (racingNotifications.take 5) = some afterWinningWrite := rfl
  obtain ⟨changes, rows, stale⟩ :=
    escrow_status_follows_transitions pendingEscrow (racingNotifications.take 5) afterWinningWrite ran
  exact ⟨ran, rfl, changes, rows, rfl,
    stale 1 "escrow" .disputed none pendingRow (by decide) rfl (by decide)⟩

/-- A notification whose hash holds U+0000, past its check on `pendingEscrow` when the row moves
on: its update is refused before it matches, so it fails with the store's error. -/
def staleNulCall : System :=
  { pendingEscrow with
    escrows := [{ pendingRow with status := .active }]
    calls := [.checked "escrow" .disputed (some "tx\x00") pendingRow (by decide)] }

theorem stale_nul_call_refused_by_store :
    step staleNulCall (.resumeCall 0) =
      some (staleNulCall.setCall 0 (.returned (.error (.store .nulInText)))) :=
  rfl

theorem racing_calls_one_winner (sys sys' : System) (first second : Nat) (distinct : first ≠ second)
    (escrowId : String) (status status' : EscrowStatus) (stellarTxHash stellarTxHash' : Option String)
    (existing existing' : Escrow) (allowed : status ∈ escrowAllowedTransitions existing.status)
    (allowed' : status' ∈ escrowAllowedTransitions existing'.status)
    (firstCall : sys.calls.get? first = some (.checked escrowId status stellarTxHash existing allowed))
    (secondCall :
      sys.calls.get? second = some (.checked escrowId status' stellarTxHash' existing' allowed'))
    (snapshot : existing'.status = existing.status) (changes : status ≠ existing.status)
    (wrote : step sys (.resumeCall first) = some sys')
    (written : sys'.calls.get? first = some (.written escrowId existing)) :
    step sys' (.resumeCall second) = some (sys'.setCall second (.returned (.error
      (if stellarTxHash'.any holdsNul then .store .nulInText else .validationError
        "Escrow status changed concurrently. Please retry with latest state.")))) := by
  simp only [step, firstCall, Option.some_bind, resumeCall, textParameters, throwIf, toList_any] at wrote
  have sendable : stellarTxHash.any holdsNul = false := by
    by_contra nul
    simp only [Bool.not_eq_false] at nul
    simp only [nul, if_true] at wrote
    cases wrote
    simp [System.setCall, List.getElem?_set_eq_of_lt _ (List.get?_eq_some.mp firstCall).1] at written
  simp only [sendable, if_false, Bool.false_eq_true] at wrote
  have rows : sys'.escrows = sys.escrows.map (fun escrow =>
      if decide (escrow.id = escrowId ∧ escrow.status = existing.status) then
        applyEvent status stellarTxHash escrow else escrow) ∧
      sys'.calls.get? second = sys.calls.get? second := by
    split at wrote <;> cases wrote <;>
      simp [System.setCall, System.updateMany, System.rewriteRows, distinct]
  refine stale_call_fails (by rw [rows.2, secondCall]) fun escrow member same held => ?_
  rw [rows.1, List.mem_map] at member
  obtain ⟨row, -, rfl⟩ := member
  rw [snapshot] at held
  by_cases selected : row.id = escrowId ∧ row.status = existing.status
  · rw [if_pos (decide_eq_true selected)] at held
    exact changes held
  · rw [if_neg (by simpa using selected)] at same held
    exact selected ⟨same, held⟩

/-- Two notifications for `pendingEscrow`, both past their transition check. -/
def racingCalls : System :=
  { pendingEscrow with calls := [.checked "escrow" .active none pendingRow (by decide),
    .checked "escrow" .disputed none pendingRow (by decide)] }

def racingWinner : System := (step racingCalls (.resumeCall 0)).getD racingCalls

theorem racing_sample_one_winner :
    (0 : Nat) ≠ 1 ∧
    racingCalls.calls.get? 0 = some (.checked "escrow" .active none pendingRow (by decide)) ∧
    racingCalls.calls.get? 1 = some (.checked "escrow" .disputed none pendingRow (by decide)) ∧
    pendingRow.status = pendingRow.status ∧ EscrowStatus.active ≠ pendingRow.status ∧
    step racingCalls (.resumeCall 0) = some racingWinner ∧
    racingWinner.calls.get? 0 = some (.written "escrow" pendingRow) ∧
    step racingWinner (.resumeCall 1) = some (racingWinner.setCall 1 (.returned (.error
      (if (none : Option String).any holdsNul then .store .nulInText else .validationError
        "Escrow status changed concurrently. Please retry with latest state.")))) :=
  ⟨by decide, rfl, rfl, rfl, by decide, rfl, rfl, racing_calls_one_winner racingCalls _ 0 1 (by decide)
    "escrow" .active .disputed none none pendingRow pendingRow (by decide) (by decide) rfl rfl rfl
    (by decide) rfl rfl⟩

theorem escrow_rows_change_status_and_hash_only (sys : System) (actions : List Action)
    (sys' : System) (ran : run sys actions = some sys') :
    ∃ rewrite : Escrow → Escrow, ∃ created, sys'.escrows = sys.escrows.map rewrite ++ created ∧
      (∀ escrow, ∃ status stellarTxHash,
        rewrite escrow = { escrow with status := status, stellarTxHash := stellarTxHash }) ∧
      ∀ escrow ∈ created, escrow.buyerId ≠ escrow.sellerId ∧ escrow.buyerId ∈ sys.users ∧
        escrow.sellerId ∈ sys.users := by
  obtain ⟨-, -, rewrite, created, rows, inPlace, -, fresh⟩ := run_rows ran
  exact ⟨rewrite, created, rows, inPlace, fresh⟩

/-- The escrow is activated with a hash. -/
def activatePending : List Action :=
  [.receiveEvent ⟨some "escrow", some "ACTIVE", some "tx-1"⟩, .resumeCall 0, .resumeCall 0,
    .resumeCall 0]

theorem activated_row_keeps_terms :
    run pendingEscrow activatePending = some ((run pendingEscrow activatePending).getD pendingEscrow) ∧
    ∃ rewrite : Escrow → Escrow, ∃ created,
      ((run pendingEscrow activatePending).getD pendingEscrow).escrows =
        pendingEscrow.escrows.map rewrite ++ created ∧
      (∀ escrow, ∃ status stellarTxHash,
        rewrite escrow = { escrow with status := status, stellarTxHash := stellarTxHash }) ∧
      ∀ escrow ∈ created, escrow.buyerId ≠ escrow.sellerId ∧ escrow.buyerId ∈ pendingEscrow.users ∧
        escrow.sellerId ∈ pendingEscrow.users :=
  ⟨rfl, escrow_rows_change_status_and_hash_only pendingEscrow activatePending _ rfl⟩

/-- The escrow is completed with hash `tx-1`; the same status is then notified again with hash
`tx-2`. -/
def renotifyCompleted : List Action :=
  [.receiveEvent ⟨some "escrow", some "COMPLETED", some "tx-1"⟩, .resumeCall 0, .resumeCall 0,
    .resumeCall 0, .receiveEvent ⟨some "escrow", some "completed", some "tx-2"⟩, .resumeCall 1,
    .resumeCall 1, .resumeCall 1]

theorem completed_escrow_hash_rewritten :
    (run pendingEscrow (renotifyCompleted.take 4)).map (fun sys =>
        sys.escrows.map fun escrow => (escrow.status, escrow.stellarTxHash)) =
      some [(.completed, some "tx-1")] ∧
    (run pendingEscrow renotifyCompleted).map (fun sys =>
        sys.escrows.map fun escrow => (escrow.status, escrow.stellarTxHash)) =
      some [(.completed, some "tx-2")] := by
  decide

/-- A repeated `PENDING` notification writes first; an `ACTIVE` one then moves the escrow and
announces it; the first call then re-reads the row. -/
def renotifyThenActivate : List Action :=
  [.receiveEvent ⟨some "escrow", some "PENDING", none⟩, .resumeCall 0, .resumeCall 0,
    .receiveEvent ⟨some "escrow", some "ACTIVE", none⟩, .resumeCall 1, .resumeCall 1, .resumeCall 1,
    .resumeCall 1, .resumeCall 0, .resumeCall 0]

theorem one_change_announced_twice :
    (run pendingEscrow renotifyThenActivate).map (·.changes) = some [⟨"escrow", .pending, .active⟩] ∧
    (run pendingEscrow renotifyThenActivate).map (·.events) =
      some [.escrowUpdated "escrow" .active, .escrowUpdated "escrow" .active] := by
  decide

end Stellovault.EscrowService
