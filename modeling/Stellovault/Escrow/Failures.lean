import Stellovault.Escrow.Transitions
import Stellovault.Middleware.Errors

set_option autoImplicit false

/-!
# Which escrow requests end in a 500
-/

namespace Stellovault.EscrowService

open Stellovault.Middleware

/-! ## `createEscrow` -/

/-- The payloads of the `processEscrowEvent` calls of a run, in the order the calls start. -/
def receivedPayloads (actions : List Action) : List EscrowEventPayload :=
  actions.filterMap fun
    | .receiveEvent payload => some payload
    | _ => none

/-- What a call keeps of its payload, and that it returned an error answered with `500` only when
the store refused a text value of the payload holding U+0000. -/
def PhaseFrom (payload : EscrowEventPayload) : EventCall → Prop
  | .validated escrowId _ stellarTxHash =>
    trimToNull payload.escrowId = some escrowId ∧ stellarTxHash = payload.stellarTxHash.filter (· ≠ "")
  | .checked _ _ stellarTxHash _ _ => stellarTxHash = payload.stellarTxHash.filter (· ≠ "")
  | .returned (.error err) => ¬ Unhandled err ∨
    err = .store .nulInText ∧ (payload.escrowId.any holdsNul ∨ payload.stellarTxHash.any holdsNul)
  | _ => True

/-- The call at each index comes from the payload at that index. -/
def CallsFrom (payloads : List EscrowEventPayload) (calls : List EventCall) : Prop :=
  calls.length = payloads.length ∧
    ∀ index payload phase, payloads.get? index = some payload → calls.get? index = some phase →
      PhaseFrom payload phase

theorem receiveEvent_from (payload : EscrowEventPayload) : PhaseFrom payload (receiveEvent payload) := by
  unfold receiveEvent
  split
  · exact .inl id
  · next escrowId trimmed =>
    split
    · next error failed =>
      obtain ⟨message, rfl⟩ : ∃ message, error = .validationError message := by
        unfold normalizeStatus at failed
        split at failed <;> cases failed
        exact ⟨_, rfl⟩
      exact .inl id
    · exact ⟨trimmed, rfl⟩

theorem CallsFrom.setCall {payloads : List EscrowEventPayload} {sys : System}
    (from_ : CallsFrom payloads sys.calls) {call : Nat} {payload : EscrowEventPayload} {phase : EventCall}
    (listed : payloads.get? call = some payload) (new : PhaseFrom payload phase) :
    CallsFrom payloads (sys.setCall call phase).calls := by
  refine ⟨by simp [System.setCall, from_.1], fun index other current member found => ?_⟩
  simp only [System.setCall, List.get?_eq_getElem?, List.getElem?_set] at found
  by_cases same : call = index
  · subst same
    rw [List.get?_eq_getElem?] at listed member
    rw [listed] at member
    cases member
    simp only [if_true] at found
    split at found
    · cases found; exact new
    · cases found
  · rw [if_neg same] at found
    exact from_.2 index other current member (by rwa [List.get?_eq_getElem?])

theorem resumeCall_from {payloads : List EscrowEventPayload} {sys sys' : System}
    (from_ : CallsFrom payloads sys.calls) {call : Nat} {payload : EscrowEventPayload} {phase : EventCall}
    (listed : payloads.get? call = some payload) (current : PhaseFrom payload phase)
    (resumed : resumeCall sys call phase = some sys') : CallsFrom payloads sys'.calls := by
  cases phase with
  | validated escrowId status stellarTxHash =>
    simp only [resumeCall] at resumed
    split at resumed
    · next error refused =>
      cases resumed
      obtain ⟨rfl, value, member, nul⟩ := textParameters_error refused
      rw [List.mem_singleton.mp member] at nul
      exact from_.setCall listed (.inr ⟨rfl, .inl (holdsNul_of_trimToNull current.1 nul)⟩)
    · split at resumed
      · cases resumed; exact from_.setCall listed (.inl id)
      · split at resumed <;> cases resumed
        · exact from_.setCall listed current.2
        · exact from_.setCall listed (.inl id)
  | checked escrowId status stellarTxHash existing allowed =>
    simp only [resumeCall] at resumed
    split at resumed
    · next error refused =>
      cases resumed
      obtain ⟨rfl, value, member, nul⟩ := textParameters_error refused
      rw [current] at member
      obtain ⟨sent, -⟩ := Option.filter_eq_some.mp (Option.mem_toList.mp member)
      exact from_.setCall listed (.inr ⟨rfl, .inr (by simp [Option.mem_def.mp sent, nul])⟩)
    · split at resumed <;> cases resumed
      · exact CallsFrom.setCall (by exact from_) listed (.inl id)
      · exact CallsFrom.setCall (by exact from_) listed trivial
  | written escrowId existing => cases resumed; exact from_.setCall listed trivial
  | reread existing updated =>
    cases updated with
    | none => cases resumed; exact from_.setCall listed (.inl id)
    | some updated =>
      cases resumed
      refine CallsFrom.setCall ?_ listed trivial
      split
      exacts [from_, from_]
  | returned result => cases resumed

theorem step_from {payloads : List EscrowEventPayload} {sys sys' : System}
    (from_ : CallsFrom payloads sys.calls) {action : Action} (stepped : step sys action = some sys') :
    CallsFrom (payloads ++ receivedPayloads [action]) sys'.calls := by
  cases action with
  | createEscrow payload escrowId =>
    simp only [step] at stepped
    split at stepped <;> cases stepped
    next created =>
      obtain ⟨_, -, -, -, -, -, -, -, rfl⟩ := createEscrow_ok created
      simpa [receivedPayloads] using from_
    next => simpa [receivedPayloads] using from_
  | receiveEvent payload =>
    cases stepped
    refine ⟨by simp [from_.1, receivedPayloads], fun index other phase listed found => ?_⟩
    simp only [receivedPayloads, List.filterMap_cons, List.filterMap_nil, List.get?_eq_getElem?] at listed found
    by_cases old : index < payloads.length
    · rw [List.getElem?_append_left old] at listed
      rw [List.getElem?_append_left (from_.1 ▸ old)] at found
      exact from_.2 index other phase (by rwa [List.get?_eq_getElem?]) (by rwa [List.get?_eq_getElem?])
    · rw [List.getElem?_append_right (by omega)] at listed
      rw [List.getElem?_append_right (by rw [from_.1]; omega), from_.1] at found
      obtain ⟨-, rfl⟩ := List.getElem?_eq_some_iff.mp listed
      obtain ⟨-, rfl⟩ := List.getElem?_eq_some_iff.mp found
      simpa using receiveEvent_from payload
  | resumeCall call =>
    obtain ⟨phase, found, resumed⟩ := Option.bind_eq_some.mp stepped
    obtain ⟨payload, listed⟩ : ∃ payload, payloads.get? call = some payload := by
      obtain ⟨bound, -⟩ := List.get?_eq_some.mp found
      exact ⟨_, List.get?_eq_get (from_.1 ▸ bound)⟩
    simpa [receivedPayloads] using
      resumeCall_from from_ listed (from_.2 call payload phase listed found) resumed
  | resumeSweep sweep =>
    obtain ⟨phase, -, resumed⟩ := Option.bind_eq_some.mp stepped
    cases phase <;> simp only [resumeSweep] at resumed
    all_goals first | cases resumed | (split at resumed <;> cases resumed)
    all_goals simpa [receivedPayloads] using from_
  | _ => cases stepped; simpa [receivedPayloads] using from_

theorem run_from : ∀ (actions : List Action) {payloads : List EscrowEventPayload} {sys sys' : System},
    CallsFrom payloads sys.calls → run sys actions = some sys' →
      CallsFrom (payloads ++ receivedPayloads actions) sys'.calls
  | [], _, _, _, from_, ran => by cases ran; simpa [receivedPayloads] using from_
  | action :: rest, payloads, _, _, from_, ran => by
    obtain ⟨next, stepped, ranRest⟩ := Option.bind_eq_some.mp ran
    have later := run_from rest (step_from from_ stepped) ranRest
    simp only [receivedPayloads] at later ⊢
    rwa [List.append_assoc, ← List.filterMap_append] at later

theorem event_calls_server_error_only_on_nul (prismaMessage : StoreError → String) (sys : System)
    (actions : List Action) {sys' : System} (idle : sys.calls = []) (ran : run sys actions = some sys')
    {call : Nat} {err : AppError} (returned : sys'.calls.get? call = some (.returned (.error err)))
    (internal : (errorMiddleware prismaMessage err).status = 500) :
    err = .store .nulInText ∧ ∃ payload, (receivedPayloads actions).get? call = some payload ∧
      (payload.escrowId.any holdsNul ∨ payload.stellarTxHash.any holdsNul) := by
  have from_ := @run_from actions [] sys sys' ⟨by simp [idle], by simp [idle]⟩ ran
  obtain ⟨payload, listed⟩ : ∃ payload, (receivedPayloads actions).get? call = some payload := by
    obtain ⟨bound, -⟩ := List.get?_eq_some.mp returned
    exact ⟨_, List.get?_eq_get (by simpa [from_.1] using bound)⟩
  have phase := from_.2 call payload _ (by simpa using listed) returned
  obtain ⟨refused, nul⟩ :=
    phase.resolve_left (not_not.mpr ((errorMiddleware_status_eq_500 _ _).mp internal))
  exact ⟨refused, payload, listed, nul⟩

/-- A notification for `pendingEscrow` whose hash holds U+0000: it passes its check, and the store
refuses its update. -/
def nulHashNotification : List Action :=
  [.receiveEvent ⟨some "escrow", some "ACTIVE", some "tx\x00"⟩, .resumeCall 0, .resumeCall 0]

def refusedState : System := (run pendingEscrow nulHashNotification).getD pendingEscrow

theorem nul_hash_notification_answered_500 :
    pendingEscrow.calls = [] ∧ run pendingEscrow nulHashNotification = some refusedState ∧
      refusedState.calls.get? 0 = some (.returned (.error (.store .nulInText))) ∧
      (errorMiddleware (fun _ => "invalid byte sequence") (.store .nulInText)).status = 500 ∧
      (.store .nulInText : AppError) = .store .nulInText ∧
      ∃ payload, (receivedPayloads nulHashNotification).get? 0 = some payload ∧
        (payload.escrowId.any holdsNul ∨ payload.stellarTxHash.any holdsNul) := by
  have ran : run pendingEscrow nulHashNotification = some refusedState := rfl
  have returned : refusedState.calls.get? 0 = some (.returned (.error (.store .nulInText))) := rfl
  exact ⟨rfl, ran, returned, rfl,
    event_calls_server_error_only_on_nul (fun _ => "invalid byte sequence") pendingEscrow nulHashNotification
      rfl ran returned rfl⟩

end Stellovault.EscrowService
