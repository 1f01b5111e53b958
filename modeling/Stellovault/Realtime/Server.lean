import Stellovault.Realtime.Connections
import Stellovault.Escrow.Transitions

set_option autoImplicit false

/-!
# The escrow service behind the websocket

An escrow action forwards the events it appended to the websocket state in the same step.
-/

namespace Stellovault.Realtime

/-! ## The escrow log only grows -/

/-- The escrow machine appended `added` to its log. -/
def EventsGrow (sys sys' : EscrowService.System) (added : List EscrowService.Event) : Prop :=
  sys'.events = sys.events ++ added

section Log

open EscrowService

variable {sys : System}

@[simp] theorem setCall_events (call : Nat) (phase : EventCall) :
    (sys.setCall call phase).events = sys.events := rfl

@[simp] theorem setSweep_events (sweep : Nat) (phase : SweepCall) :
    (sys.setSweep sweep phase).events = sys.events := rfl

@[simp] theorem updateMany_events (selected : Escrow → Bool) (update : Escrow → Escrow) :
    (sys.updateMany selected update).2.events = sys.events := rfl

theorem step_eventsGrow {sys' : System} {action : Action} (stepped : step sys action = some sys') :
    ∃ added, EventsGrow sys sys' added := by
  cases action with
  | createEscrow payload escrowId =>
    simp only [step] at stepped
    split at stepped <;> cases stepped
    next created =>
      obtain ⟨escrow, -, -, -, -, -, -, -, rfl⟩ := createEscrow_ok created
      exact ⟨_, rfl⟩
    next => exact ⟨[], (List.append_nil _).symm⟩
  | resumeCall call =>
    obtain ⟨phase, -, resumed⟩ := Option.bind_eq_some.mp stepped
    cases phase with
    | reread existing updated =>
      cases updated with
      | none => cases resumed; exact ⟨[], (List.append_nil _).symm⟩
      | some updated =>
        cases resumed
        by_cases changed : existing.status ≠ updated.status
        · exact ⟨[.escrowUpdated updated.id updated.status], by simp [EventsGrow, changed, System.broadcast]⟩
        · exact ⟨[], by simp [EventsGrow, changed]⟩
    | returned result => cases resumed
    | _ =>
      simp only [resumeCall] at resumed
      repeat' split at resumed
      all_goals cases resumed; exact ⟨[], (List.append_nil _).symm⟩
  | resumeSweep sweep =>
    obtain ⟨phase, -, resumed⟩ := Option.bind_eq_some.mp stepped
    cases phase with
    | broadcasting expired => cases resumed; exact ⟨_, rfl⟩
    | finished => cases resumed
    | _ =>
      simp only [resumeSweep] at resumed
      repeat' split at resumed
      all_goals cases resumed; exact ⟨[], (List.append_nil _).symm⟩
  | _ => cases stepped; exact ⟨[], (List.append_nil _).symm⟩

end Log

/-! ## The server -/

/-- The escrow service and the websocket service of one server process. -/
structure Server where
  escrow : EscrowService.System
  ws : WsState

inductive ServerAction where
  /-- A call of the escrow service, a resume of one at an await, or its timer. -/
  | escrow (action : EscrowService.Action)
  /-- Anything else the websocket service sees. -/
  | websocket (action : WsState.Action)

/-- The `broadcastEscrowCreated` and `broadcastEscrowUpdated` calls for some escrow events. -/
def forward (events : List EscrowService.Event) : List WsState.Action :=
  events.map fun event => .broadcastEvent (escrowPayload event)

namespace Server

def step (server : Server) : ServerAction → Option Server
  | .escrow action => (EscrowService.step server.escrow action).map fun escrow =>
      ⟨escrow, server.ws.run (forward (escrow.events.drop server.escrow.events.length))⟩
  | .websocket action => some ⟨server.escrow, server.ws.step action⟩

def run (server : Server) : List ServerAction → Option Server
  | [] => some server
  | action :: rest => (server.step action).bind fun next => next.run rest

end Server

/-! ## What a connected client is sent -/

theorem run_forward (st : WsState) (events : List EscrowService.Event) {w : Nat}
    (registered : w ∈ st.connections.elements) (opened : (st.sockets w).readyState = .opened) :
    w ∈ (st.run (forward events)).connections.elements ∧
      ((st.run (forward events)).sockets w).readyState = .opened ∧
      ((st.run (forward events)).sockets w).sent =
        (st.sockets w).sent ++ events.map (stringify ∘ escrowPayload) := by
  induction events generalizing st with
  | nil => exact ⟨registered, opened, by simp [forward, WsState.run]⟩
  | cons event rest ih =>
    have sent := WsState.step_sent st (.broadcastEvent (escrowPayload event)) w
    rw [if_pos ⟨registered, opened⟩] at sent
    have stillOpen : ((st.broadcastEvent (escrowPayload event)).sockets w).readyState = .opened := by
      rw [WsState.broadcastEvent_sockets, if_pos registered]
      unfold Socket.sendIfOpen
      split <;> exact opened
    obtain ⟨member, open_, later⟩ := ih (st.broadcastEvent (escrowPayload event)) registered stillOpen
    refine ⟨member, open_, ?_⟩
    rw [forward, List.map_cons, WsState.run, List.foldl_cons, ← WsState.run]
    exact later.trans (by simp [WsState.step, WsState.broadcastsOf] at sent; simp [sent])

theorem Server.step_sent {server server' : Server} {action : ServerAction}
    (stepped : server.step action = some server') (noBroadcast : ∀ event, action ≠ .websocket (.broadcastEvent event))
    {w : Nat} (registered : w ∈ server.ws.connections.elements)
    (opened : (server.ws.sockets w).readyState = .opened) :
    ∃ added, EventsGrow server.escrow server'.escrow added ∧
      (server'.ws.sockets w).sent = (server.ws.sockets w).sent ++ added.map (stringify ∘ escrowPayload) := by
  cases action with
  | escrow action =>
    simp only [Server.step] at stepped
    obtain ⟨escrow, escrowStepped, rfl⟩ := Option.map_eq_some'.mp stepped
    obtain ⟨added, grown⟩ := step_eventsGrow escrowStepped
    refine ⟨added, grown, ?_⟩
    rw [grown, List.drop_left]
    exact (run_forward _ added registered opened).2.2
  | websocket action =>
    cases stepped
    refine ⟨[], (List.append_nil _).symm, ?_⟩
    rw [WsState.step_sent, if_pos ⟨registered, opened⟩]
    cases action <;> simp_all [WsState.broadcastsOf]

theorem connected_client_follows_escrow_log (server : Server) (actions : List ServerAction)
    {server' : Server} (ran : server.run actions = some server') (w : Nat)
    (noBroadcasts : ∀ event, .websocket (.broadcastEvent event) ∉ actions)
    (stays : ∀ n < actions.length, ∀ state ∈ server.run (actions.take n),
      w ∈ state.ws.connections.elements ∧ (state.ws.sockets w).readyState = .opened) :
    ∃ added, EventsGrow server.escrow server'.escrow added ∧
      (server'.ws.sockets w).sent = (server.ws.sockets w).sent ++ added.map (stringify ∘ escrowPayload) := by
  induction actions generalizing server with
  | nil =>
    cases ran
    exact ⟨[], (List.append_nil _).symm, (List.append_nil _).symm⟩
  | cons action rest ih =>
    obtain ⟨next, stepped, ranRest⟩ := Option.bind_eq_some.mp ran
    obtain ⟨registered, opened⟩ := stays 0 (by simp) server rfl
    obtain ⟨added, grown, sent⟩ := Server.step_sent stepped
      (fun event same => noBroadcasts event (same ▸ List.mem_cons_self _ _)) registered opened
    obtain ⟨later, laterGrown, laterSent⟩ := ih next ranRest
      (fun event member => noBroadcasts event (List.mem_cons_of_mem _ member))
      (fun n short state reached => stays (n + 1) (by simpa using short) state
        (by simpa [Server.run, stepped] using reached))
    refine ⟨added ++ later, by rw [EventsGrow, laterGrown, grown, List.append_assoc], ?_⟩
    rw [laterSent, sent, List.map_append, List.append_assoc]

/-- A client connected to a new server while a repeated `PENDING` notification and an `ACTIVE`
one race on a pending escrow. -/
def watchedRace : Server := ⟨EscrowService.pendingEscrow, WsState.new.addConnection 0⟩

def raceActions : List ServerAction := EscrowService.renotifyThenActivate.map .escrow

def raceEnd : Server := (watchedRace.run raceActions).getD watchedRace

theorem watched_race_sent_activation_twice :
    watchedRace.run raceActions = some raceEnd ∧
      (∀ event, ServerAction.websocket (.broadcastEvent event) ∉ raceActions) ∧
      (∀ n < raceActions.length, ∀ state ∈ watchedRace.run (raceActions.take n),
        0 ∈ state.ws.connections.elements ∧ (state.ws.sockets 0).readyState = .opened) ∧
      (raceEnd.ws.sockets 0).sent =
        [stringify (.escrowUpdated "escrow" "ACTIVE"), stringify (.escrowUpdated "escrow" "ACTIVE")] ∧
      ∃ added, EventsGrow watchedRace.escrow raceEnd.escrow added ∧
        (raceEnd.ws.sockets 0).sent = (watchedRace.ws.sockets 0).sent ++ added.map (stringify ∘ escrowPayload) := by
  have ran : watchedRace.run raceActions = some raceEnd := rfl
  have noBroadcasts : ∀ event, ServerAction.websocket (.broadcastEvent event) ∉ raceActions := by
    simp [raceActions]
  have stays : ∀ n < raceActions.length, ∀ state ∈ watchedRace.run (raceActions.take n),
      0 ∈ state.ws.connections.elements ∧ (state.ws.sockets 0).readyState = .opened := by
    decide
  exact ⟨ran, noBroadcasts, stays, by decide,
    connected_client_follows_escrow_log _ _ ran 0 noBroadcasts stays⟩

end Stellovault.Realtime
