import Stellovault.Realtime.Messages

set_option autoImplicit false

/-!
# The connections of the websocket service

The peers' events are actions; `broadcasts` is a ghost log of the payloads broadcast.
-/

namespace Stellovault.Realtime

/-- A `Set` of sockets: its elements in insertion order, each once. -/
structure SocketSet where
  elements : List Nat
  nodup : elements.Nodup

namespace SocketSet

def empty : SocketSet := ⟨[], List.nodup_nil⟩

/-- `Set.prototype.add`: a new element goes last, and one already there keeps its place. -/
def add (set : SocketSet) (ws : Nat) : SocketSet :=
  if present : ws ∈ set.elements then set else ⟨set.elements.concat ws, set.nodup.concat present⟩

/-- `Set.prototype.delete`. -/
def delete (set : SocketSet) (ws : Nat) : SocketSet := ⟨set.elements.erase ws, set.nodup.erase ws⟩

@[simp] theorem not_mem_empty (w : Nat) : w ∉ empty.elements := List.not_mem_nil w

@[simp] theorem mem_add (set : SocketSet) (ws w : Nat) :
    w ∈ (set.add ws).elements ↔ w = ws ∨ w ∈ set.elements := by
  unfold add
  split
  next present => exact ⟨Or.inr, fun | .inl same => same ▸ present | .inr member => member⟩
  next => simp [or_comm]

@[simp] theorem mem_delete (set : SocketSet) (ws w : Nat) :
    w ∈ (set.delete ws).elements ↔ w ≠ ws ∧ w ∈ set.elements :=
  set.nodup.mem_erase_iff

end SocketSet

/-- `WebSocket.readyState` of a socket the server accepted, which is never `CONNECTING`; `opened`
is `OPEN`. -/
inductive ReadyState where
  | opened
  | closing
  | closed
  deriving DecidableEq, Repr

/-- `close()` and `terminate()`: the socket is `CLOSING` until its `close` event, and a closed
socket stays closed. -/
def ReadyState.startClosing : ReadyState → ReadyState
  | .closed => .closed
  | _ => .closing

structure Socket where
  readyState : ReadyState
  /-- `ExtendedWebSocket.isAlive`. -/
  isAlive : Bool
  /-- The messages `send` wrote on the socket, oldest first. -/
  sent : List String

namespace Socket

/-- `isAlive = true`, in `addConnection` and in the `pong` listener. -/
def markAlive (socket : Socket) : Socket := { socket with isAlive := true }

/-- `close()`, or `terminate()`. -/
def close (socket : Socket) : Socket := { socket with readyState := socket.readyState.startClosing }

/-- One socket of the `pingInterval` callback: an unanswered socket is terminated; the others are
marked and pinged, and the pong is an action of the peer. -/
def heartbeat (socket : Socket) : Socket :=
  if !socket.isAlive then socket.close else { socket with isAlive := false }

/-- `if (ws.readyState === WebSocket.OPEN) ws.send(message)`. -/
def sendIfOpen (message : String) (socket : Socket) : Socket :=
  if socket.readyState = .opened then { socket with sent := socket.sent ++ [message] } else socket

@[simp] theorem markAlive_sent (socket : Socket) : socket.markAlive.sent = socket.sent := rfl

@[simp] theorem close_sent (socket : Socket) : socket.close.sent = socket.sent := rfl

@[simp] theorem heartbeat_sent (socket : Socket) : socket.heartbeat.sent = socket.sent := by
  unfold heartbeat; split <;> rfl

end Socket

/-- Applies `change` to the socket `ws`. -/
def updateSocket (change : Socket → Socket) (sockets : Nat → Socket) (ws : Nat) : Nat → Socket :=
  Function.update sockets ws (change (sockets ws))

@[simp] theorem updateSocket_apply (change : Socket → Socket) (sockets : Nat → Socket) (ws w : Nat) :
    updateSocket change sockets ws w = if w = ws then change (sockets w) else sockets w := by
  by_cases same : w = ws
  · subst same; simp [updateSocket]
  · simp [updateSocket, same]

theorem foldl_updateSocket (change : Socket → Socket) (sockets : Nat → Socket) {visited : List Nat}
    (nodup : visited.Nodup) (w : Nat) :
    visited.foldl (updateSocket change) sockets w = if w ∈ visited then change (sockets w) else sockets w := by
  induction visited generalizing sockets with
  | nil => rfl
  | cons ws rest ih =>
    obtain ⟨fresh, restNodup⟩ := List.nodup_cons.mp nodup
    rw [List.foldl_cons, ih _ restNodup]
    by_cases same : w = ws
    · subst same; simp [fresh]
    · simp [same]

structure WsState where
  connections : SocketSet
  /-- Whether `pingInterval` still fires: `cleanup` clears it. -/
  pinging : Bool
  sockets : Nat → Socket
  /-- The payloads `broadcastEvent` was called with, oldest first. -/
  broadcasts : List WebSocketEvent

namespace WsState

/-- The constructor: no connection, and `pingInterval` set. Every socket the server will accept is
open and has been sent nothing. -/
def new : WsState := ⟨.empty, true, fun _ => ⟨.opened, false, []⟩, []⟩

def addConnection (st : WsState) (ws : Nat) : WsState :=
  { st with connections := st.connections.add ws, sockets := updateSocket Socket.markAlive st.sockets ws }

/-- The `pong` listener. -/
def pong (st : WsState) (ws : Nat) : WsState :=
  { st with sockets := updateSocket Socket.markAlive st.sockets ws }

/-- The peer starts the closing handshake. -/
def closing (st : WsState) (ws : Nat) : WsState :=
  { st with sockets := updateSocket Socket.close st.sockets ws }

/-- The socket closes, and the `close` listener deletes it. -/
def closed (st : WsState) (ws : Nat) : WsState :=
  { st with connections := st.connections.delete ws,
            sockets := updateSocket (fun socket => { socket with readyState := .closed }) st.sockets ws }

/-- The socket fails and the library closes it; the `error` listener deletes it. -/
def errored (st : WsState) (ws : Nat) : WsState :=
  { st with connections := st.connections.delete ws, sockets := updateSocket Socket.close st.sockets ws }

/-- The `forEach` body of the `pingInterval` callback. -/
def heartbeat (st : WsState) (ws : Nat) : WsState :=
  if !(st.sockets ws).isAlive then
    -- `ws.terminate()` and `this.connections.delete(ws)`.
    { st with connections := st.connections.delete ws, sockets := updateSocket Socket.close st.sockets ws }
  else
    -- `ws.isAlive = false` and `ws.ping()`.
    { st with sockets := updateSocket (fun socket => { socket with isAlive := false }) st.sockets ws }

/-- The `pingInterval` callback, until `cleanup` clears it. `forEach` visits every socket of the set
as it stood, each once, since the body deletes only the socket it visits. -/
def tick (st : WsState) : WsState :=
  if st.pinging then st.connections.elements.foldl heartbeat st else st

def broadcastEvent (st : WsState) (event : WebSocketEvent) : WsState :=
  { st with sockets := st.connections.elements.foldl (updateSocket (Socket.sendIfOpen (stringify event)))
              st.sockets,
            broadcasts := st.broadcasts ++ [event] }

def getConnectionCount (st : WsState) : Nat := st.connections.elements.length

def cleanup (st : WsState) : WsState :=
  { st with connections := .empty, pinging := false,
            sockets := st.connections.elements.foldl (updateSocket Socket.close) st.sockets }

/-- `WebSocketService.broadcastEscrowCreated`. -/
def broadcastEscrowCreated (st : WsState) (escrowId buyerId sellerId : String) : WsState :=
  st.broadcastEvent (.escrowCreated escrowId buyerId sellerId)

/-- `WebSocketService.broadcastEscrowUpdated`. -/
def broadcastEscrowUpdated (st : WsState) (escrowId status : String) : WsState :=
  st.broadcastEvent (.escrowUpdated escrowId status)

/-- `WebSocketService.broadcastLoanUpdated`. -/
def broadcastLoanUpdated (st : WsState) (loanId status : String) : WsState :=
  st.broadcastEvent (.loanUpdated loanId status)

/-- `WebSocketService.broadcastGovernanceVoteCast`. -/
def broadcastGovernanceVoteCast (st : WsState) (proposalId : String) (newTally : Nat) : WsState :=
  st.broadcastEvent (.governanceVoteCast proposalId newTally)

/-- A call of the service, or an event of a socket. -/
inductive Action where
  | addConnection (ws : Nat)
  | pong (ws : Nat)
  | closing (ws : Nat)
  | closed (ws : Nat)
  | errored (ws : Nat)
  | tick
  | broadcastEvent (event : WebSocketEvent)
  | cleanup
  deriving DecidableEq

def step (st : WsState) : Action → WsState
  | .addConnection ws => st.addConnection ws
  | .pong ws => st.pong ws
  | .closing ws => st.closing ws
  | .closed ws => st.closed ws
  | .errored ws => st.errored ws
  | .tick => st.tick
  | .broadcastEvent event => st.broadcastEvent event
  | .cleanup => st.cleanup

def run (st : WsState) (actions : List Action) : WsState := actions.foldl step st

/-- The payloads the actions broadcast, in order. -/
def broadcastsOf (actions : List Action) : List WebSocketEvent :=
  actions.filterMap fun
    | .broadcastEvent event => some event
    | _ => none

theorem broadcastsOf_cons (a : Action) (rest : List Action) :
    broadcastsOf (a :: rest) = broadcastsOf [a] ++ broadcastsOf rest := by
  cases a <;> rfl

/-! ## The `forEach` loops -/

theorem heartbeat_sockets (st : WsState) (ws : Nat) :
    (st.heartbeat ws).sockets = updateSocket Socket.heartbeat st.sockets ws := by
  unfold heartbeat updateSocket Socket.heartbeat
  split <;> simp_all

theorem foldl_heartbeat_sockets (visited : List Nat) (st : WsState) :
    (visited.foldl heartbeat st).sockets = visited.foldl (updateSocket Socket.heartbeat) st.sockets := by
  induction visited generalizing st with
  | nil => rfl
  | cons ws rest ih => rw [List.foldl_cons, List.foldl_cons, ih, heartbeat_sockets]

theorem foldl_heartbeat_keeps (visited : List Nat) (st : WsState) :
    (visited.foldl heartbeat st).pinging = st.pinging ∧
      (visited.foldl heartbeat st).broadcasts = st.broadcasts := by
  induction visited generalizing st with
  | nil => exact ⟨rfl, rfl⟩
  | cons ws rest ih =>
    rw [List.foldl_cons, (ih _).1, (ih _).2]
    unfold heartbeat
    split <;> exact ⟨rfl, rfl⟩

theorem mem_foldl_heartbeat {visited : List Nat} (nodup : visited.Nodup) (st : WsState) (w : Nat) :
    w ∈ (visited.foldl heartbeat st).connections.elements ↔
      w ∈ st.connections.elements ∧ (w ∈ visited → (st.sockets w).isAlive) := by
  induction visited generalizing st with
  | nil => simp
  | cons ws rest ih =>
    obtain ⟨fresh, restNodup⟩ := List.nodup_cons.mp nodup
    rw [List.foldl_cons, ih restNodup]
    by_cases same : w = ws
    · subst same
      by_cases alive : (st.sockets w).isAlive <;> simp [heartbeat, alive, fresh]
    · by_cases alive : (st.sockets ws).isAlive <;> simp [heartbeat, alive, same]

theorem tick_sockets (st : WsState) (w : Nat) :
    st.tick.sockets w =
      if st.pinging ∧ w ∈ st.connections.elements then (st.sockets w).heartbeat else st.sockets w := by
  unfold tick
  by_cases pinging : st.pinging
  · simp only [pinging, if_true, true_and, foldl_heartbeat_sockets,
      foldl_updateSocket _ _ st.connections.nodup]
  · simp [pinging]

theorem mem_tick (st : WsState) (w : Nat) :
    w ∈ st.tick.connections.elements ↔
      w ∈ st.connections.elements ∧ (st.pinging → (st.sockets w).isAlive) := by
  unfold tick
  by_cases pinging : st.pinging
  · simp only [pinging, if_true, mem_foldl_heartbeat st.connections.nodup, forall_const]
    exact ⟨fun ⟨member, alive⟩ => ⟨member, alive member⟩, fun ⟨member, alive⟩ => ⟨member, fun _ => alive⟩⟩
  · simp [pinging]

theorem tick_keeps (st : WsState) : st.tick.pinging = st.pinging ∧ st.tick.broadcasts = st.broadcasts := by
  unfold tick
  split
  · exact foldl_heartbeat_keeps _ _
  · exact ⟨rfl, rfl⟩

theorem broadcastEvent_sockets (st : WsState) (event : WebSocketEvent) (w : Nat) :
    (st.broadcastEvent event).sockets w =
      if w ∈ st.connections.elements then (st.sockets w).sendIfOpen (stringify event) else st.sockets w :=
  foldl_updateSocket _ _ st.connections.nodup w

theorem cleanup_sockets (st : WsState) (w : Nat) :
    st.cleanup.sockets w = if w ∈ st.connections.elements then (st.sockets w).close else st.sockets w :=
  foldl_updateSocket _ _ st.connections.nodup w

/-! ## What one step does -/

@[simp] theorem step_broadcasts (st : WsState) (a : Action) :
    (st.step a).broadcasts = st.broadcasts ++ broadcastsOf [a] := by
  cases a <;> simp [step, addConnection, pong, closing, closed, errored, broadcastEvent, cleanup,
    broadcastsOf, (tick_keeps st).2]

theorem step_sent (st : WsState) (a : Action) (w : Nat) :
    ((st.step a).sockets w).sent = (st.sockets w).sent ++
      if w ∈ st.connections.elements ∧ (st.sockets w).readyState = .opened then
        (broadcastsOf [a]).map stringify
      else [] := by
  cases a with
  | broadcastEvent event =>
    rw [step, broadcastEvent_sockets, show broadcastsOf [.broadcastEvent event] = [event] from rfl]
    unfold Socket.sendIfOpen
    by_cases member : w ∈ st.connections.elements <;> by_cases opened : (st.sockets w).readyState = .opened <;>
      simp [member, opened]
  | tick =>
    rw [step, tick_sockets, show broadcastsOf [.tick] = [] from rfl]
    split <;> simp
  | cleanup =>
    rw [step, cleanup_sockets, show broadcastsOf [.cleanup] = [] from rfl]
    split <;> simp
  | _ =>
    simp only [broadcastsOf, List.filterMap_cons, List.filterMap_nil, List.map_nil, ite_self, List.append_nil]
    by_cases same : w = ‹Nat› <;>
      simp only [step, addConnection, pong, closing, closed, errored, updateSocket_apply, same, if_true, if_false,
        Socket.markAlive_sent, Socket.close_sent]

theorem mem_step {st : WsState} {a : Action} {w : Nat} (member : w ∈ (st.step a).connections.elements) :
    w ∈ st.connections.elements ∨ a = .addConnection w := by
  cases a with
  | addConnection ws => by_cases same : w = ws <;> simp_all [step, addConnection]
  | tick => exact .inl ((mem_tick st w).mp member).1
  | cleanup => simp [step, cleanup] at member
  | _ => simp_all [step, pong, closing, closed, errored, broadcastEvent]

/-! ## Delivery -/

/-- Every socket has been sent the messages of some of the broadcasts, in the order of the
broadcasts. -/
def Delivered (st : WsState) : Prop :=
  ∀ w, ∃ received : List WebSocketEvent, List.Sublist received st.broadcasts ∧ (st.sockets w).sent = received.map stringify

theorem step_delivered {st : WsState} (delivered : Delivered st) (a : Action) : Delivered (st.step a) := by
  intro w
  obtain ⟨received, sublist, sent⟩ := delivered w
  rw [step_sent, step_broadcasts, sent]
  split
  · exact ⟨received ++ broadcastsOf [a], sublist.append (List.Sublist.refl _), by simp⟩
  · exact ⟨received, sublist.trans (List.sublist_append_left _ _), by simp⟩

theorem run_delivered {st : WsState} (delivered : Delivered st) (actions : List Action) :
    Delivered (st.run actions) := by
  induction actions generalizing st with
  | nil => exact delivered
  | cons a rest ih => exact ih (step_delivered delivered a)

theorem new_delivered : Delivered new := fun _ => ⟨[], List.nil_sublist _, rfl⟩

theorem client_messages_are_broadcasts (actions : List Action) (ws : Nat) :
    ∃ received : List WebSocketEvent, List.Sublist received (new.run actions).broadcasts ∧
      ((new.run actions).sockets ws).sent = received.map stringify :=
  run_delivered new_delivered actions ws

theorem open_connection_receives_every_broadcast (st : WsState) (actions : List Action) (ws : Nat)
    (stays : ∀ n < actions.length, ws ∈ (st.run (actions.take n)).connections.elements ∧
      ((st.run (actions.take n)).sockets ws).readyState = .opened) :
    ((st.run actions).sockets ws).sent = (st.sockets ws).sent ++ (broadcastsOf actions).map stringify := by
  induction actions generalizing st with
  | nil => simp [run, broadcastsOf]
  | cons a rest ih =>
    have first : ws ∈ st.connections.elements ∧ (st.sockets ws).readyState = .opened := stays 0 (by simp)
    have later : ∀ n < rest.length, ws ∈ ((st.step a).run (rest.take n)).connections.elements ∧
        (((st.step a).run (rest.take n)).sockets ws).readyState = .opened :=
      fun n short => stays (n + 1) (by simpa using short)
    rw [run, List.foldl_cons, ← run, ih _ later, step_sent, if_pos first, broadcastsOf_cons a rest, List.map_append,
      List.append_assoc]

theorem unregistered_socket_sent_nothing (st : WsState) (actions : List Action) (ws : Nat)
    (absent : ws ∉ st.connections.elements) (notAdded : .addConnection ws ∉ actions) :
    ((st.run actions).sockets ws).sent = (st.sockets ws).sent := by
  induction actions generalizing st with
  | nil => rfl
  | cons a rest ih =>
    have other : a ≠ .addConnection ws := fun same => notAdded (same ▸ List.mem_cons_self _ _)
    have stillAbsent : ws ∉ (st.step a).connections.elements := fun member =>
      (mem_step member).elim absent other
    rw [run, List.foldl_cons, ← run, ih _ stillAbsent fun member => notAdded (List.mem_cons_of_mem _ member),
      step_sent, if_neg fun registered => absent registered.1, List.append_nil]

/-- Open from the start, and sent two broadcasts with a tick and a pong between them. -/
def answeringClient : List Action :=
  [.broadcastEvent (.governanceVoteCast "p" 1), .tick, .pong 0, .broadcastEvent (.loanUpdated "l" "ACTIVE")]

theorem answering_client_receives_both :
    (∀ n < answeringClient.length, 0 ∈ ((new.addConnection 0).run (answeringClient.take n)).connections.elements ∧
      (((new.addConnection 0).run (answeringClient.take n)).sockets 0).readyState = .opened) ∧
    (((new.addConnection 0).run answeringClient).sockets 0).sent =
      ((new.addConnection 0).sockets 0).sent ++ (broadcastsOf answeringClient).map stringify :=
  ⟨by decide, open_connection_receives_every_broadcast _ _ _ (by decide)⟩

theorem unregistered_socket_after_others :
    0 ∉ new.connections.elements ∧ Action.addConnection 0 ∉ [.addConnection 1, .broadcastEvent (.governanceVoteCast "p" 1)] ∧
    ((new.run [.addConnection 1, .broadcastEvent (.governanceVoteCast "p" 1)]).sockets 0).sent = (new.sockets 0).sent :=
  ⟨by decide, by decide, unregistered_socket_sent_nothing _ _ _ (by decide) (by decide)⟩

/-! ## The heartbeat -/

/-- How far the heartbeat is from dropping a socket: two ticks while it is in the set and marked
alive, one after an unanswered ping, none once it is out of the set. -/
def stage (st : WsState) (ws : Nat) : Nat :=
  if ws ∈ st.connections.elements then (if (st.sockets ws).isAlive then 2 else 1) else 0

theorem stage_le_two (st : WsState) (ws : Nat) : stage st ws ≤ 2 := by
  unfold stage; split_ifs <;> omega

theorem step_pinging (st : WsState) (a : Action) : (st.step a).pinging = (st.pinging && a != .cleanup) := by
  cases a <;> simp [step, addConnection, pong, closing, closed, errored, broadcastEvent, cleanup,
    (tick_keeps st).1]

theorem step_isAlive (st : WsState) {a : Action} {ws : Nat}
    (other : a ≠ .tick ∧ a ≠ .pong ws ∧ a ≠ .addConnection ws) :
    ((st.step a).sockets ws).isAlive = (st.sockets ws).isAlive := by
  cases a with
  | tick => exact absurd rfl other.1
  | broadcastEvent event =>
    rw [step, broadcastEvent_sockets]
    split
    · unfold Socket.sendIfOpen; split <;> rfl
    · rfl
  | cleanup => rw [step, cleanup_sockets]; split <;> rfl
  | pong w => simp [step, pong, Ne.symm (other.2.1 <| congrArg Action.pong ·)]
  | addConnection w => simp [step, addConnection, Ne.symm (other.2.2 <| congrArg Action.addConnection ·)]
  | _ => by_cases same : ws = ‹Nat› <;> simp [step, closing, closed, errored, same, Socket.close]

theorem stage_tick {st : WsState} {ws : Nat} (watched : st.pinging = true ∨ ws ∉ st.connections.elements) :
    stage st.tick ws ≤ stage st ws - 1 := by
  unfold stage
  rw [tick_sockets]
  by_cases member : ws ∈ st.connections.elements
  · have pinging : st.pinging = true := watched.resolve_right (not_not.mpr member)
    by_cases alive : (st.sockets ws).isAlive <;> simp [mem_tick, member, pinging, alive, Socket.heartbeat]
  · simp [mem_tick, member]

theorem stage_step_le (st : WsState) {a : Action} {ws : Nat}
    (other : a ≠ .tick ∧ a ≠ .pong ws ∧ a ≠ .addConnection ws) : stage (st.step a) ws ≤ stage st ws := by
  unfold stage
  by_cases after : ws ∈ (st.step a).connections.elements
  · have before : ws ∈ st.connections.elements := (mem_step after).resolve_right other.2.2
    rw [if_pos after, if_pos before, step_isAlive st other]
  · rw [if_neg after]
    exact Nat.zero_le _

theorem watched_step {st : WsState} {ws : Nat} (watched : st.pinging = true ∨ ws ∉ st.connections.elements)
    {a : Action} (notAdded : a ≠ .addConnection ws) :
    (st.step a).pinging = true ∨ ws ∉ (st.step a).connections.elements := by
  by_cases cleared : a = .cleanup
  · subst cleared
    exact .inr (by simp [step, cleanup])
  · rw [step_pinging]
    exact watched.imp (fun pinging => by simp [pinging, cleared])
      fun absent member => absent ((mem_step member).resolve_right notAdded)

theorem run_stage {st : WsState} {ws : Nat} (watched : st.pinging = true ∨ ws ∉ st.connections.elements)
    (actions : List Action) (quiet : ∀ a ∈ actions, a ≠ .pong ws ∧ a ≠ .addConnection ws) :
    stage (st.run actions) ws ≤ stage st ws - actions.count .tick := by
  induction actions generalizing st with
  | nil => simp [run]
  | cons a rest ih =>
    obtain ⟨notPong, notAdded⟩ := quiet a (List.mem_cons_self _ _)
    have later := ih (watched_step watched notAdded) fun b member => quiet b (List.mem_cons_of_mem _ member)
    rw [run, List.foldl_cons, ← run]
    by_cases isTick : a = .tick
    · subst isTick
      have lowered := stage_tick watched
      rw [List.count_cons_self]
      exact le_trans later (by rw [step]; omega)
    · have kept := stage_step_le st ⟨isTick, notPong, notAdded⟩
      rw [List.count_cons_of_ne (Ne.symm isTick)]
      omega

theorem unanswered_socket_dropped (st : WsState) (actions : List Action) (ws : Nat) (running : st.pinging = true)
    (quiet : ∀ a ∈ actions, a ≠ .pong ws ∧ a ≠ .addConnection ws) (twoTicks : 2 ≤ actions.count .tick) :
    ws ∉ (st.run actions).connections.elements := by
  intro member
  have bound := run_stage (.inl running) actions quiet
  have atMostTwo := stage_le_two st ws
  have still : 1 ≤ stage (st.run actions) ws := by
    unfold stage; rw [if_pos member]; split <;> omega
  omega

theorem silent_client_dropped :
    (new.addConnection 0).pinging = true ∧
      (∀ a ∈ [Action.tick, .pong 1, .tick], a ≠ .pong 0 ∧ a ≠ .addConnection 0) ∧
      2 ≤ [Action.tick, .pong 1, .tick].count .tick ∧
      0 ∉ ((new.addConnection 0).run [.tick, .pong 1, .tick]).connections.elements :=
  ⟨rfl, by decide, by decide, unanswered_socket_dropped _ _ _ rfl (by decide) (by decide)⟩

theorem mem_step_of_stopped {st : WsState} {ws : Nat} (stopped : st.pinging = false)
    (member : ws ∈ st.connections.elements) {a : Action} (kept : a ≠ .closed ws ∧ a ≠ .errored ws ∧ a ≠ .cleanup) :
    ws ∈ (st.step a).connections.elements := by
  cases a with
  | tick => exact (mem_tick st ws).mpr ⟨member, by simp [stopped]⟩
  | cleanup => exact absurd rfl kept.2.2
  | closed w => simpa [step, closed, member] using Ne.symm (kept.1 <| congrArg Action.closed ·)
  | errored w => simpa [step, errored, member] using Ne.symm (kept.2.1 <| congrArg Action.errored ·)
  | _ => simp [step, addConnection, pong, closing, broadcastEvent, member]

theorem registered_after_cleanup_kept (st : WsState) (actions : List Action) (ws : Nat)
    (stopped : st.pinging = false) (registered : ws ∈ st.connections.elements)
    (kept : ∀ a ∈ actions, a ≠ .closed ws ∧ a ≠ .errored ws ∧ a ≠ .cleanup) :
    ws ∈ (st.run actions).connections.elements := by
  induction actions generalizing st with
  | nil => exact registered
  | cons a rest ih =>
    have stillStopped : (st.step a).pinging = false := by simp [step_pinging, stopped]
    exact ih _ stillStopped (mem_step_of_stopped stopped registered (kept a (List.mem_cons_self _ _)))
      fun b member => kept b (List.mem_cons_of_mem _ member)

theorem reconnected_after_cleanup_kept :
    (new.cleanup.addConnection 0).pinging = false ∧ 0 ∈ (new.cleanup.addConnection 0).connections.elements ∧
      (∀ a ∈ [Action.tick, .tick, .tick], a ≠ .closed 0 ∧ a ≠ .errored 0 ∧ a ≠ .cleanup) ∧
      0 ∈ ((new.cleanup.addConnection 0).run [.tick, .tick, .tick]).connections.elements :=
  ⟨rfl, by decide, by decide, registered_after_cleanup_kept _ _ _ rfl (by decide) (by decide)⟩

end WsState

end Stellovault.Realtime
