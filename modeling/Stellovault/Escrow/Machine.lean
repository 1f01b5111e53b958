import Stellovault.Shared.Decimal

set_option autoImplicit false

/-!
# The escrow service as a machine of interleaved calls

One action runs one call up to its next await. `System.changes` is a ghost: the status changes
of every write.
-/

namespace Stellovault.EscrowService

inductive EscrowStatus where
  | pending
  | active
  | completed
  | disputed
  | expired
  deriving DecidableEq, Repr

/-- The enum's text. -/
def EscrowStatus.name : EscrowStatus → String
  | .pending => "PENDING"
  | .active => "ACTIVE"
  | .completed => "COMPLETED"
  | .disputed => "DISPUTED"
  | .expired => "EXPIRED"

def escrowStatuses : List EscrowStatus := [.pending, .active, .completed, .disputed, .expired]

def escrowAllowedTransitions : EscrowStatus → List EscrowStatus
  | .pending => [.pending, .active, .completed, .disputed, .expired]
  | .active => [.active, .completed, .disputed, .expired]
  | .completed => [.completed]
  | .disputed => [.disputed, .active, .completed, .expired]
  | .expired => [.expired]

def normalizeStatus (value : Option String) (fieldName : String) : Except AppError EscrowStatus :=
  match value.bind fun text => escrowStatuses.find? (·.name = toUpperCase (trim text)) with
  | some status => .ok status
  | none => .error (.validationError
      (fieldName ++ " must be one of: PENDING, ACTIVE, COMPLETED, DISPUTED, EXPIRED"))

structure Escrow where
  id : String
  buyerId : String
  sellerId : String
  amount : ℚ
  assetCode : String
  status : EscrowStatus
  stellarTxHash : Option String
  expiresAt : Nat
  /-- `DEFAULT CURRENT_TIMESTAMP`, in milliseconds. -/
  createdAt : Nat
  deriving DecidableEq

/-- `CreateEscrowRequest`; `amount` is `Number(value)`, `none` when it is not finite. -/
structure CreateEscrowRequest where
  buyerId : Option String
  sellerId : Option String
  amount : Option ℚ
  assetCode : Option String
  expiresAt : DateInput

structure EscrowEventPayload where
  escrowId : Option String
  status : Option String
  stellarTxHash : Option String
  deriving DecidableEq, Repr

inductive Event where
  | escrowCreated (escrowId buyerId sellerId : String)
  | escrowUpdated (escrowId : String) (status : EscrowStatus)
  deriving DecidableEq, Repr

/-- A write that changed the status of a row. -/
structure StatusChange where
  escrowId : String
  before : EscrowStatus
  after : EscrowStatus
  deriving DecidableEq, Repr

/-- Where a `processEscrowEvent` call stands. -/
inductive EventCall where
  /-- The payload is valid; `findUnique` comes next. -/
  | validated (escrowId : String) (status : EscrowStatus) (stellarTxHash : Option String)
  /-- The transition from the row read as `existing` passed; the conditional `updateMany` comes
  next. -/
  | checked (escrowId : String) (status : EscrowStatus) (stellarTxHash : Option String)
      (existing : Escrow) (allowed : status ∈ escrowAllowedTransitions existing.status)
  /-- The `updateMany` matched one row; the re-read comes next. -/
  | written (escrowId : String) (existing : Escrow)
  /-- The re-read returned `updated`; the broadcast comes next. -/
  | reread (existing : Escrow) (updated : Option Escrow)
  | returned (result : Except AppError Escrow)

/-- Where a tick of `timeoutDetector` stands. -/
inductive SweepCall where
  | selecting
  | updating (overdue : List String)
  | reselecting (overdue : List String)
  /-- The `findMany` of the expired rows returned `expired`; the broadcasts come next. -/
  | broadcasting (expired : List String)
  | finished
  deriving DecidableEq, Repr

structure System where
  /-- The ids of the `User` rows. -/
  users : List String
  escrows : List Escrow
  /-- `contracts.escrow`. -/
  escrowContractId : String
  now : Nat
  calls : List EventCall
  sweeps : List SweepCall
  events : List Event
  changes : List StatusChange

inductive Action where
  | createEscrow (payload : CreateEscrowRequest) (escrowId : String)
  | receiveEvent (payload : EscrowEventPayload)
  | resumeCall (call : Nat)
  | fireTimer
  | resumeSweep (sweep : Nat)
  | elapse (milliseconds : Nat)

def parsePositiveAmount (value : Option ℚ) (fieldName : String) : Except AppError ℚ :=
  parsePositive value fieldName

def parseDate (value : DateInput) (fieldName : String) : Except AppError Int :=
  parseDateField value fieldName

namespace System

variable (sys : System)

def findEscrow (escrowId : String) : Option Escrow :=
  sys.escrows.find? (·.id = escrowId)

/-- Rewrites every row in place; the record of changes takes each row whose status the rewrite
changes. -/
def rewriteRows (rewrite : Escrow → Escrow) : System :=
  { sys with
    escrows := sys.escrows.map rewrite
    changes := sys.changes ++ (sys.escrows.filter fun escrow =>
        (rewrite escrow).status ≠ escrow.status).map fun escrow =>
      ⟨escrow.id, escrow.status, (rewrite escrow).status⟩ }

/-- `escrow.updateMany`: the count of rows `selected` picks, and the store with `update`
applied to each of them. -/
def updateMany (selected : Escrow → Bool) (update : Escrow → Escrow) : Nat × System :=
  (sys.escrows.countP selected,
    sys.rewriteRows fun escrow => if selected escrow then update escrow else escrow)

def broadcast (event : Event) : System := { sys with events := sys.events ++ [event] }

/-- A `for` loop of broadcasts. -/
def broadcastAll (events : List Event) : System := { sys with events := sys.events ++ events }

def setCall (call : Nat) (phase : EventCall) : System := { sys with calls := sys.calls.set call phase }

def setSweep (sweep : Nat) (phase : SweepCall) : System :=
  { sys with sweeps := sys.sweeps.set sweep phase }

@[simp] theorem rewriteRows_calls (rewrite : Escrow → Escrow) :
    (sys.rewriteRows rewrite).calls = sys.calls := rfl

@[simp] theorem broadcast_escrows (event : Event) : (sys.broadcast event).escrows = sys.escrows := rfl

@[simp] theorem broadcast_changes (event : Event) : (sys.broadcast event).changes = sys.changes := rfl

@[simp] theorem broadcastAll_escrows (events : List Event) :
    (sys.broadcastAll events).escrows = sys.escrows := rfl

@[simp] theorem broadcastAll_changes (events : List Event) :
    (sys.broadcastAll events).changes = sys.changes := rfl

@[simp] theorem setCall_escrows (call : Nat) (phase : EventCall) :
    (sys.setCall call phase).escrows = sys.escrows := rfl

@[simp] theorem setCall_changes (call : Nat) (phase : EventCall) :
    (sys.setCall call phase).changes = sys.changes := rfl

@[simp] theorem setSweep_escrows (sweep : Nat) (phase : SweepCall) :
    (sys.setSweep sweep phase).escrows = sys.escrows := rfl

@[simp] theorem setSweep_changes (sweep : Nat) (phase : SweepCall) :
    (sys.setSweep sweep phase).changes = sys.changes := rfl

end System

def createEscrow (sys : System) (payload : CreateEscrowRequest) (escrowId : String) :
    Except AppError System := do
  let some buyerId := trimToNull payload.buyerId
    | throw (.validationError "buyerId is required")
  let some sellerId := trimToNull payload.sellerId
    | throw (.validationError "sellerId is required")
  throwIf (buyerId = sellerId) (.validationError "buyerId and sellerId must be different")
  let amount ← parsePositiveAmount payload.amount "amount"
  let expiresAt ← parseDate payload.expiresAt "expiresAt"
  throwIf (expiresAt ≤ sys.now) (.validationError "expiresAt must be in the future")
  textParameters [buyerId, sellerId]
  throwIf (¬ (buyerId ∈ sys.users ∧ sellerId ∈ sys.users))
    (.validationError "buyerId or sellerId does not exist")
  throwIf (trim sys.escrowContractId = "")
    (.internalError "Escrow contract ID not configured: contracts.escrow is empty")
  let assetCode := orDefault payload.assetCode "USDC"
  textParameters [assetCode]
  throwIf (sys.findEscrow escrowId).isSome (.store (.uniqueViolation "Escrow_pkey"))
  let stored ← (decimalColumn "amount" amount).mapError .store
  let escrow : Escrow :=
    ⟨escrowId, buyerId, sellerId, stored, assetCode, .pending, none, expiresAt.toNat, sys.now⟩
  return ({ sys with escrows := sys.escrows ++ [escrow] }.broadcast
    (.escrowCreated escrow.id escrow.buyerId escrow.sellerId))

/-- The synchronous start of `processEscrowEvent`. -/
def receiveEvent (payload : EscrowEventPayload) : EventCall :=
  match trimToNull payload.escrowId with
  | none => .returned (.error (.validationError "escrowId is required"))
  | some escrowId =>
    match normalizeStatus payload.status "status" with
    | .error error => .returned (.error error)
    | .ok status => .validated escrowId status (payload.stellarTxHash.filter (· ≠ ""))

/-- The `data` of the conditional update. -/
def applyEvent (status : EscrowStatus) (stellarTxHash : Option String) (escrow : Escrow) : Escrow :=
  { escrow with status := status, stellarTxHash := stellarTxHash.orElse fun _ => escrow.stellarTxHash }

/-- Runs a `processEscrowEvent` call up to its next await. -/
def resumeCall (sys : System) (call : Nat) : EventCall → Option System
  | .validated escrowId status stellarTxHash =>
    match textParameters [escrowId] with
    | .error error => some (sys.setCall call (.returned (.error error)))
    | .ok () =>
      match sys.findEscrow escrowId with
      | none => some (sys.setCall call (.returned (.error (.notFoundError "Escrow not found"))))
      | some existing =>
        if allowed : status ∈ escrowAllowedTransitions existing.status then
          some (sys.setCall call (.checked escrowId status stellarTxHash existing allowed))
        else
          some (sys.setCall call (.returned (.error (.validationError
            ("Illegal escrow status transition: " ++ existing.status.name ++ " -> " ++ status.name)))))
  | .checked escrowId status stellarTxHash existing _ =>
    match textParameters stellarTxHash.toList with
    | .error error => some (sys.setCall call (.returned (.error error)))
    | .ok () =>
      let updateResult := sys.updateMany
        (fun escrow => escrow.id = escrowId ∧ escrow.status = existing.status)
        (applyEvent status stellarTxHash)
      if updateResult.1 ≠ 1 then
        some (updateResult.2.setCall call (.returned (.error (.validationError
          "Escrow status changed concurrently. Please retry with latest state."))))
      else some (updateResult.2.setCall call (.written escrowId existing))
  | .written escrowId existing => some (sys.setCall call (.reread existing (sys.findEscrow escrowId)))
  | .reread _ none => some (sys.setCall call (.returned (.error (.notFoundError "Escrow not found"))))
  | .reread existing (some updated) =>
    let sys := if existing.status ≠ updated.status then
      sys.broadcast (.escrowUpdated updated.id updated.status) else sys
    some (sys.setCall call (.returned (.ok updated)))
  | .returned _ => none

/-- Runs a tick of `timeoutDetector` up to its next await. -/
def resumeSweep (sys : System) (sweep : Nat) : SweepCall → Option System
  | .selecting =>
    let overdue := (sys.escrows.filter fun escrow =>
      escrow.status = .active ∧ escrow.expiresAt < sys.now).map (·.id)
    if overdue = [] then some (sys.setSweep sweep .finished)
    else some (sys.setSweep sweep (.updating overdue))
  | .updating overdue =>
    let updateResult := sys.updateMany
      (fun escrow => escrow.status = .active ∧ escrow.id ∈ overdue)
      fun escrow => { escrow with status := .expired }
    some (updateResult.2.setSweep sweep (.reselecting overdue))
  | .reselecting overdue =>
    let expiredEscrows := sys.escrows.filter fun escrow =>
      escrow.id ∈ overdue ∧ escrow.status = .expired
    some (sys.setSweep sweep (.broadcasting (expiredEscrows.map (·.id))))
  | .broadcasting expired =>
    some ((sys.broadcastAll (expired.map fun id => .escrowUpdated id .expired)).setSweep sweep .finished)
  | .finished => none

def step (sys : System) : Action → Option System
  | .createEscrow payload escrowId =>
    match createEscrow sys payload escrowId with
    | .ok sys' => some sys'
    | .error _ => some sys
  | .receiveEvent payload => some { sys with calls := sys.calls ++ [receiveEvent payload] }
  | .resumeCall call => (sys.calls.get? call).bind (resumeCall sys call)
  | .fireTimer => some { sys with sweeps := sys.sweeps ++ [.selecting] }
  | .resumeSweep sweep => (sys.sweeps.get? sweep).bind (resumeSweep sys sweep)
  | .elapse milliseconds => some { sys with now := sys.now + milliseconds }

def run (sys : System) : List Action → Option System
  | [] => some sys
  | action :: rest => (step sys action).bind fun sys' => run sys' rest

end Stellovault.EscrowService
