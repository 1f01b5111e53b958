import Mathlib.Data.List.Nodup
import Stellovault.Shared.Runtime

set_option autoImplicit false

/-!
# Votes on governance proposals

`castVote` is not a transaction: each of its queries is an await, and calls in flight interleave
there. A call is a phase in `System.calls`, and one action runs one call up to its next await. No
unique index over `(proposalId, voterId)` is declared for the `Vote` table it writes.
-/

namespace Stellovault.GovernanceService

def validVoteValues : List String := ["FOR", "AGAINST", "ABSTAIN"]

structure Proposal where
  id : String
  title : String
  description : String
  type : String
  status : String
  expiresAt : Nat
  createdAt : Nat
  deriving DecidableEq

structure Vote where
  id : Nat
  proposalId : String
  voterId : String
  vote : String
  deriving DecidableEq

structure Store where
  proposals : List Proposal
  votes : List Vote
  /-- The id the next created vote gets. -/
  nextVoteId : Nat
  deriving DecidableEq

structure CreateProposalRequest where
  title : Option String
  description : Option String
  type : Option String
  expiresAt : DateInput

structure CastVoteRequest where
  proposalId : Option String
  voterId : Option String
  vote : Option String

/-- `GovernanceProposal`: a proposal with the tally of its votes. -/
structure GovernanceProposal where
  id : String
  title : String
  description : String
  type : String
  status : String
  expiresAt : Nat
  createdAt : Nat
  forVotes : Nat
  againstVotes : Nat
  abstainVotes : Nat
  totalVotes : Nat
  deriving DecidableEq

inductive Event where
  | governanceVoteCast (proposalId : String) (newTally : Nat)
  deriving DecidableEq

/-- Where a `castVote` call stands. -/
inductive VoteCall where
  /-- The payload is valid; `proposal.findUnique` comes next. -/
  | validated (proposalId voterId vote : String)
  /-- The proposal is open for votes; `vote.findFirst` comes next. -/
  | checked (proposalId voterId vote : String)
  /-- `findFirst` returned `existing`; the update or the create comes next. -/
  | found (proposalId voterId vote : String) (existing : Option Vote)
  /-- The vote is written; `getProposal` comes next. -/
  | written (proposalId : String)
  /-- `getProposal` returned `updated`; the broadcast comes next. -/
  | fetched (proposalId : String) (updated : Option GovernanceProposal)
  | returned (result : Except AppError Unit)
  deriving DecidableEq

def VoteCall.inFlight : VoteCall → Bool
  | .returned _ => false
  | _ => true

structure System where
  store : Store
  now : Nat
  calls : List VoteCall
  events : List Event
  deriving DecidableEq

inductive Action where
  | createProposal (payload : CreateProposalRequest) (proposalId : String)
  | castVote (payload : CastVoteRequest)
  | resumeCall (call : Nat)
  | elapse (milliseconds : Nat)

def parseVote (value : Option String) (fieldName : String) : Except AppError String :=
  match value.map fun text => toUpperCase (trim text) with
  | some vote => if vote = "" ∨ vote ∉ validVoteValues then
      .error (.validationError (fieldName ++ " must be one of: FOR, AGAINST, ABSTAIN"))
    else .ok vote
  | none => .error (.validationError (fieldName ++ " must be one of: FOR, AGAINST, ABSTAIN"))

def parseDate (value : DateInput) (fieldName : String) : Except AppError Int :=
  parseDateField value fieldName

namespace Store

variable (store : Store)

def findProposal (proposalId : String) : Option Proposal := store.proposals.find? (·.id = proposalId)

/-- `vote.findFirst({ where: { proposalId, voterId } })`. -/
def findVote (proposalId voterId : String) : Option Vote :=
  store.votes.find? fun row => row.proposalId = proposalId ∧ row.voterId = voterId

/-- The votes `include: { votes: true }` attaches to a proposal. -/
def votesOf (proposalId : String) : List Vote := store.votes.filter (·.proposalId = proposalId)

/-- `vote.update({ where: { id }, data: { vote } })`. -/
def updateVote (voteId : Nat) (vote : String) : Except StoreError Store :=
  if store.votes.any (·.id = voteId) then
    .ok { store with votes := store.votes.map fun row => if row.id = voteId then { row with vote := vote } else row }
  else .error (.recordNotFound "Vote")

/-- `vote.create`. -/
def createVote (proposalId voterId vote : String) : Store :=
  { store with
    votes := store.votes ++ [⟨store.nextVoteId, proposalId, voterId, vote⟩]
    nextVoteId := store.nextVoteId + 1 }

end Store

def summarize (proposal : Proposal) (votes : List Vote) : GovernanceProposal :=
  let forVotes := (votes.filter (·.vote = "FOR")).length
  let againstVotes := (votes.filter (·.vote = "AGAINST")).length
  let abstainVotes := (votes.filter (·.vote = "ABSTAIN")).length
  ⟨proposal.id, proposal.title, proposal.description, proposal.type, proposal.status,
    proposal.expiresAt, proposal.createdAt, forVotes, againstVotes, abstainVotes,
    forVotes + againstVotes + abstainVotes⟩

def getProposal (store : Store) (proposalId : String) : Option GovernanceProposal :=
  (store.findProposal proposalId).map fun proposal => summarize proposal (store.votesOf proposal.id)

/-- `listProposals`, in the order of the table: `orderBy: { createdAt: "desc" }` only arranges
the summaries. -/
def listProposals (store : Store) : List GovernanceProposal :=
  store.proposals.map fun proposal => summarize proposal (store.votesOf proposal.id)

def createProposal (sys : System) (payload : CreateProposalRequest) (proposalId : String) :
    Except AppError System := do
  let some title := trimToNull payload.title
    | throw (.validationError "title is required")
  let some description := trimToNull payload.description
    | throw (.validationError "description is required")
  let type := (trimToNull payload.type).getD "GENERAL"
  let expiresAt ← parseDate payload.expiresAt "expiresAt"
  throwIf (expiresAt ≤ sys.now) (.validationError "expiresAt must be in the future")
  textParameters [title, description, type]
  throwIf (sys.store.findProposal proposalId).isSome (.store (.uniqueViolation "Proposal_pkey"))
  return { sys with store := { sys.store with proposals := sys.store.proposals ++
    [⟨proposalId, title, description, type, "ACTIVE", expiresAt.toNat, sys.now⟩] } }

/-- The synchronous start of `castVote`: the vote is parsed before the ids are checked. -/
def receiveVote (payload : CastVoteRequest) : VoteCall :=
  match parseVote payload.vote "vote" with
  | .error error => .returned (.error error)
  | .ok vote =>
    match trimToNull payload.proposalId, trimToNull payload.voterId with
    | none, _ => .returned (.error (.validationError "proposalId is required"))
    | some _, none => .returned (.error (.validationError "voterId is required"))
    | some proposalId, some voterId => .validated proposalId voterId vote

def setCall (sys : System) (call : Nat) (phase : VoteCall) : System :=
  { sys with calls := sys.calls.set call phase }

/-- Runs a `castVote` call up to its next await. -/
def resumeCall (sys : System) (call : Nat) : VoteCall → Option System
  | .validated proposalId voterId vote =>
    match textParameters [proposalId] with
    | .error error => some (setCall sys call (.returned (.error error)))
    | .ok () =>
      match sys.store.findProposal proposalId with
      | none => some (setCall sys call (.returned (.error (.notFoundError "Proposal not found"))))
      | some proposal =>
        if proposal.status ≠ "ACTIVE" then
          some (setCall sys call (.returned (.error (.validationError
            "Voting is not active for this proposal"))))
        else if proposal.expiresAt ≤ sys.now then
          some (setCall sys call (.returned (.error (.validationError
            "Voting period has expired for this proposal"))))
        else some (setCall sys call (.checked proposalId voterId vote))
  | .checked proposalId voterId vote =>
    match textParameters [voterId] with
    | .error error => some (setCall sys call (.returned (.error error)))
    | .ok () =>
      some (setCall sys call (.found proposalId voterId vote (sys.store.findVote proposalId voterId)))
  | .found proposalId _ vote (some existing) =>
    match sys.store.updateVote existing.id vote with
    | .ok store => some (setCall { sys with store := store } call (.written proposalId))
    | .error error => some (setCall sys call (.returned (.error (.store error))))
  | .found proposalId voterId vote none =>
    some (setCall { sys with store := sys.store.createVote proposalId voterId vote } call
      (.written proposalId))
  | .written proposalId => some (setCall sys call (.fetched proposalId (getProposal sys.store proposalId)))
  | .fetched proposalId (some updated) =>
    some (setCall { sys with events := sys.events ++ [.governanceVoteCast proposalId updated.totalVotes] }
      call (.returned (.ok ())))
  | .fetched _ none => some (setCall sys call (.returned (.ok ())))
  | .returned _ => none

def step (sys : System) : Action → Option System
  | .createProposal payload proposalId =>
    match createProposal sys payload proposalId with
    | .ok sys' => some sys'
    | .error _ => some sys
  | .castVote payload => some { sys with calls := sys.calls ++ [receiveVote payload] }
  | .resumeCall call => sys.calls[call]?.bind (resumeCall sys call)
  | .elapse milliseconds => some { sys with now := sys.now + milliseconds }

def run (sys : System) : List Action → Option System
  | [] => some sys
  | action :: rest => (step sys action).bind fun sys' => run sys' rest

/-- At most one vote row for each voter on each proposal. -/
def UniqueVotes (store : Store) : Prop :=
  ∀ proposalId, ((store.votesOf proposalId).map (·.voterId)).Nodup

/-- A new call starts only once every call before it has returned. -/
def serialStart (sys : System) : Action → Bool
  | .castVote _ => sys.calls.all fun phase => !phase.inFlight
  | _ => true

/-- Every call of the run starts only once every call before it has returned. -/
def serialRun (sys : System) : List Action → Bool
  | [] => true
  | action :: rest => serialStart sys action &&
    match step sys action with
    | some sys' => serialRun sys' rest
    | none => true

/-- What a serial run keeps: votes unique, only the last call in flight, and a call past its
`findFirst` holding what `findFirst` returns now. -/
structure SerialVotes (sys : System) : Prop where
  unique : UniqueVotes sys.store
  last : ∀ {call : Nat} {phase : VoteCall}, sys.calls[call]? = some phase → phase.inFlight →
    call + 1 = sys.calls.length
  current : ∀ {call : Nat} {proposalId voterId vote : String} {existing : Option Vote},
    sys.calls[call]? = some (.found proposalId voterId vote existing) →
      sys.store.findVote proposalId voterId = existing

theorem createProposal_votes {sys sys' : System} {payload : CreateProposalRequest}
    {proposalId : String} (ok : createProposal sys payload proposalId = .ok sys') :
    sys'.store.votes = sys.store.votes ∧ sys'.calls = sys.calls := by
  unfold createProposal at ok
  split at ok
  · split at ok
    · simp only [except_bind_ok, except_pure, Except.ok.injEq] at ok
      obtain ⟨_, -, _, -, _, -, _, -, rfl⟩ := ok
      exact ⟨rfl, rfl⟩
    · cases ok
  · cases ok

theorem updateVote_voters {store store' : Store} {voteId : Nat} {vote : String}
    (update : store.updateVote voteId vote = .ok store') (proposalId : String) :
    (store'.votesOf proposalId).map (·.voterId) = (store.votesOf proposalId).map (·.voterId) := by
  unfold Store.updateVote at update
  split at update <;> cases update
  have keys : ∀ row : Vote,
      (if row.id = voteId then { row with vote := vote } else row).proposalId = row.proposalId ∧
        (if row.id = voteId then { row with vote := vote } else row).voterId = row.voterId :=
    fun row => by split <;> exact ⟨rfl, rfl⟩
  simp only [Store.votesOf, List.filter_map, List.map_map, Function.comp_def, keys]

theorem createVote_unique {store : Store} (unique : UniqueVotes store) {proposalId voterId vote : String}
    (absent : store.findVote proposalId voterId = none) :
    UniqueVotes (store.createVote proposalId voterId vote) := by
  have fresh : voterId ∉ (store.votesOf proposalId).map (·.voterId) := by
    simp only [Store.findVote, List.find?_eq_none, decide_eq_true_eq, not_and] at absent
    simp only [Store.votesOf, List.mem_map, List.mem_filter, decide_eq_true_eq, not_exists, not_and]
    exact fun row member same => absent row member.1 member.2 same
  intro other
  by_cases here : proposalId = other
  · subst here
    simp only [Store.createVote, Store.votesOf, List.filter_append, List.map_append] at fresh ⊢
    simp only [List.filter_cons, decide_True, if_true, List.filter_nil, List.map_cons, List.map_nil]
    exact List.nodup_append.mpr ⟨unique proposalId, List.nodup_singleton _,
      List.disjoint_singleton.mpr fresh⟩
  · simpa [Store.createVote, Store.votesOf, here] using unique other

theorem getElem?_append_singleton {α : Type} {calls : List α} {new found : α} {index : Nat}
    (read : (calls ++ [new])[index]? = some found) :
    calls[index]? = some found ∨ index = calls.length ∧ found = new := by
  rcases Nat.lt_or_ge index calls.length with before | after
  · exact .inl (by rwa [List.getElem?_append_left before] at read)
  · rw [List.getElem?_append_right after] at read
    obtain first | later := Nat.eq_zero_or_pos (index - calls.length)
    · rw [first, List.getElem?_cons_zero, Option.some.injEq] at read
      exact .inr ⟨by omega, read.symm⟩
    · rw [List.getElem?_eq_none (by simp only [List.length_singleton]; omega)] at read
      cases read

namespace SerialVotes

variable {sys : System}

theorem of_idle (unique : UniqueVotes sys.store) (idle : ∀ phase ∈ sys.calls, phase.inFlight = false) :
    SerialVotes sys :=
  ⟨unique, fun read flying => absurd (idle _ (List.getElem?_mem read)) (by simp [flying]),
    fun read => absurd (idle _ (List.getElem?_mem read)) (by simp [VoteCall.inFlight])⟩

theorem of_votes (serial : SerialVotes sys) {sys' : System} (votes : sys'.store.votes = sys.store.votes)
    (calls : sys'.calls = sys.calls) : SerialVotes sys' := by
  have findVote : sys'.store.findVote = sys.store.findVote := by
    funext proposalId voterId; simp only [Store.findVote, votes]
  refine ⟨fun proposalId => ?_, fun read => ?_, fun read => ?_⟩
  · simpa only [Store.votesOf, votes] using serial.unique proposalId
  · rw [calls] at read ⊢
    exact serial.last read
  · rw [findVote]
    exact serial.current (calls ▸ read)

theorem resume (serial : SerialVotes sys) {sys' : System} {call : Nat} {phase phase' : VoteCall}
    (read : sys.calls[call]? = some phase) (flying : phase.inFlight)
    (calls : sys'.calls = sys.calls.set call phase') (unique : UniqueVotes sys'.store)
    (current : ∀ {proposalId voterId vote existing}, phase' = .found proposalId voterId vote existing →
      sys'.store.findVote proposalId voterId = existing) : SerialVotes sys' := by
  have lastCall := serial.last read flying
  refine ⟨unique, ?_, ?_⟩
  · intro other _ readOther otherFlying
    rw [calls] at readOther ⊢
    by_cases same : call = other
    · simpa [← same] using lastCall
    · rw [List.getElem?_set_ne same] at readOther
      simpa using serial.last readOther otherFlying
  · intro other _ _ _ _ readOther
    rw [calls] at readOther
    by_cases same : call = other
    · subst same
      rw [List.getElem?_set_self (by omega)] at readOther
      exact current (Option.some.inj readOther)
    · rw [List.getElem?_set_ne same] at readOther
      exact absurd (serial.last readOther rfl) (by omega)

end SerialVotes

theorem resumeCall_serialVotes {sys sys' : System} (serial : SerialVotes sys) {call : Nat} {phase : VoteCall}
    (read : sys.calls[call]? = some phase) (resumed : resumeCall sys call phase = some sys') :
    SerialVotes sys' := by
  cases phase with
  | validated proposalId voterId vote =>
    simp only [resumeCall] at resumed
    repeat' split at resumed
    all_goals cases resumed; exact serial.resume read rfl rfl serial.unique nofun
  | checked proposalId voterId vote =>
    simp only [resumeCall] at resumed
    split at resumed <;> cases resumed
    · exact serial.resume read rfl rfl serial.unique nofun
    · exact serial.resume read rfl rfl serial.unique fun same => by cases same; rfl
  | found proposalId voterId vote existing =>
    cases existing with
    | some existing =>
      simp only [resumeCall] at resumed
      split at resumed <;> cases resumed
      · next update =>
        have unique other := (updateVote_voters update other).symm ▸ serial.unique other
        exact serial.resume read rfl rfl unique nofun
      · exact serial.resume read rfl rfl serial.unique nofun
    | none =>
      cases resumed
      exact serial.resume read rfl rfl (createVote_unique serial.unique (serial.current read)) nofun
  | written proposalId => cases resumed; exact serial.resume read rfl rfl serial.unique nofun
  | fetched proposalId updated =>
    cases updated <;> cases resumed <;> exact serial.resume read rfl rfl serial.unique nofun
  | returned result => cases resumed

theorem step_serialVotes {sys sys' : System} {action : Action} (serial : SerialVotes sys)
    (start : serialStart sys action) (stepped : step sys action = some sys') : SerialVotes sys' := by
  cases action with
  | createProposal payload proposalId =>
    simp only [step] at stepped
    split at stepped <;> cases stepped
    next created =>
      obtain ⟨votes, calls⟩ := createProposal_votes created
      exact serial.of_votes votes calls
    next => exact serial
  | castVote payload =>
    cases stepped
    have idle : ∀ phase ∈ sys.calls, phase.inFlight = false := by simpa [serialStart] using start
    refine ⟨serial.unique, fun read flying => ?_, fun read => ?_⟩ <;>
      rcases getElem?_append_singleton read with before | ⟨rfl, same⟩
    · exact absurd (idle _ (List.getElem?_mem before)) (by simp [flying])
    · simp
    · exact absurd (idle _ (List.getElem?_mem before)) (by simp [VoteCall.inFlight])
    · unfold receiveVote at same
      repeat' split at same
      all_goals cases same
  | elapse milliseconds => cases stepped; exact serial.of_votes rfl rfl
  | resumeCall call =>
    obtain ⟨phase, read, resumed⟩ := Option.bind_eq_some.mp stepped
    exact resumeCall_serialVotes serial read resumed

theorem run_serialVotes : ∀ (actions : List Action) {sys sys' : System}, SerialVotes sys →
    serialRun sys actions = true → run sys actions = some sys' → SerialVotes sys'
  | [], _, _, serial, _, ran => by cases ran; exact serial
  | action :: rest, _, _, serial, schedule, ran => by
    simp only [run, Option.bind_eq_some] at ran
    obtain ⟨next, stepped, ran⟩ := ran
    simp only [serialRun, stepped, Bool.and_eq_true] at schedule
    exact run_serialVotes rest (step_serialVotes serial schedule.1 stepped) schedule.2 ran

theorem SerialVotes.rewrites {sys sys' : System} (serial : SerialVotes sys) {call : Nat}
    {proposalId voterId vote : String} {existing : Vote}
    (read : sys.calls[call]? = some (.found proposalId voterId vote (some existing)))
    (stepped : step sys (.resumeCall call) = some sys') :
    sys'.store.votes = sys.store.votes.map fun row =>
      if row.id = existing.id then { row with vote := vote } else row := by
  have present : sys.store.votes.any (·.id = existing.id) :=
    List.any_eq_true.mpr ⟨existing, List.mem_of_find?_eq_some (serial.current read), by simp⟩
  simp only [step, read, Option.some_bind, resumeCall, Store.updateVote, present, if_true] at stepped
  cases stepped
  rfl

theorem run_uniqueVotes (actions : List Action) {sys sys' : System} (unique : UniqueVotes sys.store)
    (idle : ∀ phase ∈ sys.calls, phase.inFlight = false) (serial : serialRun sys actions = true)
    (ran : run sys actions = some sys') :
    UniqueVotes sys'.store ∧
      ∀ {call : Nat} {proposalId voterId vote : String} {existing : Vote} {sys'' : System},
        sys'.calls[call]? = some (.found proposalId voterId vote (some existing)) →
        step sys' (.resumeCall call) = some sys'' →
        sys''.store.votes = sys'.store.votes.map fun row =>
          if row.id = existing.id then { row with vote := vote } else row :=
  have reached := run_serialVotes actions (SerialVotes.of_idle unique idle) serial ran
  ⟨reached.unique, fun read stepped => reached.rewrites read stepped⟩

/-- One open proposal and no votes. -/
def openProposal : System :=
  ⟨⟨[⟨"proposal", "Lower fees", "Lower the protocol fees", "GENERAL", "ACTIVE", 1000, 0⟩], [], 0⟩,
    0, [], []⟩

theorem openProposal_unique : UniqueVotes openProposal.store := fun _ => List.nodup_nil

def voteFor : CastVoteRequest := ⟨some "proposal", some "voter", some "FOR"⟩

/-- Two first votes of one voter, each past its `findFirst` before either writes. -/
def racingVotes : List Action :=
  [.castVote voteFor, .castVote voteFor, .resumeCall 0, .resumeCall 1, .resumeCall 0, .resumeCall 1,
    .resumeCall 0, .resumeCall 1, .resumeCall 0, .resumeCall 1]

theorem racing_votes_counted_twice :
    UniqueVotes openProposal.store ∧
      (run openProposal racingVotes).map (·.store.votes) =
        some [⟨0, "proposal", "voter", "FOR"⟩, ⟨1, "proposal", "voter", "FOR"⟩] ∧
      ((run openProposal racingVotes).bind fun sys => getProposal sys.store "proposal").map
        (·.totalVotes) = some 2 :=
  ⟨openProposal_unique, by decide, by decide⟩

/-- A vote for; once it has returned, the same voter's vote against, up to its `findFirst`. -/
def serialRevote : List Action :=
  [.castVote voteFor, .resumeCall 0, .resumeCall 0, .resumeCall 0, .resumeCall 0, .resumeCall 0,
    .castVote ⟨some "proposal", some "voter", some "against"⟩, .resumeCall 1, .resumeCall 1]

/-- Where `serialRevote` leaves `openProposal`: the second call found the first vote. -/
def votingAgain : System :=
  ⟨⟨openProposal.store.proposals, [⟨0, "proposal", "voter", "FOR"⟩], 1⟩, 0,
    [.returned (.ok ()), .found "proposal" "voter" "AGAINST" (some ⟨0, "proposal", "voter", "FOR"⟩)],
    [.governanceVoteCast "proposal" 1]⟩

theorem serial_votes_stay_unique :
    UniqueVotes openProposal.store ∧ (∀ phase ∈ openProposal.calls, phase.inFlight = false) ∧
      serialRun openProposal serialRevote = true ∧ run openProposal serialRevote = some votingAgain ∧
      (step votingAgain (.resumeCall 1)).map (·.store.votes) = some [⟨0, "proposal", "voter", "AGAINST"⟩] ∧
      (UniqueVotes votingAgain.store ∧
        ∀ {call : Nat} {proposalId voterId vote : String} {existing : Vote} {sys'' : System},
          votingAgain.calls[call]? = some (.found proposalId voterId vote (some existing)) →
          step votingAgain (.resumeCall call) = some sys'' →
          sys''.store.votes = votingAgain.store.votes.map fun row =>
            if row.id = existing.id then { row with vote := vote } else row) :=
  ⟨openProposal_unique, by decide, by decide, by decide, by decide,
    run_uniqueVotes serialRevote openProposal_unique (by decide) (by decide) (by decide)⟩

end Stellovault.GovernanceService
