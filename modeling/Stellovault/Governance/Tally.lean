import Mathlib.Algebra.BigOperators.Group.List
import Mathlib.Data.Rat.Defs
import Mathlib.Algebra.Order.Ring.Nat
import Stellovault.Governance.Votes

set_option autoImplicit false

/-!
# Tallies of the governance service

Every interleaving of calls keeps the rows `parseVote`-valid and on a proposal of the store, so the
tallies of `getProposal` and `listProposals` count every row and `getMetrics` reports their mean.
-/

namespace Stellovault.GovernanceService

/-- What `getMetrics` returns. `activeProposals` is counted and never used, and the division is
taken exact. -/
structure Metrics where
  totalProposals : Nat
  participationRate : ℚ

def getMetrics (store : Store) : Metrics :=
  let totalProposals := store.proposals.length
  let totalVotes := store.votes.length
  ⟨totalProposals, if totalProposals > 0 then (totalVotes : ℚ) / totalProposals else 0⟩

/-- `getProposalVotes`; the rows' `createdAt`, which orders them, is left out. -/
def getProposalVotes (store : Store) (proposalId : String) : List Vote := store.votesOf proposalId

/-- A system before any proposal, at `now`. -/
def noProposals (now : Nat) : System := ⟨⟨[], [], 0⟩, now, [], []⟩

/-- The tallies the broadcasts of a proposal carried, in the order they went out. -/
def talliesOf (proposalId : String) (events : List Event) : List Nat :=
  events.filterMap fun
    | .governanceVoteCast broadcast newTally => if broadcast = proposalId then some newTally else none

/-! ## Tallies count every row -/

theorem parseVote_ok {value : Option String} {fieldName vote : String}
    (parsed : parseVote value fieldName = .ok vote) : vote ∈ validVoteValues := by
  unfold parseVote at parsed
  split at parsed
  · split_ifs at parsed with invalid
    cases parsed
    exact not_not.mp (not_or.mp invalid).2
  · cases parsed

theorem summarize_totalVotes (proposal : Proposal) {votes : List Vote}
    (valid : ∀ row ∈ votes, row.vote ∈ validVoteValues) : (summarize proposal votes).totalVotes = votes.length := by
  induction votes with
  | nil => rfl
  | cons row rest ih =>
    have counted := ih fun other member => valid other (List.mem_cons_of_mem _ member)
    have choice : row.vote = "FOR" ∨ row.vote = "AGAINST" ∨ row.vote = "ABSTAIN" := by
      simpa [validVoteValues] using valid row (List.mem_cons_self _ _)
    simp only [summarize] at counted ⊢
    rcases choice with choice | choice | choice <;> simp [List.filter_cons, choice] <;> omega

theorem sum_map_indicator (x : String) :
    ∀ ids : List String, (ids.map fun id => if x = id then 1 else 0).sum = ids.count x
  | [] => rfl
  | id :: ids => by
    by_cases same : x = id
    · subst same; simp [sum_map_indicator x ids, Nat.add_comm]
    · simp [sum_map_indicator x ids, same, List.count_cons, Ne.symm same]

theorem sum_filter_length {ids : List String} (distinct : ids.Nodup) :
    ∀ votes : List Vote, (∀ row ∈ votes, row.proposalId ∈ ids) →
      (ids.map fun id => (votes.filter (·.proposalId = id)).length).sum = votes.length
  | [], _ => by simp
  | row :: rest, onIds => by
    have counted := sum_filter_length distinct rest fun other member => onIds other (List.mem_cons_of_mem _ member)
    have once : ids.count row.proposalId = 1 := List.count_eq_one_of_mem distinct (onIds row (List.mem_cons_self _ _))
    have split : ∀ id, ((row :: rest).filter (·.proposalId = id)).length =
        (if row.proposalId = id then 1 else 0) + (rest.filter (·.proposalId = id)).length := by
      intro id
      by_cases same : row.proposalId = id <;> simp [List.filter_cons, same, Nat.add_comm]
    simp only [split, List.sum_map_add, sum_map_indicator, once, counted, List.length_cons, Nat.add_comm]

/-! ## What every interleaving keeps -/

/-- Every vote is one `parseVote` accepts and is on a proposal of the store, and no two
proposals share an id. -/
structure Tallied (store : Store) : Prop where
  valid : ∀ row ∈ store.votes, row.vote ∈ validVoteValues
  onProposal : ∀ row ∈ store.votes, row.proposalId ∈ store.proposals.map (·.id)
  distinct : (store.proposals.map (·.id)).Nodup

/-- No proposal goes, and no proposal loses a vote row. -/
structure StoreGrows (store store' : Store) : Prop where
  proposals : ∀ id ∈ store.proposals.map (·.id), id ∈ store'.proposals.map (·.id)
  votes : ∀ proposalId, (store.votesOf proposalId).length ≤ (store'.votesOf proposalId).length

/-- What a call in flight carries: a vote `parseVote` accepted; once checked, a proposal of the
store, and a row on it if `findFirst` found one; once written, a row on its proposal. -/
def PhaseOk (store : Store) : VoteCall → Prop
  | .validated _ _ vote => vote ∈ validVoteValues
  | .checked proposalId _ vote => vote ∈ validVoteValues ∧ proposalId ∈ store.proposals.map (·.id)
  | .found proposalId _ vote existing => vote ∈ validVoteValues ∧ proposalId ∈ store.proposals.map (·.id) ∧
      (existing.isSome → 0 < (store.votesOf proposalId).length)
  | .written proposalId => 0 < (store.votesOf proposalId).length
  | .fetched proposalId updated => ∀ summary ∈ updated,
      0 < summary.totalVotes ∧ summary.totalVotes ≤ (store.votesOf proposalId).length
  | .returned _ => True

theorem PhaseOk.mono {store store' : Store} (grows : StoreGrows store store') :
    ∀ {phase : VoteCall}, PhaseOk store phase → PhaseOk store' phase
  | .validated .., ok => ok
  | .checked .., ok => ⟨ok.1, grows.proposals _ ok.2⟩
  | .found proposalId .., ok =>
    ⟨ok.1, grows.proposals _ ok.2.1, fun found => lt_of_lt_of_le (ok.2.2 found) (grows.votes proposalId)⟩
  | .written proposalId, ok => lt_of_lt_of_le ok (grows.votes proposalId)
  | .fetched proposalId _, ok => fun summary member =>
    ⟨(ok summary member).1, le_trans (ok summary member).2 (grows.votes proposalId)⟩
  | .returned _, ok => ok

/-- The invariant of every run: the rows are `Tallied`, every call carries what its phase says,
and each tally broadcast for a proposal is at least one and at most the rows it has now. -/
structure Counted (sys : System) : Prop where
  tallied : Tallied sys.store
  phases : ∀ phase ∈ sys.calls, PhaseOk sys.store phase
  broadcasts : ∀ proposalId, ∀ newTally ∈ talliesOf proposalId sys.events,
    0 < newTally ∧ newTally ≤ (sys.store.votesOf proposalId).length

theorem noProposals_counted (now : Nat) : Counted (noProposals now) :=
  Counted.mk ⟨nofun, nofun, List.nodup_nil⟩ nofun fun _ _ member => by cases member

/-! ### The effects of a step -/

theorem findProposal_some {store : Store} {proposalId : String} {proposal : Proposal}
    (found : store.findProposal proposalId = some proposal) :
    proposal ∈ store.proposals ∧ proposal.id = proposalId := by
  have member := List.mem_of_find?_eq_some found
  have same := List.find?_some found
  simp only [decide_eq_true_eq] at same
  exact ⟨member, same⟩

theorem findVote_some {store : Store} {proposalId voterId : String} {row : Vote}
    (found : store.findVote proposalId voterId = some row) : 0 < (store.votesOf proposalId).length := by
  have member := List.mem_of_find?_eq_some found
  have same := List.find?_some found
  simp only [decide_eq_true_eq] at same
  exact List.length_pos_of_mem (List.mem_filter.mpr ⟨member, by simp [same.1]⟩)

theorem createProposal_ok {sys sys' : System} {payload : CreateProposalRequest} {proposalId : String}
    (ok : createProposal sys payload proposalId = .ok sys') :
    proposalId ∉ sys.store.proposals.map (·.id) ∧ ∃ proposal : Proposal, proposal.id = proposalId ∧
      sys' = { sys with store := { sys.store with proposals := sys.store.proposals ++ [proposal] } } := by
  unfold createProposal at ok
  split at ok
  · split at ok
    · simp only [except_bind_ok, except_pure, Except.ok.injEq, throwIf_ok] at ok
      obtain ⟨_, -, _, -, _, -, _, fresh, rfl⟩ := ok
      refine ⟨fun member => fresh ?_, _, rfl, rfl⟩
      obtain ⟨proposal, listed, same⟩ := List.mem_map.mp member
      exact List.find?_isSome.mpr ⟨proposal, listed, by simpa using same⟩
    · cases ok
  · cases ok

theorem Counted.of_grows {sys : System} (counted : Counted sys) {store' : Store}
    (grows : StoreGrows sys.store store') (tallied : Tallied store') : Counted { sys with store := store' } :=
  ⟨tallied, fun phase member => (counted.phases phase member).mono grows,
    fun proposalId newTally member =>
      have old := counted.broadcasts proposalId newTally member
      ⟨old.1, le_trans old.2 (grows.votes proposalId)⟩⟩

theorem Counted.setCall {sys : System} (counted : Counted sys) (call : Nat) {phase : VoteCall}
    (ok : PhaseOk sys.store phase) : Counted (setCall sys call phase) :=
  ⟨counted.tallied, fun other member => (List.mem_or_eq_of_mem_set member).elim (counted.phases other)
      fun same => same ▸ ok,
    counted.broadcasts⟩

theorem Counted.broadcast {sys : System} (counted : Counted sys) {proposalId : String} {newTally : Nat}
    (bounded : 0 < newTally ∧ newTally ≤ (sys.store.votesOf proposalId).length) :
    Counted { sys with events := sys.events ++ [.governanceVoteCast proposalId newTally] } := by
  refine ⟨counted.tallied, counted.phases, fun other tally member => ?_⟩
  simp only [talliesOf, List.filterMap_append, List.mem_append, List.filterMap_cons,
    List.filterMap_nil] at member
  rcases member with old | new
  · exact counted.broadcasts other tally old
  · split_ifs at new with same
    · subst same
      rw [List.mem_singleton.mp new]
      exact bounded
    · cases new

theorem getProposal_totalVotes {store : Store} (tallied : Tallied store) {proposalId : String}
    {summary : GovernanceProposal} (read : getProposal store proposalId = some summary) :
    summary.totalVotes = (store.votesOf proposalId).length := by
  obtain ⟨proposal, found, rfl⟩ := Option.map_eq_some'.mp read
  rw [@summarize_totalVotes proposal (store.votesOf proposal.id) fun row member =>
    tallied.valid row (List.mem_filter.mp member).1, (findProposal_some found).2]

theorem updateVote_grows {store store' : Store} {voteId : Nat} {vote : String}
    (update : store.updateVote voteId vote = .ok store') : StoreGrows store store' := by
  have proposals : store'.proposals = store.proposals := by
    unfold Store.updateVote at update
    split at update <;> cases update
    rfl
  refine ⟨fun id member => proposals ▸ member, fun proposalId => ?_⟩
  have voters := congrArg List.length (updateVote_voters update proposalId)
  simp only [List.length_map] at voters
  omega

theorem updateVote_tallied {store store' : Store} (tallied : Tallied store) {voteId : Nat} {vote : String}
    (valid : vote ∈ validVoteValues) (update : store.updateVote voteId vote = .ok store') : Tallied store' := by
  unfold Store.updateVote at update
  split at update <;> cases update
  refine ⟨fun row member => ?_, fun row member => ?_, tallied.distinct⟩ <;>
    obtain ⟨old, listed, rfl⟩ := List.mem_map.mp member <;> split
  · exact valid
  · exact tallied.valid old listed
  · exact tallied.onProposal old listed
  · exact tallied.onProposal old listed

theorem createVote_grows (store : Store) (proposalId voterId vote : String) :
    StoreGrows store (store.createVote proposalId voterId vote) := by
  refine ⟨fun _ member => member, fun other => ?_⟩
  simp only [Store.createVote, Store.votesOf, List.filter_append, List.length_append]
  omega

theorem createVote_voted (store : Store) (proposalId voterId vote : String) :
    0 < ((store.createVote proposalId voterId vote).votesOf proposalId).length := by
  simp [Store.createVote, Store.votesOf]

theorem createVote_tallied {store : Store} (tallied : Tallied store) {proposalId voterId vote : String}
    (valid : vote ∈ validVoteValues) (onProposal : proposalId ∈ store.proposals.map (·.id)) :
    Tallied (store.createVote proposalId voterId vote) := by
  refine ⟨fun row member => ?_, fun row member => ?_, tallied.distinct⟩ <;>
    rcases List.mem_append.mp member with old | new
  · exact tallied.valid row old
  · rw [List.mem_singleton.mp new]; exact valid
  · exact tallied.onProposal row old
  · rw [List.mem_singleton.mp new]; exact onProposal

theorem receiveVote_ok (store : Store) (payload : CastVoteRequest) : PhaseOk store (receiveVote payload) := by
  unfold receiveVote
  split
  · trivial
  · next vote parsed => split <;> first | trivial | exact parseVote_ok parsed

theorem resumeCall_counted {sys sys' : System} (counted : Counted sys) {call : Nat} {phase : VoteCall}
    (ok : PhaseOk sys.store phase) (resumed : resumeCall sys call phase = some sys') : Counted sys' := by
  cases phase with
  | validated proposalId voterId vote =>
    simp only [resumeCall] at resumed
    split at resumed
    · cases resumed; exact counted.setCall call trivial
    split at resumed
    · cases resumed; exact counted.setCall call trivial
    · next proposal foundProposal =>
      have listed := List.mem_map.mpr ⟨proposal, findProposal_some foundProposal⟩
      split_ifs at resumed <;> cases resumed
      · exact counted.setCall call trivial
      · exact counted.setCall call trivial
      · exact counted.setCall call ⟨ok, listed⟩
  | checked proposalId voterId vote =>
    simp only [resumeCall] at resumed
    split at resumed <;> cases resumed
    · exact counted.setCall call trivial
    refine counted.setCall call ⟨ok.1, ok.2, fun existing => ?_⟩
    obtain ⟨row, findRow⟩ := Option.isSome_iff_exists.mp existing
    exact findVote_some findRow
  | found proposalId voterId vote existing =>
    cases existing with
    | some existing =>
      simp only [resumeCall] at resumed
      split at resumed <;> cases resumed
      · next store' update =>
        have grows := updateVote_grows update
        exact (counted.of_grows grows (updateVote_tallied counted.tallied ok.1 update)).setCall call
          (lt_of_lt_of_le (ok.2.2 rfl) (grows.votes proposalId))
      · exact counted.setCall call trivial
    | none =>
      cases resumed
      have tallied : Tallied (sys.store.createVote proposalId voterId vote) :=
        createVote_tallied counted.tallied ok.1 ok.2.1
      exact (counted.of_grows (createVote_grows _ _ _ _) tallied).setCall call (createVote_voted _ _ _ _)
  | written proposalId =>
    cases resumed
    refine counted.setCall call fun summary read => ?_
    rw [getProposal_totalVotes counted.tallied read]
    exact ⟨ok, le_refl _⟩
  | fetched proposalId updated =>
    cases updated with
    | none => cases resumed; exact counted.setCall call trivial
    | some updated => cases resumed; exact (counted.broadcast (ok updated rfl)).setCall call trivial
  | returned result => cases resumed

theorem step_counted {sys sys' : System} (counted : Counted sys) {action : Action}
    (stepped : step sys action = some sys') : Counted sys' := by
  cases action with
  | createProposal payload proposalId =>
    simp only [step] at stepped
    split at stepped <;> cases stepped
    next ok =>
      obtain ⟨fresh, proposal, rfl, rfl⟩ := createProposal_ok ok
      refine counted.of_grows ⟨fun _ member => by simp_all, fun _ => le_refl _⟩
        ⟨counted.tallied.valid, fun row member => ?_, ?_⟩
      · simpa using Or.inl (counted.tallied.onProposal row member)
      · simpa [List.nodup_append] using ⟨counted.tallied.distinct, fun x member same => fresh (same ▸ List.mem_map_of_mem _ member)⟩
    next => exact counted
  | castVote payload =>
    cases stepped
    exact ⟨counted.tallied, fun phase member => (List.mem_append.mp member).elim (counted.phases phase)
      fun new => List.mem_singleton.mp new ▸ receiveVote_ok _ _, counted.broadcasts⟩
  | elapse milliseconds =>
    cases stepped
    exact ⟨counted.tallied, counted.phases, counted.broadcasts⟩
  | resumeCall call =>
    obtain ⟨phase, found, resumed⟩ := Option.bind_eq_some.mp stepped
    exact resumeCall_counted counted (counted.phases phase (List.getElem?_mem found)) resumed

theorem run_counted : ∀ (actions : List Action) {sys sys' : System}, Counted sys →
    run sys actions = some sys' → Counted sys'
  | [], _, _, counted, ran => by cases ran; exact counted
  | action :: rest, _, _, counted, ran => by
    simp only [run, Option.bind_eq_some] at ran
    obtain ⟨next, stepped, ran⟩ := ran
    exact run_counted rest (step_counted counted stepped) ran

theorem tallies_count_every_vote (now : Nat) (actions : List Action) {sys : System}
    (ran : run (noProposals now) actions = some sys) :
    (∀ proposalId summary, getProposal sys.store proposalId = some summary →
      summary.totalVotes = (getProposalVotes sys.store proposalId).length) ∧
    (getMetrics sys.store).participationRate =
      if sys.store.proposals = [] then 0
      else ((((listProposals sys.store).map (·.totalVotes)).sum : Nat) : ℚ) / sys.store.proposals.length := by
  have tallied := (run_counted actions (noProposals_counted now) ran).tallied
  have tally : ∀ proposal : Proposal, (summarize proposal (sys.store.votesOf proposal.id)).totalVotes =
      (sys.store.votesOf proposal.id).length := fun proposal =>
    summarize_totalVotes proposal fun row member => tallied.valid row (List.mem_filter.mp member).1
  refine ⟨fun proposalId summary read => getProposal_totalVotes tallied read, ?_⟩
  · have total : ((listProposals sys.store).map (·.totalVotes)).sum = sys.store.votes.length := by
      rw [← sum_filter_length tallied.distinct sys.store.votes tallied.onProposal]
      simp only [listProposals, List.map_map, Function.comp_def, tally]
      rfl
    simp only [getMetrics, total]
    by_cases none : sys.store.proposals = []
    · simp [none]
    · simp [none, List.length_pos.mpr none]

theorem broadcast_tallies_within_rows (now : Nat) (actions : List Action) {sys : System}
    (ran : run (noProposals now) actions = some sys) (proposalId : String) :
    ∀ newTally ∈ talliesOf proposalId sys.events,
      0 < newTally ∧ newTally ≤ (getProposalVotes sys.store proposalId).length :=
  (run_counted actions (noProposals_counted now) ran).broadcasts proposalId

/-- A proposal, a vote for it, and once that has returned another voter's vote against it. -/
def proposeAndVote : List Action :=
  [.createProposal ⟨some "Lower fees", some "Lower the protocol fees", none, .at 1000⟩ "proposal",
    .castVote voteFor, .resumeCall 0, .resumeCall 0, .resumeCall 0, .resumeCall 0, .resumeCall 0,
    .castVote ⟨some "proposal", some "other", some "against"⟩, .resumeCall 1, .resumeCall 1,
    .resumeCall 1, .resumeCall 1, .resumeCall 1]

/-- Where `proposeAndVote` leaves an empty store: two votes, broadcast with tallies 1 and 2. -/
def twoVoters : System :=
  ⟨⟨[⟨"proposal", "Lower fees", "Lower the protocol fees", "GENERAL", "ACTIVE", 1000, 0⟩],
      [⟨0, "proposal", "voter", "FOR"⟩, ⟨1, "proposal", "other", "AGAINST"⟩], 2⟩, 0,
    [.returned (.ok ()), .returned (.ok ())],
    [.governanceVoteCast "proposal" 1, .governanceVoteCast "proposal" 2]⟩

theorem proposeAndVote_run : run (noProposals 0) proposeAndVote = some twoVoters := by decide

theorem two_voters_tallied :
    run (noProposals 0) proposeAndVote = some twoVoters ∧
      (∀ proposalId summary, getProposal twoVoters.store proposalId = some summary →
        summary.totalVotes = (getProposalVotes twoVoters.store proposalId).length) ∧
      (getMetrics twoVoters.store).participationRate =
        if twoVoters.store.proposals = [] then 0
        else ((((listProposals twoVoters.store).map (·.totalVotes)).sum : Nat) : ℚ) /
          twoVoters.store.proposals.length :=
  ⟨proposeAndVote_run, tallies_count_every_vote 0 proposeAndVote proposeAndVote_run⟩

/-- The first vote reads its tally of one; the second voter's call then runs whole and broadcasts
two before the first call broadcasts its one. -/
def staleTally : List Action :=
  [.createProposal ⟨some "Lower fees", some "Lower the protocol fees", none, .at 1000⟩ "proposal",
    .castVote voteFor, .resumeCall 0, .resumeCall 0, .resumeCall 0, .resumeCall 0,
    .castVote ⟨some "proposal", some "other", some "against"⟩, .resumeCall 1, .resumeCall 1,
    .resumeCall 1, .resumeCall 1, .resumeCall 1, .resumeCall 0]

/-- Where `staleTally` leaves an empty store: the same rows as `twoVoters`, broadcast with
tallies 2 and then 1. -/
def staleBroadcast : System :=
  { twoVoters with events := [.governanceVoteCast "proposal" 2, .governanceVoteCast "proposal" 1] }

theorem stale_tally_broadcast_last :
    run (noProposals 0) staleTally = some staleBroadcast ∧
      talliesOf "proposal" staleBroadcast.events = [2, 1] ∧
      ∀ newTally ∈ talliesOf "proposal" staleBroadcast.events,
        0 < newTally ∧ newTally ≤ (getProposalVotes staleBroadcast.store "proposal").length :=
  ⟨by decide, rfl, broadcast_tallies_within_rows 0 staleTally (by decide) "proposal"⟩

end Stellovault.GovernanceService
