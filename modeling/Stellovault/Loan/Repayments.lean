import Mathlib.Algebra.Order.BigOperators.Group.List
import Stellovault.Loan.Service

set_option autoImplicit false

namespace Stellovault.LoanService

section

variable {tx tx' : Store} {requestingUserId loanId repaymentId : String} {amount : ℚ}
  {paidAt : Option Int}

theorem writeRepayment_ok {loan : Loan} {repayment : Repayment} {before after : ℚ}
    {next : LoanStatus}
    (ok : writeRepayment tx requestingUserId loanId amount paidAt repaymentId =
      .ok (loan, repayment, before, after, next, tx')) :
    tx.findLoan loanId = some loan ∧ loan.status ≠ .defaulted ∧
      before = Decimal.minus loan.amount ((tx.repaymentsOf loanId).foldl
        (fun sum repayment => Decimal.plus sum repayment.amount) 0) ∧
      0 < before ∧ amount ≤ before ∧
      repayment = ⟨repaymentId, loanId, roundHalfUp 7 amount, paidAt.getD tx.now⟩ ∧
      |roundHalfUp 7 amount| < 10 ^ 13 ∧
      tx' = { tx with repayments := tx.repayments ++ [repayment] } ∧
      after = Decimal.minus before amount ∧
      next = if after = 0 then .repaid else if loan.status = .pending then .active else loan.status := by
  simp only [writeRepayment, except_bind_ok] at ok
  obtain ⟨⟨⟩, -, ok⟩ := ok
  split at ok
  · rename_i found
    simp only [except_bind_ok, except_pure, Except.ok.injEq, Prod.mk.injEq, throwIf_ok,
      except_mapError_ok, decimalColumn_ok] at ok
    obtain ⟨_, -, _, live, _, positive, _, within, _, -, _, -, _, ⟨rfl, column⟩, rfl, rfl, rfl, rfl, rfl,
      rfl⟩ := ok
    exact ⟨found, live, rfl, lt_of_not_le positive, le_of_not_lt within, rfl, column, rfl, rfl, rfl⟩
  · cases ok

theorem recordRepaymentTransaction_ok {result : RepaymentResult}
    (ok : (recordRepaymentTransaction tx requestingUserId loanId amount paidAt repaymentId).1 =
      .ok (result, tx')) :
    ∃ loan repayment before next written,
      writeRepayment tx requestingUserId loanId amount paidAt repaymentId =
        .ok (loan, repayment, before, result.outstandingAfter, next, written) ∧
      tx' = if next ≠ loan.status then written.setStatus loanId next else written := by
  unfold recordRepaymentTransaction at ok
  split at ok
  · cases ok
  · rename_i loan repayment before after next written wrote
    simp only at ok
    split at ok
    · cases ok
    · cases ok
      exact ⟨loan, repayment, before, next, written, wrote, rfl⟩

end

theorem validateRepayment_ok {payload : RecordRepaymentRequest} {requestingUserId loanId : String}
    {amount : ℚ} {paidAt : Option Int}
    (ok : validateRepayment payload = .ok (requestingUserId, loanId, amount, paidAt)) : 0 < amount := by
  unfold validateRepayment at ok
  split at ok
  · split at ok
    · obtain ⟨parsed, parsedOk, rest⟩ := except_bind_ok.mp ok
      obtain ⟨_, -, done⟩ := except_bind_ok.mp rest
      cases done
      exact (parsePositive_ok.mp parsedOk).2
    · cases ok
  · cases ok

theorem recordRepayment_store (sys : System) (payload : RecordRepaymentRequest)
    (repaymentId : String) (commits : Bool) :
    (recordRepayment sys payload repaymentId commits).2.store = sys.store ∨
      ∃ requestingUserId loanId amount paidAt result, 0 < amount ∧
        (recordRepaymentTransaction sys.store requestingUserId loanId amount paidAt repaymentId).1 =
          .ok (result, (recordRepayment sys payload repaymentId commits).2.store) := by
  unfold recordRepayment
  split
  · exact .inl rfl
  · rename_i requestingUserId loanId amount paidAt validated
    split
    · exact .inl rfl
    · rename_i result written published transaction
      split
      · exact .inr ⟨requestingUserId, loanId, amount, paidAt, result,
          validateRepayment_ok validated, by rw [transaction]⟩
      · exact .inl rfl

theorem issueLoan_ok {sys sys' : System} {payload : IssueLoanRequest} {loanId : String}
    {result : IssueLoanResult} (ok : issueLoan sys payload loanId = .ok (result, sys')) :
    result.loan.id = loanId ∧ result.loan.status = .pending ∧ sys.store.findLoan loanId = none ∧
      OnGrid 7 result.loan.amount ∧ 0 ≤ result.loan.amount ∧ |result.loan.amount| < 10 ^ 13 ∧
      sys'.store = { sys.store with loans := sys.store.loans ++ [result.loan] } := by
  unfold issueLoan at ok
  split at ok
  · split at ok
    · split at ok
      · simp only [except_bind_ok, except_pure, Except.ok.injEq, Prod.mk.injEq, throwIf_ok,
          except_mapError_ok, decimalColumn_ok] at ok
        obtain ⟨_, -, _, -, amount, parsed, _, -, _, -, _, -, _, -, _, -, _, -, _, fresh, _,
          ⟨rfl, column⟩, _, -, rfl, rfl⟩ := ok
        exact ⟨rfl, rfl, by simpa using fresh, onGrid_roundHalfUp 7 _,
          roundHalfUp_nonneg _ (parsePositive_ok.mp parsed).2.le, column, rfl⟩
      · cases ok
    · cases ok
  · cases ok

/-- The sum of the repayments stored for a loan. -/
def repaidOf (store : Store) (loanId : String) : ℚ :=
  ((store.repaymentsOf loanId).map (·.amount)).sum

/-- What the schema and the service keep true of the loan tables. -/
structure Valid (store : Store) : Prop where
  loanKeys : (store.loans.map (·.id)).Nodup
  loanAmounts : ∀ loan ∈ store.loans, OnGrid 7 loan.amount ∧ 0 ≤ loan.amount ∧ loan.amount < 10 ^ 13
  repaymentAmounts : ∀ repayment ∈ store.repayments, OnGrid 7 repayment.amount ∧ 0 ≤ repayment.amount
  owned : ∀ repayment ∈ store.repayments, ∃ loan ∈ store.loans, loan.id = repayment.loanId
  bounded : ∀ loan ∈ store.loans, repaidOf store loan.id ≤ loan.amount

/-- Every loan is still there, with its amount, and has had no repayment taken away. -/
def Grows (store store' : Store) : Prop :=
  ∀ loan ∈ store.loans, ∃ kept ∈ store'.loans, kept.id = loan.id ∧ kept.amount = loan.amount ∧
    repaidOf store loan.id ≤ repaidOf store' loan.id

theorem Grows.refl (store : Store) : Grows store store :=
  fun loan member => ⟨loan, member, rfl, rfl, le_rfl⟩

theorem Grows.trans {store store' store'' : Store} (first : Grows store store')
    (second : Grows store' store'') : Grows store store'' := by
  intro loan member
  obtain ⟨kept, keptMember, sameId, sameAmount, more⟩ := first loan member
  obtain ⟨last, lastMember, lastId, lastAmount, most⟩ := second kept keptMember
  exact ⟨last, lastMember, lastId.trans sameId, lastAmount.trans sameAmount,
    more.trans (sameId ▸ most)⟩

theorem repaidOf_nonneg {store : Store} (valid : Valid store) (loanId : String) :
    0 ≤ repaidOf store loanId :=
  List.sum_nonneg fun _ member => by
    obtain ⟨repayment, selected, rfl⟩ := List.mem_map.mp member
    exact (valid.repaymentAmounts repayment (List.mem_filter.mp selected).1).2

theorem onGrid_repaidOf {store : Store} (valid : Valid store) (loanId : String) :
    OnGrid 7 (repaidOf store loanId) :=
  OnGrid.sum fun _ member => by
    obtain ⟨repayment, selected, rfl⟩ := List.mem_map.mp member
    exact (valid.repaymentAmounts repayment (List.mem_filter.mp selected).1).1

theorem repaidOf_append (store : Store) (repayment : Repayment) (loanId : String) :
    repaidOf { store with repayments := store.repayments ++ [repayment] } loanId =
      repaidOf store loanId + if repayment.loanId = loanId then repayment.amount else 0 := by
  unfold repaidOf Store.repaymentsOf
  split <;> simp_all [List.sum_append]

@[simp] theorem repaidOf_setStatus (store : Store) (target : String) (status : LoanStatus)
    (loanId : String) : repaidOf (store.setStatus target status) loanId = repaidOf store loanId := rfl

theorem foldl_plus_exact (amounts : List ℚ) {start : ℚ} (startGrid : OnGrid 7 start)
    (startNonneg : 0 ≤ start) (each : ∀ amount ∈ amounts, OnGrid 7 amount ∧ 0 ≤ amount)
    (bound : start + amounts.sum < 10 ^ 13) : amounts.foldl Decimal.plus start = start + amounts.sum := by
  induction amounts generalizing start with
  | nil => simp
  | cons amount rest ih =>
    obtain ⟨grid, nonneg⟩ := each amount (List.mem_cons_self _ _)
    have others : ∀ other ∈ rest, OnGrid 7 other ∧ 0 ≤ other :=
      fun other member => each other (List.mem_cons_of_mem _ member)
    have restNonneg : 0 ≤ rest.sum := List.sum_nonneg fun other member => (others other member).2
    rw [List.sum_cons] at bound
    have exact : Decimal.plus start amount = start + amount :=
      toSignificant_of_onGrid (startGrid.add grid)
        (show |start + amount| < 10 ^ 13 by rw [abs_of_nonneg (by linarith)]; linarith)
        (by norm_num [decimalPrecision])
    rw [List.foldl_cons, exact, ih (startGrid.add grid) (by linarith) others (by linarith),
      List.sum_cons, add_assoc]

theorem outstanding_exact {store : Store} (valid : Valid store) {loan : Loan}
    (member : loan ∈ store.loans) :
    Decimal.minus loan.amount ((store.repaymentsOf loan.id).foldl
      (fun sum repayment => Decimal.plus sum repayment.amount) 0) = loan.amount - repaidOf store loan.id := by
  obtain ⟨grid, -, below⟩ := valid.loanAmounts loan member
  have bounded := valid.bounded loan member
  have nonneg := repaidOf_nonneg valid loan.id
  have each : ∀ amount ∈ (store.repaymentsOf loan.id).map (·.amount), OnGrid 7 amount ∧ 0 ≤ amount := by
    intro amount amountMember
    obtain ⟨repayment, selected, rfl⟩ := List.mem_map.mp amountMember
    exact valid.repaymentAmounts repayment (List.mem_filter.mp selected).1
  rw [← List.foldl_map, foldl_plus_exact _ (onGrid_zero 7) le_rfl each
    (by rw [zero_add]; exact lt_of_le_of_lt bounded below), zero_add]
  show Decimal.minus loan.amount (repaidOf store loan.id) = loan.amount - repaidOf store loan.id
  exact toSignificant_of_onGrid (grid.sub (onGrid_repaidOf valid loan.id))
    (show |loan.amount - repaidOf store loan.id| < 10 ^ 13 by rw [abs_of_nonneg (by linarith)]; linarith)
    (by norm_num [decimalPrecision])

namespace Valid

variable {store : Store}

theorem of_rows {store' : Store} (valid : Valid store) (loans : store'.loans = store.loans)
    (repayments : store'.repayments = store.repayments) : Valid store' ∧ Grows store store' := by
  have repaid : ∀ loanId, repaidOf store' loanId = repaidOf store loanId := by
    simp [repaidOf, Store.repaymentsOf, repayments]
  refine ⟨⟨?_, ?_, ?_, ?_, ?_⟩, fun loan member => ⟨loan, loans ▸ member, rfl, rfl, (repaid _).ge⟩⟩
  all_goals simp only [loans, repayments, repaid]
  exacts [valid.loanKeys, valid.loanAmounts, valid.repaymentAmounts, valid.owned, valid.bounded]

theorem setStatus (valid : Valid store) (target : String) (status : LoanStatus) :
    Valid (store.setStatus target status) ∧ Grows store (store.setStatus target status) := by
  have kept : ∀ loan : Loan, (if loan.id = target then { loan with status := status } else loan).id =
      loan.id ∧ (if loan.id = target then { loan with status := status } else loan).amount =
      loan.amount := fun loan => by split <;> exact ⟨rfl, rfl⟩
  refine ⟨⟨?_, ?_, valid.repaymentAmounts, ?_, ?_⟩, ?_⟩
  · simpa [Store.setStatus, Function.comp_def, kept] using valid.loanKeys
  · simp only [Store.setStatus, List.mem_map]
    rintro _ ⟨loan, member, rfl⟩
    simpa [kept] using valid.loanAmounts loan member
  · intro repayment member
    obtain ⟨loan, loanMember, owner⟩ := valid.owned repayment member
    exact ⟨_, List.mem_map_of_mem _ loanMember, (kept loan).1.trans owner⟩
  · simp only [Store.setStatus, List.mem_map]
    rintro _ ⟨loan, member, rfl⟩
    simpa [kept] using valid.bounded loan member
  · exact fun loan member => ⟨_, List.mem_map_of_mem _ member, (kept loan).1, (kept loan).2, le_rfl⟩

theorem addRepayment (valid : Valid store) {loan : Loan} (member : loan ∈ store.loans)
    {repayment : Repayment} (owner : repayment.loanId = loan.id) (grid : OnGrid 7 repayment.amount)
    (nonneg : 0 ≤ repayment.amount) (within : repayment.amount ≤ loan.amount - repaidOf store loan.id) :
    Valid { store with repayments := store.repayments ++ [repayment] } ∧
      Grows store { store with repayments := store.repayments ++ [repayment] } := by
  refine ⟨⟨valid.loanKeys, valid.loanAmounts, ?_, ?_, ?_⟩, ?_⟩
  · simp only [List.mem_append, List.mem_singleton]
    rintro _ (old | rfl)
    exacts [valid.repaymentAmounts _ old, ⟨grid, nonneg⟩]
  · simp only [List.mem_append, List.mem_singleton]
    rintro _ (old | rfl)
    exacts [valid.owned _ old, ⟨loan, member, owner.symm⟩]
  · intro other otherMember
    rw [repaidOf_append]
    split
    next same =>
      have : other = loan := List.inj_on_of_nodup_map valid.loanKeys otherMember member
        (same.symm.trans owner)
      subst this
      linarith
    next => simpa using valid.bounded other otherMember
  · intro other otherMember
    refine ⟨other, otherMember, rfl, rfl, ?_⟩
    rw [repaidOf_append]
    split <;> linarith

theorem addLoan (valid : Valid store) {loan : Loan} (fresh : store.findLoan loan.id = none)
    (grid : OnGrid 7 loan.amount) (nonneg : 0 ≤ loan.amount) (bound : |loan.amount| < 10 ^ 13) :
    Valid { store with loans := store.loans ++ [loan] } ∧
      Grows store { store with loans := store.loans ++ [loan] } := by
  have distinct : ∀ other ∈ store.loans, other.id ≠ loan.id := by
    simpa [Store.findLoan] using fresh
  have unpaid : repaidOf store loan.id = 0 := by
    have none : store.repaymentsOf loan.id = [] := List.filter_eq_nil_iff.mpr fun repayment member => by
      obtain ⟨other, otherMember, owner⟩ := valid.owned repayment member
      simpa [← owner] using distinct other otherMember
    simp [repaidOf, none]
  refine ⟨⟨?_, ?_, valid.repaymentAmounts, ?_, ?_⟩, ?_⟩
  · rw [List.map_append, List.nodup_append]
    exact ⟨valid.loanKeys, List.nodup_singleton _, by simpa [List.disjoint_singleton] using distinct⟩
  · simp only [List.mem_append, List.mem_singleton]
    rintro _ (old | rfl)
    exacts [valid.loanAmounts _ old, ⟨grid, nonneg, lt_of_abs_lt bound⟩]
  · intro repayment member
    obtain ⟨other, otherMember, owner⟩ := valid.owned repayment member
    exact ⟨other, List.mem_append_left _ otherMember, owner⟩
  · simp only [List.mem_append, List.mem_singleton]
    rintro _ (old | rfl)
    exacts [valid.bounded _ old, unpaid.trans_le nonneg]
  · exact fun other member => ⟨other, List.mem_append_left _ member, rfl, rfl, le_rfl⟩

end Valid

theorem commit_effect {sys : System} (valid : Valid sys.store) {requestingUserId loanId : String}
    {amount : ℚ} {paidAt : Option Int} {repaymentId : String} {result : RepaymentResult}
    {store' : Store} (positive : 0 < amount)
    (transaction : (recordRepaymentTransaction sys.store requestingUserId loanId amount paidAt
      repaymentId).1 = .ok (result, store')) :
    ∃ loan ∈ sys.store.loans, ∃ repayment : Repayment, ∃ next : LoanStatus,
      loan.status ≠ .defaulted ∧ repayment.loanId = loan.id ∧ OnGrid 7 repayment.amount ∧
      0 ≤ repayment.amount ∧
      repaidOf sys.store loan.id < loan.amount ∧
      repayment.amount ≤ loan.amount - repaidOf sys.store loan.id ∧
      (next ≠ loan.status → next = .repaid →
        repayment.amount = loan.amount - repaidOf sys.store loan.id) ∧
      store' = if next ≠ loan.status then
          { sys.store with repayments := sys.store.repayments ++ [repayment] }.setStatus loan.id next
        else { sys.store with repayments := sys.store.repayments ++ [repayment] } := by
  obtain ⟨loan, repayment, before, next, written, wrote, stored⟩ :=
    recordRepaymentTransaction_ok transaction
  obtain ⟨found, live, computed, owed, within, rfl, -, rfl, after, derived⟩ := writeRepayment_ok wrote
  have member := List.mem_of_find?_eq_some found
  have owner : loan.id = loanId := by simpa using List.find?_some found
  subst owner
  rw [outstanding_exact valid member] at computed
  subst computed
  have grid := (valid.loanAmounts loan member).1.sub (onGrid_repaidOf valid loan.id)
  have owes : repaidOf sys.store loan.id < loan.amount := by linarith
  refine ⟨loan, member, ⟨repaymentId, loan.id, roundHalfUp 7 amount, paidAt.getD sys.store.now⟩, next,
    live, rfl, onGrid_roundHalfUp 7 amount, roundHalfUp_nonneg _ positive.le, owes,
    roundHalfUp_le_of_onGrid positive.le within grid, fun changed repaid => ?_, stored⟩
  have settled : result.outstandingAfter = 0 := by
    by_contra open_
    rw [derived, if_neg open_] at changed repaid
    split at repaid
    · cases repaid
    · exact changed (if_neg ‹_›)
  rw [after, Decimal.minus] at settled
  have paid : amount = loan.amount - repaidOf sys.store loan.id :=
    (sub_eq_zero.mp (not_not.mp fun open_ => toSignificant_ne_zero (by decide) open_ settled)).symm
  rw [paid]
  exact roundHalfUp_of_onGrid grid

/-- What one action does to the loan tables of a valid store: the one inversion lemma the
invariants of the loan service are proved from. -/
inductive LoanEffect (store store' : Store) : Prop where
  | unchanged (loans : store'.loans = store.loans) (repayments : store'.repayments = store.repayments)
  | issued (loan : Loan) (pending : loan.status = .pending) (fresh : store.findLoan loan.id = none)
      (grid : OnGrid 7 loan.amount) (nonneg : 0 ≤ loan.amount) (bound : |loan.amount| < 10 ^ 13)
      (stored : store' = { store with loans := store.loans ++ [loan] })
  | repaid (loan : Loan) (member : loan ∈ store.loans) (repayment : Repayment) (next : LoanStatus)
      (live : loan.status ≠ .defaulted) (owner : repayment.loanId = loan.id)
      (grid : OnGrid 7 repayment.amount) (nonneg : 0 ≤ repayment.amount)
      (owes : repaidOf store loan.id < loan.amount)
      (within : repayment.amount ≤ loan.amount - repaidOf store loan.id)
      (settles : next ≠ loan.status → next = .repaid →
        repayment.amount = loan.amount - repaidOf store loan.id)
      (stored : store' = if next ≠ loan.status then
          { store with repayments := store.repayments ++ [repayment] }.setStatus loan.id next
        else { store with repayments := store.repayments ++ [repayment] })

theorem step_effect {sys : System} (valid : Valid sys.store) (action : Action) :
    LoanEffect sys.store (step sys action).store := by
  cases action with
  | issueLoan payload loanId =>
    simp only [step]
    split
    next created =>
      obtain ⟨same, pending, fresh, grid, nonneg, bound, stored⟩ := issueLoan_ok created
      subst same
      exact .issued _ pending fresh grid nonneg bound stored
    next => exact .unchanged rfl rfl
  | recordRepayment payload repaymentId commits =>
    simp only [step]
    rcases recordRepayment_store sys payload repaymentId commits with
      same | ⟨requestingUserId, loanId, amount, paidAt, result, positive, transaction⟩
    · rw [same]
      exact .unchanged rfl rfl
    · obtain ⟨loan, member, repayment, next, live, owner, grid, nonneg, owes, within, settles,
        stored⟩ := commit_effect valid positive transaction
      exact .repaid loan member repayment next live owner grid nonneg owes within settles stored
  | elapse milliseconds => exact .unchanged rfl rfl

theorem step_valid {sys : System} (valid : Valid sys.store) (action : Action) :
    Valid (step sys action).store ∧ Grows sys.store (step sys action).store := by
  cases step_effect valid action with
  | unchanged loans repayments => exact valid.of_rows loans repayments
  | issued loan _ fresh grid nonneg bound stored =>
    rw [stored]
    exact valid.addLoan fresh grid nonneg bound
  | repaid loan member repayment next _ owner grid nonneg _ within _ stored =>
    have added := valid.addRepayment member owner grid nonneg within
    rw [stored]
    split
    · have restatus := added.1.setStatus loan.id next
      exact ⟨restatus.1, added.2.trans restatus.2⟩
    · exact added

theorem run_valid (actions : List Action) {sys : System} (valid : Valid sys.store) :
    Valid (run sys actions).store ∧ Grows sys.store (run sys actions).store := by
  induction actions generalizing sys with
  | nil => exact ⟨valid, .refl _⟩
  | cons action rest ih =>
    have first := step_valid valid action
    have later := ih first.1
    exact ⟨later.1, first.2.trans later.2⟩

theorem run_append (sys : System) (earlier later : List Action) :
    run sys (earlier ++ later) = run (run sys earlier) later :=
  List.foldl_append ..

theorem repayments_within_loan_amount (sys : System) (valid : Valid sys.store)
    (earlier later : List Action) :
    (∀ loan ∈ (run sys (earlier ++ later)).store.loans,
      repaidOf (run sys (earlier ++ later)).store loan.id ≤ loan.amount) ∧
    ∀ loan ∈ (run sys earlier).store.loans, ∃ kept ∈ (run sys (earlier ++ later)).store.loans,
      kept.id = loan.id ∧
      kept.amount - repaidOf (run sys (earlier ++ later)).store kept.id ≤
        loan.amount - repaidOf (run sys earlier).store loan.id := by
  have before := run_valid earlier valid
  rw [run_append]
  have after := run_valid later before.1
  refine ⟨after.1.bounded, fun loan member => ?_⟩
  obtain ⟨kept, keptMember, sameId, sameAmount, more⟩ := after.2 loan member
  exact ⟨kept, keptMember, sameId, by rw [sameId, sameAmount]; linarith⟩

/-- Two users and no loan. -/
def noLoans : System := ⟨⟨["borrower", "lender"], [], [], "loan-contract", 0⟩, []⟩

/-- A loan of 1 against a collateral of 2, asked for by the borrower. -/
def issueOne : IssueLoanRequest :=
  ⟨some "borrower", some "borrower", some "lender", some 1, none, some 2, none⟩

def repayHalf : RecordRepaymentRequest := ⟨some "borrower", some "loan", some (1 / 2), .missing⟩

theorem noLoans_valid : Valid noLoans.store :=
  ⟨by simp [noLoans], by simp [noLoans], by simp [noLoans], by simp [noLoans], by simp [noLoans]⟩

theorem no_loans_within_amount :
    Valid noLoans.store ∧
    ((∀ loan ∈ (run noLoans ([.issueLoan issueOne "loan"] ++
          [.recordRepayment repayHalf "repayment" true])).store.loans,
        repaidOf (run noLoans ([.issueLoan issueOne "loan"] ++
          [.recordRepayment repayHalf "repayment" true])).store loan.id ≤ loan.amount) ∧
      ∀ loan ∈ (run noLoans [.issueLoan issueOne "loan"]).store.loans,
        ∃ kept ∈ (run noLoans ([.issueLoan issueOne "loan"] ++
            [.recordRepayment repayHalf "repayment" true])).store.loans,
          kept.id = loan.id ∧
          kept.amount - repaidOf (run noLoans ([.issueLoan issueOne "loan"] ++
              [.recordRepayment repayHalf "repayment" true])).store kept.id ≤
            loan.amount - repaidOf (run noLoans [.issueLoan issueOne "loan"]).store loan.id) :=
  ⟨noLoans_valid, repayments_within_loan_amount noLoans noLoans_valid
    [.issueLoan issueOne "loan"] [.recordRepayment repayHalf "repayment" true]⟩

/-- What `issueOne` leaves in `noLoans`. -/
def freshLoan : System :=
  ⟨⟨["borrower", "lender"], [⟨"loan", "borrower", "lender", 1, 2, "USDC", none, .pending⟩], [],
    "loan-contract", 0⟩, [.loanUpdated "loan" .pending]⟩

theorem trimToNull_borrower : trimToNull (some "borrower") = some "borrower" := by decide

theorem trimToNull_lender : trimToNull (some "lender") = some "lender" := by decide

theorem trimToNull_loan : trimToNull (some "loan") = some "loan" := by decide

theorem textParameters_loan : textParameters ["loan"] = .ok () := by decide

theorem toSignificant_exact_small {value : ℚ} (places : ℕ) (n : ℤ) (grid : value = n / 10 ^ places)
    (nonneg : 0 ≤ value) (small : value < 10) (fits : places ≤ 19) :
    toSignificant decimalPrecision value = value :=
  toSignificant_of_onGrid ⟨n, grid⟩ (show |value| < 10 ^ 1 by rw [abs_of_nonneg nonneg]; simpa using small)
    (by unfold decimalPrecision; omega)

theorem issue_fresh_loan : run noLoans [.issueLoan issueOne "loan"] = freshLoan := by
  have one : roundHalfUp 7 1 = 1 := roundHalfUp_of_int (10 ^ 7) (by norm_num)
  have two : roundHalfUp 7 2 = 2 := roundHalfUp_of_int (2 * 10 ^ 7) (by norm_num)
  have ratio : Decimal.div 2 1 = 2 := by
    rw [Decimal.div, div_one]
    exact toSignificant_exact_small 0 2 (by norm_num) (by norm_num) (by norm_num) (by norm_num)
  have parties : "borrower" ≠ "lender" := by decide
  have configured : trim "loan-contract" ≠ "" := by decide
  have partyTexts : textParameters ["borrower", "lender"] = .ok () := by decide
  have assetText : textParameters ["USDC"] = .ok () := by decide
  norm_num [run, step, issueLoan, issueOne, noLoans, freshLoan, trimToNull_borrower, trimToNull_lender,
    parties, configured, throwIf, parsePositiveDecimal, parsePositive, ratio, minCollateralRatio,
    decimalColumn, one, two, Store.findLoan, orDefault, Except.mapError, partyTexts, assetText]

theorem fresh_loan_repayment {amount : ℚ} (positive : 0 < amount) (within : amount ≤ 1)
    (repaymentId : String) (commits : Bool) :
    recordRepayment freshLoan ⟨some "borrower", some "loan", some amount, .missing⟩ repaymentId commits =
      if commits then
        (.ok ⟨⟨repaymentId, "loan", roundHalfUp 7 amount, 0⟩, 1, Decimal.minus 1 amount,
            Decimal.minus 1 amount = 0, ⟨"loan", "borrower", "lender", 1, 2, "USDC", none,
              if Decimal.minus 1 amount = 0 then .repaid else .active⟩⟩,
          ⟨⟨["borrower", "lender"], [⟨"loan", "borrower", "lender", 1, 2, "USDC", none,
              if Decimal.minus 1 amount = 0 then .repaid else .active⟩],
            [⟨repaymentId, "loan", roundHalfUp 7 amount, 0⟩], "loan-contract", 0⟩,
            freshLoan.events ++
              [.loanUpdated "loan" (if Decimal.minus 1 amount = 0 then .repaid else .active)]⟩)
      else (.error (.store .transactionConflict), { freshLoan with events := freshLoan.events ++
        [.loanUpdated "loan" (if Decimal.minus 1 amount = 0 then .repaid else .active)] }) := by
  have stored : |roundHalfUp 7 amount| < 10 ^ 13 := by
    rw [abs_of_nonneg (roundHalfUp_nonneg _ positive.le)]
    exact lt_of_le_of_lt (roundHalfUp_le_of_onGrid positive.le within ⟨10 ^ 7, by norm_num⟩)
      (by norm_num)
  have owed : Decimal.minus 1 0 = 1 := by
    rw [Decimal.minus, sub_zero]
    exact toSignificant_exact_small 0 1 (by norm_num) (by norm_num) (by norm_num) (by norm_num)
  have unpaid : ¬ (1 : ℚ) ≤ 0 := by norm_num
  by_cases paid : Decimal.minus 1 amount = 0 <;> cases commits <;>
    simp [unpaid, paid, recordRepayment, validateRepayment, trimToNull_borrower, trimToNull_loan,
      parsePositiveDecimal, parsePositive, not_le.mpr positive, parsePaidAt, textParameters_loan,
      freshLoan, recordRepaymentTransaction, writeRepayment, Store.findLoan, Store.repaymentsOf, throwIf, owed, decimalColumn, stored,
      Store.setStatus, not_lt.mpr within, Except.mapError]

theorem roundHalfUp_almost_one : roundHalfUp 7 (99999996 / 10 ^ 8) = 1 := by
  rw [roundHalfUp, if_pos (by norm_num),
    show ⌊(99999996 / 10 ^ 8 : ℚ) * 10 ^ (7 : ℤ) + 1 / 2⌋ = 10 ^ 7 by rw [Int.floor_eq_iff]; norm_num]
  norm_num

theorem minus_almost_one : Decimal.minus 1 (99999996 / 10 ^ 8) = 4 / 10 ^ 8 := by
  rw [Decimal.minus, show (1 : ℚ) - 99999996 / 10 ^ 8 = 4 / 10 ^ 8 by norm_num]
  exact toSignificant_exact_small 8 4 (by norm_num) (by norm_num) (by norm_num) (by norm_num)

theorem plus_zero_one : Decimal.plus 0 1 = 1 := by
  rw [Decimal.plus, zero_add]
  exact toSignificant_exact_small 0 1 (by norm_num) (by norm_num) (by norm_num) (by norm_num)

theorem minus_one_one : Decimal.minus 1 1 = 0 := by
  simp [Decimal.minus, toSignificant]

theorem almost_full_repayment_stays_active :
    run noLoans [.issueLoan issueOne "loan"] = freshLoan ∧
    (recordRepayment freshLoan ⟨some "borrower", some "loan", some (99999996 / 10 ^ 8), .missing⟩
        "repayment" true).1 =
      .ok ⟨⟨"repayment", "loan", 1, 0⟩, 1, 4 / 10 ^ 8, false,
        ⟨"loan", "borrower", "lender", 1, 2, "USDC", none, .active⟩⟩ ∧
    repaidOf (recordRepayment freshLoan ⟨some "borrower", some "loan", some (99999996 / 10 ^ 8),
        .missing⟩ "repayment" true).2.store "loan" = 1 ∧
    ∀ amount, 0 < amount →
      (recordRepayment (recordRepayment freshLoan ⟨some "borrower", some "loan",
          some (99999996 / 10 ^ 8), .missing⟩ "repayment" true).2
        ⟨some "borrower", some "loan", some amount, .missing⟩ "second" true).1 =
        .error (.validationError "Loan is already fully repaid") := by
  rw [fresh_loan_repayment (by norm_num) (by norm_num)]
  simp only [minus_almost_one, roundHalfUp_almost_one]
  refine ⟨issue_fresh_loan, by simp, by simp [repaidOf, Store.repaymentsOf], fun amount positive => ?_⟩
  simp [recordRepayment, validateRepayment, trimToNull_borrower, trimToNull_loan,
    parsePositiveDecimal, parsePositive, not_le.mpr positive, parsePaidAt, textParameters_loan,
    recordRepaymentTransaction, writeRepayment,
    Store.findLoan, Store.repaymentsOf, throwIf, plus_zero_one, minus_one_one]

theorem minus_one_half : Decimal.minus 1 (1 / 2) = 1 / 2 := by
  rw [Decimal.minus, show (1 : ℚ) - 1 / 2 = 5 / 10 ^ 1 by norm_num]
  exact (toSignificant_exact_small 1 5 rfl (by norm_num) (by norm_num) (by norm_num)).trans
    (by norm_num)

theorem aborted_repayment_announced_active :
    run noLoans [.issueLoan issueOne "loan"] = freshLoan ∧
    recordRepayment freshLoan repayHalf "repayment" false =
      (.error (.store .transactionConflict),
        { freshLoan with events := freshLoan.events ++ [.loanUpdated "loan" .active] }) := by
  rw [repayHalf, fresh_loan_repayment (by norm_num) (by norm_num)]
  simp only [minus_one_half]
  exact ⟨issue_fresh_loan, by simp⟩

end Stellovault.LoanService
