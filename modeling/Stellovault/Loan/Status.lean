import Stellovault.Loan.Repayments

set_option autoImplicit false

namespace Stellovault.LoanService

/-- A `REPAID` loan has repayments stored for the whole of its amount. -/
def Settled (store : Store) : Prop :=
  ∀ loan ∈ store.loans, loan.status = .repaid → loan.amount ≤ repaidOf store loan.id

/-- Every `REPAID` loan of `store` is still `REPAID` in `store'`. -/
def RepaidKept (store store' : Store) : Prop :=
  ∀ loan ∈ store.loans, loan.status = .repaid →
    ∃ kept ∈ store'.loans, kept.id = loan.id ∧ kept.status = .repaid

theorem RepaidKept.refl (store : Store) : RepaidKept store store :=
  fun loan member repaid => ⟨loan, member, rfl, repaid⟩

theorem RepaidKept.trans {store store' store'' : Store} (first : RepaidKept store store')
    (second : RepaidKept store' store'') : RepaidKept store store'' := by
  intro loan member repaid
  obtain ⟨kept, keptMember, sameId, keptRepaid⟩ := first loan member repaid
  obtain ⟨last, lastMember, lastId, lastRepaid⟩ := second kept keptMember keptRepaid
  exact ⟨last, lastMember, lastId.trans sameId, lastRepaid⟩

namespace Settled

variable {store : Store}

theorem addLoan (settled : Settled store) {loan : Loan} (pending : loan.status = .pending) :
    Settled { store with loans := store.loans ++ [loan] } ∧
      RepaidKept store { store with loans := store.loans ++ [loan] } := by
  refine ⟨fun other member repaid => ?_, fun other member repaid =>
    ⟨other, List.mem_append_left _ member, rfl, repaid⟩⟩
  rcases List.mem_append.mp member with old | added
  · exact settled other old repaid
  · rw [List.mem_singleton.mp added, pending] at repaid
    cases repaid

theorem commit (valid : Valid store) (settled : Settled store) {loan : Loan}
    (member : loan ∈ store.loans) {repayment : Repayment} {next : LoanStatus}
    (owner : repayment.loanId = loan.id) (nonneg : 0 ≤ repayment.amount)
    (owes : repaidOf store loan.id < loan.amount)
    (settles : next ≠ loan.status → next = .repaid →
      repayment.amount = loan.amount - repaidOf store loan.id) :
    let written := { store with repayments := store.repayments ++ [repayment] }
    let store' := if next ≠ loan.status then written.setStatus loan.id next else written
    Settled store' ∧ RepaidKept store store' := by
  intro written store'
  have other : ∀ old ∈ store.loans, old.status = .repaid → old.id ≠ loan.id := by
    intro old oldMember repaid same
    obtain rfl := List.inj_on_of_nodup_map valid.loanKeys oldMember member same
    exact absurd (settled old oldMember repaid) (not_le.mpr owes)
  have grows : ∀ loanId, repaidOf store loanId ≤ repaidOf written loanId := by
    intro loanId
    rw [repaidOf_append]
    split <;> linarith
  simp only [store']
  split
  next changed =>
    refine ⟨fun updated updatedMember repaid => ?_, fun old oldMember repaid =>
      ⟨old, List.mem_map.mpr ⟨old, oldMember, if_neg (other old oldMember repaid)⟩, rfl, repaid⟩⟩
    obtain ⟨old, oldMember, rfl⟩ := List.mem_map.mp updatedMember
    rw [repaidOf_setStatus]
    by_cases same : old.id = loan.id
    · obtain rfl := List.inj_on_of_nodup_map valid.loanKeys oldMember member same
      rw [if_pos same] at repaid ⊢
      rw [repaidOf_append, if_pos owner, settles changed repaid]
      linarith
    · rw [if_neg same] at repaid ⊢
      exact (settled old oldMember repaid).trans (grows old.id)
  next =>
    exact ⟨fun old oldMember repaid => (settled old oldMember repaid).trans (grows old.id),
      fun old oldMember repaid => ⟨old, oldMember, rfl, repaid⟩⟩

end Settled

theorem step_settled {sys : System} (valid : Valid sys.store) (settled : Settled sys.store)
    (action : Action) :
    Settled (step sys action).store ∧ RepaidKept sys.store (step sys action).store := by
  cases step_effect valid action with
  | unchanged loans repayments =>
    have repaid : ∀ loanId, repaidOf (step sys action).store loanId = repaidOf sys.store loanId := by
      simp [repaidOf, Store.repaymentsOf, repayments]
    exact ⟨fun loan member => by simpa [repaid] using settled loan (loans ▸ member),
      fun loan member repaid => ⟨loan, loans ▸ member, rfl, repaid⟩⟩
  | issued loan pending _ _ _ _ stored =>
    rw [stored]
    exact settled.addLoan pending
  | repaid loan member repayment next _ owner _ nonneg owes _ settles stored =>
    rw [stored]
    exact settled.commit valid member owner nonneg owes settles

theorem run_settled (actions : List Action) {sys : System} (valid : Valid sys.store)
    (settled : Settled sys.store) :
    Settled (run sys actions).store ∧ RepaidKept sys.store (run sys actions).store := by
  induction actions generalizing sys with
  | nil => exact ⟨settled, .refl _⟩
  | cons action rest ih =>
    have first := step_settled valid settled action
    have later := ih (step_valid valid action).1 first.1
    exact ⟨later.1, first.2.trans later.2⟩

theorem repaid_loan_stays_repaid (sys : System) (valid : Valid sys.store)
    (settled : Settled sys.store) (earlier later : List Action) (loan : Loan)
    (member : loan ∈ (run sys earlier).store.loans) (repaid : loan.status = .repaid) :
    ∃ kept ∈ (run sys (earlier ++ later)).store.loans, kept.id = loan.id ∧
      kept.status = .repaid ∧ repaidOf (run sys (earlier ++ later)).store kept.id = kept.amount := by
  have before := run_valid earlier valid
  rw [run_append]
  obtain ⟨settledAfter, kept⟩ := run_settled later before.1 (run_settled earlier valid settled).1
  obtain ⟨kept, keptMember, sameId, keptRepaid⟩ := kept loan member repaid
  exact ⟨kept, keptMember, sameId, keptRepaid, le_antisymm
    ((run_valid later before.1).1.bounded kept keptMember) (settledAfter kept keptMember keptRepaid)⟩

/-- A repayment of the whole of `freshLoan`. -/
def repayAll : RecordRepaymentRequest := ⟨some "borrower", some "loan", some 1, .missing⟩

theorem repay_fresh_loan :
    run noLoans [.issueLoan issueOne "loan", .recordRepayment repayAll "repayment" true] =
      ⟨⟨["borrower", "lender"], [⟨"loan", "borrower", "lender", 1, 2, "USDC", none, .repaid⟩],
        [⟨"repayment", "loan", 1, 0⟩], "loan-contract", 0⟩,
        [.loanUpdated "loan" .pending, .loanUpdated "loan" .repaid]⟩ := by
  show run (run noLoans [.issueLoan issueOne "loan"]) [.recordRepayment repayAll "repayment" true] = _
  rw [issue_fresh_loan]
  show (recordRepayment freshLoan repayAll "repayment" true).2 = _
  have one : roundHalfUp 7 1 = 1 := roundHalfUp_of_int (10 ^ 7) (by norm_num)
  rw [repayAll, fresh_loan_repayment (by norm_num) le_rfl]
  simp [minus_one_one, one, freshLoan]

theorem full_repayment_stays_repaid :
    Valid noLoans.store ∧ Settled noLoans.store ∧
    (⟨"loan", "borrower", "lender", 1, 2, "USDC", none, .repaid⟩ : Loan) ∈
      (run noLoans [.issueLoan issueOne "loan", .recordRepayment repayAll "repayment" true]).store.loans ∧
    (⟨"loan", "borrower", "lender", 1, 2, "USDC", none, .repaid⟩ : Loan).status = .repaid ∧
    ∃ kept ∈ (run noLoans ([.issueLoan issueOne "loan", .recordRepayment repayAll "repayment" true] ++
        [.recordRepayment repayHalf "second" true])).store.loans,
      kept.id = "loan" ∧ kept.status = .repaid ∧
      repaidOf (run noLoans ([.issueLoan issueOne "loan", .recordRepayment repayAll "repayment" true] ++
        [.recordRepayment repayHalf "second" true])).store kept.id = kept.amount :=
  have valid : Valid noLoans.store :=
    ⟨by simp [noLoans], by simp [noLoans], by simp [noLoans], by simp [noLoans], by simp [noLoans]⟩
  have settled : Settled noLoans.store := by simp [Settled, noLoans]
  have member : (⟨"loan", "borrower", "lender", 1, 2, "USDC", none, .repaid⟩ : Loan) ∈
      (run noLoans [.issueLoan issueOne "loan", .recordRepayment repayAll "repayment" true]).store.loans := by
    simp [repay_fresh_loan]
  ⟨valid, settled, member, rfl, repaid_loan_stays_repaid noLoans valid settled
    [.issueLoan issueOne "loan", .recordRepayment repayAll "repayment" true]
    [.recordRepayment repayHalf "second" true] _ member rfl⟩

/-- Every `DEFAULTED` loan of `store` is in `store'` as it was, with the same repayments. -/
def DefaultedKept (store store' : Store) : Prop :=
  ∀ loan ∈ store.loans, loan.status = .defaulted →
    loan ∈ store'.loans ∧ store'.repaymentsOf loan.id = store.repaymentsOf loan.id

theorem DefaultedKept.refl (store : Store) : DefaultedKept store store :=
  fun _ member _ => ⟨member, rfl⟩

theorem DefaultedKept.trans {store store' store'' : Store} (first : DefaultedKept store store')
    (second : DefaultedKept store' store'') : DefaultedKept store store'' := by
  intro loan member defaulted
  obtain ⟨kept, same⟩ := first loan member defaulted
  obtain ⟨last, lastSame⟩ := second loan kept defaulted
  exact ⟨last, lastSame.trans same⟩

theorem step_defaultedKept {sys : System} (valid : Valid sys.store) (action : Action) :
    DefaultedKept sys.store (step sys action).store := by
  cases step_effect valid action with
  | unchanged loans repayments =>
    exact fun loan member _ => ⟨loans ▸ member, by simp [Store.repaymentsOf, repayments]⟩
  | issued loan _ _ _ _ _ stored =>
    rw [stored]
    exact fun old member _ => ⟨List.mem_append_left _ member, rfl⟩
  | repaid loan member repayment next live owner _ _ _ _ _ stored =>
    rw [stored]
    intro old oldMember defaulted
    have other : old.id ≠ loan.id := fun same => live (by
      obtain rfl := List.inj_on_of_nodup_map valid.loanKeys oldMember member same
      exact defaulted)
    have repayments : ({ sys.store with repayments := sys.store.repayments ++ [repayment] } :
        Store).repaymentsOf old.id = sys.store.repaymentsOf old.id := by
      simp [Store.repaymentsOf, owner, Ne.symm other]
    split
    · exact ⟨List.mem_map.mpr ⟨old, oldMember, if_neg other⟩, repayments⟩
    · exact ⟨oldMember, repayments⟩

theorem run_defaultedKept (actions : List Action) {sys : System} (valid : Valid sys.store) :
    DefaultedKept sys.store (run sys actions).store := by
  induction actions generalizing sys with
  | nil => exact .refl _
  | cons action rest ih =>
    exact (step_defaultedKept valid action).trans (ih (step_valid valid action).1)

theorem defaulted_loan_frozen (sys : System) (valid : Valid sys.store) (earlier later : List Action)
    (loan : Loan) (member : loan ∈ (run sys earlier).store.loans)
    (defaulted : loan.status = .defaulted) :
    loan ∈ (run sys (earlier ++ later)).store.loans ∧
      (run sys (earlier ++ later)).store.repaymentsOf loan.id =
        (run sys earlier).store.repaymentsOf loan.id := by
  rw [run_append]
  exact run_defaultedKept later (run_valid earlier valid).1 loan member defaulted

/-- A loan of 1 in default. -/
def defaultedLoan : System :=
  ⟨⟨["borrower", "lender"], [⟨"loan", "borrower", "lender", 1, 2, "USDC", none, .defaulted⟩], [],
    "loan-contract", 0⟩, []⟩

theorem repayment_leaves_defaulted_loan :
    Valid defaultedLoan.store ∧
    (⟨"loan", "borrower", "lender", 1, 2, "USDC", none, .defaulted⟩ : Loan) ∈
      (run defaultedLoan []).store.loans ∧
    (⟨"loan", "borrower", "lender", 1, 2, "USDC", none, .defaulted⟩ : Loan).status = .defaulted ∧
    ((⟨"loan", "borrower", "lender", 1, 2, "USDC", none, .defaulted⟩ : Loan) ∈
        (run defaultedLoan ([] ++ [.recordRepayment repayHalf "repayment" true])).store.loans ∧
      (run defaultedLoan ([] ++ [.recordRepayment repayHalf "repayment" true])).store.repaymentsOf "loan" =
        (run defaultedLoan []).store.repaymentsOf "loan") :=
  have valid : Valid defaultedLoan.store :=
    ⟨by simp [defaultedLoan],
      by simpa [defaultedLoan] using
        And.intro (⟨10 ^ 7, by norm_num⟩ : OnGrid 7 1) (by norm_num : (1 : ℚ) < 10 ^ 13),
      by simp [defaultedLoan], by simp [defaultedLoan],
      by simp [defaultedLoan, repaidOf, Store.repaymentsOf]⟩
  ⟨valid, List.mem_singleton_self _, rfl, defaulted_loan_frozen defaultedLoan valid []
    [.recordRepayment repayHalf "repayment" true] _ (List.mem_singleton_self _) rfl⟩

end Stellovault.LoanService
