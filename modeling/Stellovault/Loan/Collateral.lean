import Stellovault.Loan.Repayments

set_option autoImplicit false

/-!
# The collateral ratio check of `issueLoan`

`collateralAmt.div(amount)` is rounded to twenty significant digits before it is compared.
-/

namespace Stellovault.LoanService

theorem div_lt_minCollateralRatio_iff {collateralAmt amount : ℚ} (amountPositive : 0 < amount)
    (collateralPositive : 0 < collateralAmt) :
    Decimal.div collateralAmt amount < minCollateralRatio ↔
      collateralAmt / amount < minCollateralRatio - 5 / 10 ^ 20 := by
  have positive : 0 < collateralAmt / amount := div_pos collateralPositive amountPositive
  have rounded := @toSignificant_of_ne_zero decimalPrecision _ positive.ne'
  rw [abs_of_pos positive] at rounded
  unfold Decimal.div minCollateralRatio
  obtain below | zero | above : Int.log 10 (collateralAmt / amount) < 0 ∨
      Int.log 10 (collateralAmt / amount) = 0 ∨ 0 < Int.log 10 (collateralAmt / amount) := by omega
  · -- Below one: rounded at twenty places or more, to at most one.
    have small : collateralAmt / amount < 1 := by
      simpa using (Int.lt_zpow_iff_log_lt (b := 10) (by norm_num) positive).mpr below
    refine iff_of_true ?_ (by linarith)
    rw [rounded]
    exact lt_of_le_of_lt (roundHalfUp_le_one (by unfold decimalPrecision; omega) positive.le small.le)
      (by norm_num)
  · -- Between one and ten: rounded at nineteen places.
    rw [rounded, zero, roundHalfUp_lt_iff positive.le (15 * 10 ^ 18) (by norm_num [decimalPrecision])]
    norm_num [decimalPrecision]
  · -- Ten or more: never rounded below ten.
    have large : (10 : ℚ) ≤ collateralAmt / amount := by
      simpa using (Int.zpow_le_iff_le_log (b := 10) (by norm_num) positive).mpr above
    refine iff_of_false (not_lt.mpr ?_) (by linarith)
    calc (3 / 2 : ℚ) ≤ 10 ^ (1 : ℤ) := by norm_num
      _ ≤ 10 ^ Int.log 10 (collateralAmt / amount) := zpow_le_zpow_right₀ (by norm_num) above
      _ ≤ toSignificant decimalPrecision (collateralAmt / amount) :=
        zpow_log_le_toSignificant (by decide) positive

theorem collateral_check_rejects_iff (sys : System) (payload : IssueLoanRequest) (loanId : String)
    {requestingUserId borrowerId lenderId : String} {amount collateralAmt : ℚ}
    (requester : trimToNull payload.requestingUserId = some requestingUserId)
    (borrower : trimToNull payload.borrowerId = some borrowerId)
    (lender : trimToNull payload.lenderId = some lenderId) (distinct : borrowerId ≠ lenderId)
    (party : requestingUserId = borrowerId ∨ requestingUserId = lenderId)
    (amountGiven : payload.amount = some amount) (amountPositive : 0 < amount)
    (collateralGiven : payload.collateralAmt = some collateralAmt)
    (collateralPositive : 0 < collateralAmt) :
    issueLoan sys payload loanId = .error (.validationError "Collateral ratio must be at least 1.50") ↔
      collateralAmt / amount < minCollateralRatio - 5 / 10 ^ 20 := by
  rw [← div_lt_minCollateralRatio_iff amountPositive collateralPositive]
  have parties : ¬ (requestingUserId ≠ borrowerId ∧ requestingUserId ≠ lenderId) := by tauto
  simp only [issueLoan, requester, borrower, lender, amountGiven, collateralGiven,
    parsePositiveDecimal, parsePositive, not_le.mpr amountPositive, not_le.mpr collateralPositive,
    throwIf_bind_error, distinct, parties, false_and, true_and, not_false_eq_true, false_or,
    except_ok_bind, if_false]
  -- Every later failure is a store error or another message.
  cases decimalColumn "amount" amount <;> cases decimalColumn "collateralAmt" collateralAmt <;>
    simp [Except.mapError, throwIf_bind_error, textParameters]

/-- A loan of 6666666666666.6666665 against 9999999999999.9999997: both fit `DECIMAL(20,7)`, and
the collateral is 0.00000005 short of 1.5 times the amount. -/
def tightLoan : IssueLoanRequest :=
  ⟨some "borrower", some "borrower", some "lender", some (66666666666666666665 / 10 ^ 7), none,
    some (99999999999999999997 / 10 ^ 7), none⟩

theorem tight_loan_collateral_check :
    trimToNull tightLoan.requestingUserId = some "borrower" ∧
      trimToNull tightLoan.borrowerId = some "borrower" ∧
      trimToNull tightLoan.lenderId = some "lender" ∧ "borrower" ≠ "lender" ∧
      ("borrower" = "borrower" ∨ "borrower" = "lender") ∧
      tightLoan.amount = some (66666666666666666665 / 10 ^ 7) ∧ (0 : ℚ) < 66666666666666666665 / 10 ^ 7 ∧
      tightLoan.collateralAmt = some (99999999999999999997 / 10 ^ 7) ∧
      (0 : ℚ) < 99999999999999999997 / 10 ^ 7 ∧
      (issueLoan noLoans tightLoan "loan" =
          .error (.validationError "Collateral ratio must be at least 1.50") ↔
        (99999999999999999997 / 10 ^ 7 : ℚ) / (66666666666666666665 / 10 ^ 7) <
          minCollateralRatio - 5 / 10 ^ 20) :=
  ⟨trimToNull_borrower, trimToNull_borrower, trimToNull_lender, by decide, Or.inl rfl, rfl,
    by norm_num, rfl, by norm_num,
    collateral_check_rejects_iff noLoans tightLoan "loan" trimToNull_borrower trimToNull_borrower
      trimToNull_lender (by decide) (Or.inl rfl) rfl (by norm_num) rfl (by norm_num)⟩

theorem undercollateralized_loan_issued :
    (99999999999999999997 / 10 ^ 7 : ℚ) < minCollateralRatio * (66666666666666666665 / 10 ^ 7) ∧
    (issueLoan noLoans tightLoan "loan").map (·.1.loan) =
      .ok ⟨"loan", "borrower", "lender", 66666666666666666665 / 10 ^ 7,
        99999999999999999997 / 10 ^ 7, "USDC", none, .pending⟩ := by
  have accepted : ¬ Decimal.div (99999999999999999997 / 10 ^ 7) (66666666666666666665 / 10 ^ 7) <
      minCollateralRatio := by
    rw [div_lt_minCollateralRatio_iff (by norm_num) (by norm_num)]
    norm_num [minCollateralRatio]
  have amountStored : roundHalfUp 7 (66666666666666666665 / 10 ^ 7) = 66666666666666666665 / 10 ^ 7 :=
    roundHalfUp_of_onGrid ⟨66666666666666666665, by norm_num⟩
  have collateralStored :
      roundHalfUp 7 (99999999999999999997 / 10 ^ 7) = 99999999999999999997 / 10 ^ 7 :=
    roundHalfUp_of_onGrid ⟨99999999999999999997, by norm_num⟩
  have parties : "borrower" ≠ "lender" := by decide
  have configured : trim "loan-contract" ≠ "" := by decide
  have partyTexts : textParameters ["borrower", "lender"] = .ok () := by decide
  have assetText : textParameters ["USDC"] = .ok () := by decide
  have amountFits : |(66666666666666666665 / 10 ^ 7 : ℚ)| < 10 ^ 13 := by
    rw [abs_of_pos (by norm_num)]; norm_num
  have collateralFits : |(99999999999999999997 / 10 ^ 7 : ℚ)| < 10 ^ 13 := by
    rw [abs_of_pos (by norm_num)]; norm_num
  have amountPositive : ¬ (66666666666666666665 / 10 ^ 7 : ℚ) ≤ 0 := by norm_num
  have collateralPositive : ¬ (99999999999999999997 / 10 ^ 7 : ℚ) ≤ 0 := by norm_num
  refine ⟨by norm_num [minCollateralRatio], ?_⟩
  simp only [issueLoan, tightLoan, noLoans, trimToNull_borrower, trimToNull_lender, throwIf,
    parsePositiveDecimal, parsePositive, amountPositive, collateralPositive, except_ok_bind, accepted,
    decimalColumn, amountStored, collateralStored, amountFits, collateralFits, if_false, if_true]
  simp [parties, configured, partyTexts, assetText, Store.findLoan, orDefault, Except.mapError,
    Except.map]

end Stellovault.LoanService
