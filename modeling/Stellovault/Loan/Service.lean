import Stellovault.Shared.Decimal

set_option autoImplicit false

/-!
# The loan service

`recordRepayment` is one serializable transaction, so one step; whether it commits is an input.
-/

namespace Stellovault.LoanService

inductive LoanStatus where
  | pending
  | active
  | repaid
  | defaulted
  deriving DecidableEq, Repr

structure Loan where
  id : String
  borrowerId : String
  lenderId : String
  amount : ℚ
  collateralAmt : ℚ
  assetCode : String
  escrowAddress : Option String
  status : LoanStatus
  deriving DecidableEq

structure Repayment where
  id : String
  loanId : String
  amount : ℚ
  /-- Milliseconds from the epoch. -/
  paidAt : Int
  deriving DecidableEq

structure Store where
  /-- The ids of the `User` rows. -/
  users : List String
  loans : List Loan
  repayments : List Repayment
  /-- `contracts.loan`. -/
  loanContractId : String
  now : Nat

inductive Event where
  | loanUpdated (loanId : String) (status : LoanStatus)
  deriving DecidableEq, Repr

structure System where
  store : Store
  events : List Event

/-- `IssueLoanRequest`; a decimal field is `new Decimal(value)`, `none` when that throws or is not
finite. -/
structure IssueLoanRequest where
  requestingUserId : Option String
  borrowerId : Option String
  lenderId : Option String
  amount : Option ℚ
  assetCode : Option String
  collateralAmt : Option ℚ
  escrowAddress : Option String

structure RecordRepaymentRequest where
  requestingUserId : Option String
  loanId : Option String
  amount : Option ℚ
  paidAt : DateInput

/-- What `issueLoan` returns. -/
structure IssueLoanResult where
  loanId : String
  xdr : String
  loan : Loan

/-- What `recordRepayment` returns. -/
structure RepaymentResult where
  repayment : Repayment
  outstandingBefore : ℚ
  outstandingAfter : ℚ
  fullyRepaid : Bool
  loan : Loan

inductive Action where
  | issueLoan (payload : IssueLoanRequest) (loanId : String)
  /-- `commits` is false when the database aborts the transaction as it commits. -/
  | recordRepayment (payload : RecordRepaymentRequest) (repaymentId : String) (commits : Bool)
  | elapse (milliseconds : Nat)

def minCollateralRatio : ℚ := 3 / 2

def parsePositiveDecimal (value : Option ℚ) (fieldName : String) : Except AppError ℚ :=
  parsePositive value fieldName

namespace Store

variable (tx : Store)

def findLoan (loanId : String) : Option Loan := tx.loans.find? (·.id = loanId)

def repaymentsOf (loanId : String) : List Repayment := tx.repayments.filter (·.loanId = loanId)

/-- `loan.update({ where: { id }, data: { status } })`. -/
def setStatus (loanId : String) (status : LoanStatus) : Store :=
  { tx with loans := tx.loans.map fun loan => if loan.id = loanId then { loan with status := status } else loan }

end Store

def issueLoan (sys : System) (payload : IssueLoanRequest) (loanId : String) :
    Except AppError (IssueLoanResult × System) := do
  let some requestingUserId := trimToNull payload.requestingUserId
    | throw (.validationError "requestingUserId is required")
  let some borrowerId := trimToNull payload.borrowerId
    | throw (.validationError "borrowerId is required")
  let some lenderId := trimToNull payload.lenderId
    | throw (.validationError "lenderId is required")
  throwIf (borrowerId = lenderId) (.validationError "Borrower and lender must be different")
  throwIf (requestingUserId ≠ borrowerId ∧ requestingUserId ≠ lenderId)
    (.forbiddenError "Only the borrower or lender can create this loan")
  let amount ← parsePositiveDecimal payload.amount "amount"
  let collateralAmt ← parsePositiveDecimal payload.collateralAmt "collateralAmt"
  throwIf (Decimal.div collateralAmt amount < minCollateralRatio)
    (.validationError "Collateral ratio must be at least 1.50")
  textParameters [borrowerId, lenderId]
  throwIf (¬ (borrowerId ∈ sys.store.users ∧ lenderId ∈ sys.store.users))
    (.validationError "borrowerId or lenderId does not exist")
  throwIf (trim sys.store.loanContractId = "") (.validationError "LOAN_CONTRACT_ID not configured")
  let assetCode := orDefault payload.assetCode "USDC"
  let escrowAddress := payload.escrowAddress.filter (· ≠ "")
  let xdr := buildContractInvokeXDR (trim sys.store.loanContractId) "issue_loan"
    (borrowerId :: lenderId :: assetCode :: escrowAddress.toList)
  textParameters (assetCode :: escrowAddress.toList)
  throwIf (sys.store.findLoan loanId).isSome (.store (.uniqueViolation "Loan_pkey"))
  let storedAmount ← (decimalColumn "amount" amount).mapError .store
  let storedCollateral ← (decimalColumn "collateralAmt" collateralAmt).mapError .store
  let loan : Loan :=
    ⟨loanId, borrowerId, lenderId, storedAmount, storedCollateral, assetCode, escrowAddress, .pending⟩
  return (⟨loan.id, xdr, loan⟩, ⟨{ sys.store with loans := sys.store.loans ++ [loan] },
    sys.events ++ [.loanUpdated loan.id loan.status]⟩)

/-- The body of the transaction up to the status update: the repayment row written, the two
balances and the status to write. -/
def writeRepayment (tx : Store) (requestingUserId loanId : String) (amount : ℚ)
    (paidAt : Option Int) (repaymentId : String) :
    Except AppError (Loan × Repayment × ℚ × ℚ × LoanStatus × Store) := do
  textParameters [loanId]
  let some loan := tx.findLoan loanId | throw (.notFoundError "Loan not found")
  throwIf (requestingUserId ≠ loan.borrowerId ∧ requestingUserId ≠ loan.lenderId)
    (.forbiddenError "Only the borrower or lender can record repayments")
  throwIf (loan.status = .defaulted) (.validationError "Cannot record repayment for a defaulted loan")
  let totalRepaid := (tx.repaymentsOf loanId).foldl (fun sum repayment => Decimal.plus sum repayment.amount) 0
  let outstandingBefore := Decimal.minus loan.amount totalRepaid
  throwIf (outstandingBefore ≤ 0) (.validationError "Loan is already fully repaid")
  throwIf (amount > outstandingBefore) (.validationError "Repayment exceeds outstanding balance")
  throwIf (paidAt.any (· < minTimestamp)) (.store .timestampOutOfRange)
  throwIf (tx.repayments.any (·.id = repaymentId)) (.store (.uniqueViolation "Repayment_pkey"))
  let stored ← (decimalColumn "amount" amount).mapError .store
  let repayment : Repayment := ⟨repaymentId, loanId, stored, paidAt.getD tx.now⟩
  let tx := { tx with repayments := tx.repayments ++ [repayment] }
  let outstandingAfter := Decimal.minus outstandingBefore amount
  let nextStatus := if outstandingAfter = 0 then .repaid
    else if loan.status = .pending then .active else loan.status
  return (loan, repayment, outstandingBefore, outstandingAfter, nextStatus, tx)

/-- The transaction body: its result, and the events it broadcast on the way. -/
def recordRepaymentTransaction (tx : Store) (requestingUserId loanId : String) (amount : ℚ)
    (paidAt : Option Int) (repaymentId : String) :
    Except AppError (RepaymentResult × Store) × List Event :=
  match writeRepayment tx requestingUserId loanId amount paidAt repaymentId with
  | .error error => (.error error, [])
  | .ok (loan, repayment, outstandingBefore, outstandingAfter, nextStatus, tx) =>
    let published := if nextStatus ≠ loan.status then [Event.loanUpdated loanId nextStatus] else []
    let tx := if nextStatus ≠ loan.status then tx.setStatus loanId nextStatus else tx
    match tx.findLoan loanId with
    | none => (.error (.notFoundError "Loan not found"), published)
    | some updatedLoan =>
      (.ok (⟨repayment, outstandingBefore, outstandingAfter, outstandingAfter = 0, updatedLoan⟩, tx),
        published)

/-- `payload.paidAt`: absent leaves the column to its default. -/
def parsePaidAt (value : DateInput) : Except AppError (Option Int) :=
  match value with
  | .missing => .ok none
  | .invalid => .error (.validationError "paidAt must be a valid date")
  | .at milliseconds =>
    match timeClip milliseconds with
    | some time => .ok (some time)
    | none => .error (.validationError "paidAt must be a valid date")

/-- The checks `recordRepayment` makes before it opens the transaction. -/
def validateRepayment (payload : RecordRepaymentRequest) :
    Except AppError (String × String × ℚ × Option Int) := do
  let some requestingUserId := trimToNull payload.requestingUserId
    | throw (.validationError "requestingUserId is required")
  let some loanId := trimToNull payload.loanId | throw (.validationError "loanId is required")
  let amount ← parsePositiveDecimal payload.amount "amount"
  let paidAt ← parsePaidAt payload.paidAt
  return (requestingUserId, loanId, amount, paidAt)

def recordRepayment (sys : System) (payload : RecordRepaymentRequest) (repaymentId : String)
    (commits : Bool) : Except AppError RepaymentResult × System :=
  match validateRepayment payload with
  | .error error => (.error error, sys)
  | .ok (requestingUserId, loanId, amount, paidAt) =>
    match recordRepaymentTransaction sys.store requestingUserId loanId amount paidAt repaymentId with
    | (.error error, published) => (.error error, { sys with events := sys.events ++ published })
    | (.ok (result, tx), published) =>
      if commits then (.ok result, ⟨tx, sys.events ++ published⟩)
      else (.error (.store .transactionConflict), { sys with events := sys.events ++ published })

def step (sys : System) : Action → System
  | .issueLoan payload loanId =>
    match issueLoan sys payload loanId with
    | .ok (_, sys') => sys'
    | .error _ => sys
  | .recordRepayment payload repaymentId commits => (recordRepayment sys payload repaymentId commits).2
  | .elapse milliseconds => { sys with store.now := sys.store.now + milliseconds }

def run (sys : System) (actions : List Action) : System := actions.foldl step sys

end Stellovault.LoanService
