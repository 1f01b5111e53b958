import Stellovault.Loan.Repayments
import Stellovault.Middleware.Errors

set_option autoImplicit false

/-!
# Which loan requests end in a 500
-/

namespace Stellovault.LoanService

open Stellovault.Middleware

end Stellovault.LoanService
