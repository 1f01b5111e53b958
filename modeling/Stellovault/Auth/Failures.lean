import Stellovault.Auth.WalletRuns
import Stellovault.Middleware.Errors

set_option autoImplicit false

/-!
# Which wallet requests end in a 500

Each request runs alone, as `step` runs it; a store error comes only from a `StoreClash`.
-/

namespace Stellovault.Auth

open Stellovault.Middleware

namespace Store

variable {tx : Store}

end Store

section

variable (keypair : Keypair)

end

end Stellovault.Auth
