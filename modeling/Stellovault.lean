import Stellovault.Shared.Runtime
import Stellovault.Shared.Decimal
import Stellovault.Auth.Store
import Stellovault.Auth.Signature
import Stellovault.Auth.Service
import Stellovault.Auth.PrimaryWallet
import Stellovault.Auth.WalletRuns
import Stellovault.Auth.Challenges
import Stellovault.Auth.Isolation
import Stellovault.Escrow.Machine
import Stellovault.Escrow.Transitions
import Stellovault.Escrow.Listing
import Stellovault.Loan.Service
import Stellovault.Loan.Repayments
import Stellovault.Loan.Status
import Stellovault.Loan.Collateral
import Stellovault.Governance.Votes
import Stellovault.Frontend.AuthRoutes
import Stellovault.Middleware.RateLimit
import Stellovault.Realtime.Messages
import Stellovault.Realtime.Connections
import Stellovault.Frontend.Session
import Stellovault.Governance.Tally
import Stellovault.Auth.Profile
import Stellovault.Escrow.Xdr
import Stellovault.Middleware.Errors
import Stellovault.Auth.Failures
import Stellovault.Realtime.Server
import Stellovault.Escrow.Failures
import Stellovault.Loan.Failures
