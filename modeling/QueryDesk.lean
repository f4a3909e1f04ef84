import QueryDesk.Otp.Checking
import QueryDesk.Otp.Code
import QueryDesk.Otp.Transaction
import QueryDesk.Service.Api
import QueryDesk.Service.Gateway
import QueryDesk.Store.Schema
import QueryDesk.Proofs.Http.Traced
import QueryDesk.Proofs.Listing.Ascending
import QueryDesk.Proofs.Listing.Complements
import QueryDesk.Proofs.Listing.Confinement
import QueryDesk.Proofs.Listing.Paginated
import QueryDesk.Proofs.Listing.Ready
import QueryDesk.Proofs.Listing.Searched
import QueryDesk.Proofs.Listing.Shape
import QueryDesk.Proofs.Listing.Views
import QueryDesk.Proofs.Listing.WholeNumbers
import QueryDesk.Proofs.Mail.CodeLetter
import QueryDesk.Proofs.Number.Denoted
import QueryDesk.Proofs.Otp.Acceptance
import QueryDesk.Proofs.Otp.Addressed
import QueryDesk.Proofs.Otp.AllOrNothing
import QueryDesk.Proofs.Otp.Consumption
import QueryDesk.Proofs.Otp.GuessBound
import QueryDesk.Proofs.Otp.Separation
import QueryDesk.Proofs.Plan.Denotation
import QueryDesk.Proofs.Query.Merged
import QueryDesk.Proofs.Query.Tokens
import QueryDesk.Proofs.Startup
import QueryDesk.Proofs.Token.RoundTrip
import QueryDesk.Proofs.Value.Plain
