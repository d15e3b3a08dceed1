import Parley.Conversation.Title
import Parley.Page.InMemory
import Parley.Service.Server
import Parley.Proofs.Page.Order
import Parley.Proofs.Page.View
import Parley.Proofs.Page.Walk
import Parley.Proofs.Store.Token
import Parley.Proofs.Store.Reading
import Parley.Proofs.Store.Meaning
import Parley.Proofs.Store.Refinement
import Parley.Proofs.Account.FailureHistory
import Parley.Proofs.Service.Access
import Parley.Proofs.Service.Login
import Parley.Proofs.Service.LoginLimit
import Parley.Proofs.Service.PageSource
import Parley.Proofs.Page.ChangingWalk
import Parley.Proofs.Store.Change
import Parley.Proofs.Conversation.Renaming
import Parley.Proofs.Service.RefreshToken
import Parley.Account.SharedLimiter
import Parley.Proofs.Account.SlidingWindow
import Parley.Proofs.Json.Written
import Parley.Proofs.Text.Base64Url
import Parley.Proofs.Json.RoundTrip
import Parley.Proofs.Passport.Claims
import Parley.Proofs.Passport.Token
import Parley.Proofs.Service.ErrorContract
import Parley.Proofs.Service.IssuedPassport
import Parley.Proofs.Page.HiddenRecords
import Parley.Proofs.Conversation.Ownership
import Parley.Proofs.Service.Unauthenticated
import Parley.Proofs.Store.Placeholder
import Parley.Proofs.Service.StatementPlan
import Parley.Proofs.Page.Cut
import Parley.Proofs.Account.Isolation
import Parley.Proofs.Account.Retention
import Parley.Proofs.Service.ConcurrentLogins
import Parley.Proofs.Conversation.Json
import Parley.Proofs.Service.Listing
import Parley.Proofs.Page.BothDirections
import Parley.Proofs.Conversation.Pinned
import Parley.Proofs.Text.Hex
import Parley.Proofs.Account.Password
import Parley.Proofs.Service.LoginDecision
import Parley.Proofs.Http.Bearer
import Parley.Proofs.Passport.Transport
import Parley.Proofs.Text.Words
import Parley.Proofs.Conversation.Title
import Parley.Proofs.Text.Numeral
import Parley.Proofs.Settings
import Parley.Proofs.Service.AppCode
import Parley.Proofs.Service.Naming
import Parley.Proofs.Service.AddressSpelling
import Parley.Proofs.Text.FormData
import Parley.Proofs.Service.ListingQuery
import Parley.Proofs.Service.Lifetimes
