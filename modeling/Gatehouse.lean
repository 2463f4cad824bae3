import Gatehouse.Account.Accounts
import Gatehouse.Account.Command
import Gatehouse.Account.Password
import Gatehouse.Account.Profile
import Gatehouse.Account.Role
import Gatehouse.Account.User
import Gatehouse.Auth.Authenticate
import Gatehouse.Auth.SignIn
import Gatehouse.Calendar.Date
import Gatehouse.Calendar.DateTime
import Gatehouse.Calendar.Iso
import Gatehouse.Config.Basic
import Gatehouse.Config.EnvFile
import Gatehouse.Config.ListSetting
import Gatehouse.Config.Sections
import Gatehouse.Fault
import Gatehouse.Hash.Hmac
import Gatehouse.Hash.Sha2
import Gatehouse.Http.Body
import Gatehouse.Http.Cors
import Gatehouse.Http.ErrorReport
import Gatehouse.Http.Exchange
import Gatehouse.Http.Framework
import Gatehouse.Http.Receipt
import Gatehouse.Http.Request
import Gatehouse.Http.Response
import Gatehouse.Http.Route
import Gatehouse.Http.Service
import Gatehouse.Json.Basic
import Gatehouse.Json.Display
import Gatehouse.Json.Parser
import Gatehouse.Json.Printer
import Gatehouse.Log.Record
import Gatehouse.Log.Redaction
import Gatehouse.Log.Template
import Gatehouse.Main
import Gatehouse.Monitoring.Client
import Gatehouse.Monitoring.Scrub
import Gatehouse.Number.Binary64
import Gatehouse.Number.Precision
import Gatehouse.Number.Rounding
import Gatehouse.Number.Shortest
import Gatehouse.PersonalToken.Record
import Gatehouse.PersonalToken.Registry
import Gatehouse.Platform
import Gatehouse.Schema.Checked
import Gatehouse.Schema.Object
import Gatehouse.Schema.Scalar
import Gatehouse.Schema.Time
import Gatehouse.Session.Configured
import Gatehouse.Session.Cookie
import Gatehouse.Session.Manager
import Gatehouse.Session.Written
import Gatehouse.Store.Connection
import Gatehouse.Store.KeyValue
import Gatehouse.Store.Settings
import Gatehouse.Table
import Gatehouse.Text.AnyText
import Gatehouse.Text.Base64Url
import Gatehouse.Text.CharacterSet
import Gatehouse.Text.Case
import Gatehouse.Text.Encoding
import Gatehouse.Text.Integer
import Gatehouse.Text.PercentEncoding
import Gatehouse.Text.Printable
import Gatehouse.Text.Split
import Gatehouse.Text.Word
import Gatehouse.Token.Claims
import Gatehouse.Token.Compact
import Gatehouse.Token.Issuer
import Gatehouse.Token.Key
import Gatehouse.Token.Signer
import Gatehouse.Proofs.Store.Interleaving
import Gatehouse.Proofs.Store.Serializability
import Gatehouse.Proofs.Text.Ascii
import Gatehouse.Proofs.Text.Base64Url
import Gatehouse.Proofs.Text.Numeral
import Gatehouse.Proofs.Json.Quote
import Gatehouse.Proofs.Json.RoundTrip
import Gatehouse.Proofs.Number.Truncation
import Gatehouse.Proofs.Calendar.NumericDate
import Gatehouse.Proofs.Calendar.Reckoning
import Gatehouse.Proofs.Calendar.Civil
import Gatehouse.Proofs.Calendar.HeaderDate
import Gatehouse.Proofs.Token.Compact
import Gatehouse.Proofs.Token.Verify
import Gatehouse.Proofs.Token.RoundTrip
import Gatehouse.Proofs.Token.Acceptance
import Gatehouse.Proofs.Token.Genuine
import Gatehouse.Proofs.Token.Failure
import Gatehouse.Proofs.Session.Verdict
import Gatehouse.Proofs.Session.Issue
import Gatehouse.Proofs.Session.Renewal
import Gatehouse.Proofs.Session.Browser
import Gatehouse.Proofs.PersonalToken.Stored
import Gatehouse.Proofs.PersonalToken.Issued
import Gatehouse.Proofs.PersonalToken.Life
import Gatehouse.Proofs.PersonalToken.Failure
import Gatehouse.Proofs.Session.Browsing
import Gatehouse.Proofs.Session.Ending
import Gatehouse.Proofs.Session.Granted
import Gatehouse.Proofs.Text.Case
import Gatehouse.Proofs.Auth.Identity
import Gatehouse.Proofs.Auth.Failure
import Gatehouse.Proofs.Store.Contention
import Gatehouse.Proofs.PersonalToken.Contended
import Gatehouse.Proofs.PersonalToken.Frame
import Gatehouse.Proofs.PersonalToken.Alike
import Gatehouse.Proofs.PersonalToken.Unrefused
import Gatehouse.Proofs.PersonalToken.Ledger
import Gatehouse.Proofs.PersonalToken.Ownership
import Gatehouse.Proofs.PersonalToken.Revocation
import Gatehouse.Proofs.Session.SetCookies
import Gatehouse.Proofs.Http.Answered
import Gatehouse.Proofs.Http.TokenRoutes
import Gatehouse.Proofs.Http.Untouched
import Gatehouse.Proofs.Http.Confinement
import Gatehouse.Proofs.Http.Secrecy
import Gatehouse.Proofs.Http.Sender
import Gatehouse.Proofs.Http.SessionCookies
import Gatehouse.Proofs.Token.Rotation
import Gatehouse.Proofs.Http.SecurityHeaders
import Gatehouse.Proofs.Http.StoreIndependence
import Gatehouse.Proofs.Auth.SignIn
import Gatehouse.Proofs.Store.Attempts
import Gatehouse.Proofs.Token.Lapse
import Gatehouse.Proofs.PersonalToken.Amended
import Gatehouse.Proofs.PersonalToken.Created
import Gatehouse.Proofs.PersonalToken.Listed
import Gatehouse.Proofs.Account.Registered
import Gatehouse.Proofs.Http.RegisteredSignIn
import Gatehouse.Proofs.PersonalToken.Pruned
import Gatehouse.Proofs.PersonalToken.Commuting
import Gatehouse.Proofs.Session.Policy
import Gatehouse.Proofs.Config.Accepted
import Gatehouse.Proofs.Session.Bounds
import Gatehouse.Proofs.Token.Monotone
import Gatehouse.Proofs.Hash.Length
import Gatehouse.Proofs.Token.Tampering
import Gatehouse.Proofs.Store.RoundTrip
import Gatehouse.Proofs.Log.Masking
import Gatehouse.Proofs.Log.Patterns
import Gatehouse.Proofs.Log.Signed
import Gatehouse.Proofs.Log.Runs
import Gatehouse.Proofs.Token.Opening
import Gatehouse.Proofs.Text.Stretch
import Gatehouse.Proofs.Log.NormalForm
import Gatehouse.Proofs.Monitoring.Scrubbed
import Gatehouse.Proofs.Calendar.Instant
import Gatehouse.Proofs.Session.Clocks
import Gatehouse.Proofs.Text.PercentEncoding
import Gatehouse.Proofs.Config.Address
import Gatehouse.Proofs.Json.Spelling
import Gatehouse.Proofs.Config.ListSetting
import Gatehouse.Proofs.Calendar.Counting
