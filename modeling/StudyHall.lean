import StudyHall.Api.Error
import StudyHall.Api.Payload
import StudyHall.Api.Query
import StudyHall.Auth.Account
import StudyHall.Auth.Claims
import StudyHall.Auth.Header
import StudyHall.Auth.SideClaims
import StudyHall.Auth.Token
import StudyHall.Bytes.Base64Url
import StudyHall.Bytes.Hex
import StudyHall.Bytes.Sha256
import StudyHall.Bytes.Utf8
import StudyHall.Calendar.Date
import StudyHall.Calendar.Instant
import StudyHall.Calendar.Timestamp
import StudyHall.Command
import StudyHall.Console.Dashboard
import StudyHall.Console.Directory
import StudyHall.Console.DirectoryRun
import StudyHall.Console.Operator
import StudyHall.Decimal.Double
import StudyHall.Decimal.Nearest
import StudyHall.Decimal.Shortest
import StudyHall.Domain.Code
import StudyHall.Domain.Fault
import StudyHall.Http.Form
import StudyHall.Http.MediaType
import StudyHall.Http.Message
import StudyHall.Http.Percent
import StudyHall.Idna.Bidi
import StudyHall.Idna.BidiTable
import StudyHall.Idna.Domain
import StudyHall.Idna.Mapping
import StudyHall.Idna.MappingTable
import StudyHall.Idna.Punycode
import StudyHall.Json.Basic
import StudyHall.Json.Printer
import StudyHall.Json.Reach
import StudyHall.Json.Reader
import StudyHall.Json.Record
import StudyHall.Learner.Database
import StudyHall.Learner.Pages
import StudyHall.Learner.Records
import StudyHall.Learner.Telegram
import StudyHall.Learner.Views
import StudyHall.Log.Directive
import StudyHall.Log.Field
import StudyHall.Log.Filter
import StudyHall.Log.Level
import StudyHall.Mail.Address
import StudyHall.Mail.Host
import StudyHall.Main
import StudyHall.Metrics.PathLabel
import StudyHall.Metrics.Recorder
import StudyHall.Pattern.Bracket
import StudyHall.Pattern.Element
import StudyHall.Pattern.Reader
import StudyHall.Proofs.Auth.Claims
import StudyHall.Proofs.Auth.TokenRoundTrip
import StudyHall.Proofs.Bytes.Base64Url
import StudyHall.Proofs.Bytes.Utf8
import StudyHall.Proofs.Console.History
import StudyHall.Proofs.Console.LastWrite
import StudyHall.Proofs.Console.Uniqueness
import StudyHall.Proofs.Http.Headers
import StudyHall.Proofs.Json.Numbers
import StudyHall.Proofs.Json.Record
import StudyHall.Proofs.Json.RoundTrip
import StudyHall.Proofs.Json.Strings
import StudyHall.Proofs.Mail.Address
import StudyHall.Proofs.Service.DirectoryChange
import StudyHall.Proofs.Uuid
import StudyHall.Service.Answer
import StudyHall.Service.Bearer
import StudyHall.Service.Console
import StudyHall.Service.Launch
import StudyHall.Service.Respond
import StudyHall.Service.Routes
import StudyHall.Settings.Basic
import StudyHall.Settings.Profile
import StudyHall.Settings.Summary
import StudyHall.Settings.Variable
import StudyHall.Text.Blank
import StudyHall.Text.CaseTable
import StudyHall.Text.DigitTable
import StudyHall.Text.InvisibleTable
import StudyHall.Text.Letter
import StudyHall.Text.LetterTable
import StudyHall.Text.Lowercase
import StudyHall.Text.NormalForm
import StudyHall.Text.NormalTable
import StudyHall.Text.NumberRows
import StudyHall.Text.Numeral
import StudyHall.Text.Quoted
import StudyHall.Uuid
import StudyHall.Wire.Codes
import StudyHall.Wire.Console
import StudyHall.Wire.Learner
import StudyHall.Proofs.Console.Listing
import StudyHall.Proofs.Console.CreationRace
import StudyHall.Proofs.Auth.PartContent
import StudyHall.Proofs.Auth.AcceptedToken
import StudyHall.Proofs.Service.Launch
import StudyHall.Proofs.Service.Layers
import StudyHall.Proofs.Service.Origins
import StudyHall.Proofs.Service.TwoRuns
import StudyHall.Proofs.Service.RequestIdentifier
import StudyHall.Proofs.Service.Stranger
import StudyHall.Proofs.Console.Membership
import StudyHall.Proofs.Console.Timeline
import StudyHall.Proofs.Calendar.Date
import StudyHall.Proofs.Calendar.Timestamp
import StudyHall.Proofs.Wire.Faithful
import StudyHall.Proofs.Wire.Documents
import StudyHall.Proofs.Calendar.Later
import StudyHall.Proofs.Learner.Protocol
import StudyHall.Proofs.Learner.TelegramSignIn
import StudyHall.Proofs.Service.FirstOperator
import StudyHall.Proofs.Service.Hardening
import StudyHall.Proofs.Service.ErrorAnswers
import StudyHall.Proofs.Service.ServerFaults
import StudyHall.Proofs.Learner.Questions
import StudyHall.Proofs.Learner.PageProtocol
import StudyHall.Proofs.Learner.PageRuns
import StudyHall.Proofs.Service.LearnerReads
import StudyHall.Proofs.Console.Refusals
import StudyHall.Proofs.Service.RequestRuns
import StudyHall.Proofs.Service.OperatorRules
import StudyHall.Proofs.Metrics.Recorder
import StudyHall.Proofs.Metrics.Traffic
import StudyHall.Proofs.Service.Figures
import StudyHall.Proofs.Settings.Reading
import StudyHall.Proofs.Service.TokenSeparation
import StudyHall.Proofs.Console.Paging
import StudyHall.Proofs.Text.CaseTable
import StudyHall.Proofs.Text.Lowercase
import StudyHall.Proofs.Console.NameSearch
import StudyHall.Proofs.Console.Bulk
import StudyHall.Proofs.Console.CaseVariants
import StudyHall.Proofs.Console.Mentions
import StudyHall.Proofs.Calendar.DayByDay
import StudyHall.Proofs.Calendar.DateText
import StudyHall.Proofs.Calendar.DaysBack
import StudyHall.Proofs.Console.Series
import StudyHall.Proofs.Learner.FailedSignIn
import StudyHall.Proofs.UuidForms
import StudyHall.Proofs.Text.Pieces
import StudyHall.Proofs.Metrics.PathLabel
import StudyHall.Proofs.Service.StarOrigin
import StudyHall.Proofs.Api.Rules
import StudyHall.Proofs.Service.RejectedBodies
import StudyHall.Proofs.Calendar.StrictTimestamp
import StudyHall.Proofs.Service.Forbidden
import StudyHall.Proofs.Settings.Profile
import StudyHall.Proofs.Metrics.KeptSegments
import StudyHall.Proofs.Text.CodeCase
import StudyHall.Proofs.Api.QueryValues
import StudyHall.Proofs.Http.Form
import StudyHall.Proofs.Api.ListingQuery
import StudyHall.Proofs.Settings.Lists
import StudyHall.Proofs.Domain.Vocabulary
import StudyHall.Proofs.Learner.ProgressRow
import StudyHall.Proofs.Log.Directive
import StudyHall.Proofs.Log.Filter
import StudyHall.Proofs.Log.ApplicationErrors
import StudyHall.Proofs.Domain.Failure
import StudyHall.Proofs.Text.SmallForms
import StudyHall.Proofs.Text.Words
import StudyHall.Proofs.Console.DisplayName
