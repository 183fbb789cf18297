import PayBridge.Binary64.Basic
import PayBridge.Binary64.Reader
import PayBridge.Binary64.Shortest
import PayBridge.Decimal.Basic
import PayBridge.Decimal.Reader
import PayBridge.Host.Channel
import PayBridge.Host.Handshake
import PayBridge.Host.Message
import PayBridge.Host.Origin
import PayBridge.Host.Page
import PayBridge.Json.Basic
import PayBridge.Json.Reader
import PayBridge.Json.Shape
import PayBridge.Json.Writer
import PayBridge.Main
import PayBridge.Payment.Amount
import PayBridge.Payment.Memo
import PayBridge.Payment.Request
import PayBridge.Proofs.Binary64.Error
import PayBridge.Proofs.Binary64.FewDigits
import PayBridge.Proofs.Binary64.Grid
import PayBridge.Proofs.Binary64.PlainText
import PayBridge.Proofs.Binary64.Reading
import PayBridge.Proofs.Binary64.Rounding
import PayBridge.Proofs.Binary64.Shortest
import PayBridge.Proofs.Decimal.Spelling
import PayBridge.Proofs.Decimal.Text
import PayBridge.Proofs.Decimal.Value
import PayBridge.Proofs.Decimal.Wire
import PayBridge.Proofs.Host.Attempts
import PayBridge.Proofs.Host.Attribution
import PayBridge.Proofs.Host.Channel
import PayBridge.Proofs.Host.Correlation
import PayBridge.Proofs.Host.Courses
import PayBridge.Proofs.Host.Grammar
import PayBridge.Proofs.Host.Handshake
import PayBridge.Proofs.Host.Normalization
import PayBridge.Proofs.Host.Origin
import PayBridge.Proofs.Host.Outcomes
import PayBridge.Proofs.Host.Pinning
import PayBridge.Proofs.Host.Renumbering
import PayBridge.Proofs.Host.Wallets
import PayBridge.Proofs.Host.Wire
import PayBridge.Proofs.Payment.Amount
import PayBridge.Proofs.Payment.AskedAmount
import PayBridge.Proofs.Payment.Carrying
import PayBridge.Proofs.Payment.MemoLog
import PayBridge.Proofs.Payment.MinorUnits
import PayBridge.Proofs.Payment.Minting
import PayBridge.Proofs.Run
import PayBridge.Proofs.Search.Account
import PayBridge.Proofs.Search.Bounding
import PayBridge.Proofs.Search.Deciding
import PayBridge.Proofs.Search.Duration
import PayBridge.Proofs.Search.Firing
import PayBridge.Proofs.Search.Observing
import PayBridge.Proofs.Search.Refinement
import PayBridge.Proofs.Search.Succession
import PayBridge.Proofs.Search.Task
import PayBridge.Proofs.Search.TaskPool
import PayBridge.Proofs.Search.TaskTime
import PayBridge.Proofs.Search.Timing
import PayBridge.Proofs.Session.Agreement
import PayBridge.Proofs.Session.Closing
import PayBridge.Proofs.Session.Connecting
import PayBridge.Proofs.Session.Endings
import PayBridge.Proofs.Session.Interference
import PayBridge.Proofs.Session.Moves
import PayBridge.Proofs.Session.Outbound
import PayBridge.Proofs.Session.Renewal
import PayBridge.Proofs.Session.Settled
import PayBridge.Proofs.Session.Success
import PayBridge.Proofs.Session.Tasks
import PayBridge.Proofs.Session.Time
import PayBridge.Proofs.Solana.Confirmation
import PayBridge.Proofs.Solana.PaymentAddress
import PayBridge.Proofs.Solana.PaymentQuery
import PayBridge.Proofs.Solana.Place
import PayBridge.Proofs.Text.Digits
import PayBridge.Proofs.Text.Numeral
import PayBridge.Proofs.Text.Trim
import PayBridge.Proofs.Url.Domain
import PayBridge.Proofs.Url.FormEncoded
import PayBridge.Proofs.Url.Ipv4
import PayBridge.Proofs.Url.Ipv6
import PayBridge.Proofs.Url.Rootless
import PayBridge.Proofs.Url.Web
import PayBridge.Proofs.Watch.Conclusion
import PayBridge.Proofs.Watch.Expansion
import PayBridge.Proofs.Watch.Planning
import PayBridge.Proofs.Watch.Report
import PayBridge.Proofs.Watch.Watcher
import PayBridge.Proofs.Word
import PayBridge.Search.Basic
import PayBridge.Search.Poller
import PayBridge.Search.Schedule
import PayBridge.Session.Basic
import PayBridge.Session.Phase
import PayBridge.Session.Settings
import PayBridge.Solana.Address
import PayBridge.Solana.Base58
import PayBridge.Solana.Cluster
import PayBridge.Solana.Currency
import PayBridge.Solana.Curve
import PayBridge.Solana.Ledger
import PayBridge.Solana.Merchant
import PayBridge.Solana.Sha256
import PayBridge.Solana.TokenAccount
import PayBridge.Text.Ascii
import PayBridge.Text.Blank
import PayBridge.Text.DecimalDigit
import PayBridge.Text.Pieces
import PayBridge.Text.Quoted
import PayBridge.Text.Unprintable
import PayBridge.Text.Utf8
import PayBridge.Toml.Basic
import PayBridge.Toml.Reader
import PayBridge.Toml.Scalar
import PayBridge.Toml.Table
import PayBridge.Toml.Text
import PayBridge.Url.Basic
import PayBridge.Url.Domain
import PayBridge.Url.DomainCharacter
import PayBridge.Url.FormEncoded
import PayBridge.Url.Host
import PayBridge.Url.Ipv4
import PayBridge.Url.Ipv6
import PayBridge.Url.Percent
import PayBridge.Url.Punycode
import PayBridge.Url.Rootless
import PayBridge.Watch.Arguments
import PayBridge.Watch.Command
import PayBridge.Watch.Ending
import PayBridge.Watch.Environment
import PayBridge.Watch.Expansion
import PayBridge.Watch.Settings
import PayBridge.Watch.Usage
import PayBridge.Watch.VariableFile
import PayBridge.Watch.Verbosity
import PayBridge.Word
