import Subscriptions.Cents
import Subscriptions.FreshId
import Subscriptions.Http
import Subscriptions.Json.Reader
import Subscriptions.Json.Rows
import Subscriptions.Json.Tagged
import Subscriptions.Json.Writer
import Subscriptions.Ledger
import Subscriptions.Proofs.Cents
import Subscriptions.Proofs.Confirmation
import Subscriptions.Proofs.Store.Table
import Subscriptions.Proofs.Store.Transaction
import Subscriptions.Samples
import Subscriptions.Settings.Environment
import Subscriptions.Sql.Connection
import Subscriptions.Sql.Database
import Subscriptions.Store.Memory
import Subscriptions.Run
import Subscriptions.Proofs.Ledger.Settlement
import Subscriptions.Proofs.Ledger.Placement
import Subscriptions.Proofs.Ledger.Run
import Subscriptions.Proofs.Ledger.Regular
import Subscriptions.Proofs.Ledger.Confirmed
import Subscriptions.Proofs.Store.Sources
import Subscriptions.Proofs.Ledger.Accounted
import Subscriptions.Proofs.Ledger.Spent
import Subscriptions.Proofs.Ledger.Origin
import Subscriptions.Proofs.Ledger.Downgrade
import Subscriptions.Store.Shared
import Subscriptions.Proofs.Store.Serial
import Subscriptions.Proofs.Ledger.Discipline
import Subscriptions.Proofs.Period
import Subscriptions.Proofs.Ledger.WellFormed
import Subscriptions.Proofs.Ledger.Displacement
import Subscriptions.Proofs.Ledger.History
import Subscriptions.Proofs.Ledger.DrawnIds
import Subscriptions.Proofs.Ledger.Redelivery
import Subscriptions.Proofs.Ledger.RenewalCap
import Subscriptions.Proofs.Ledger.LinkedReader
import Subscriptions.Proofs.Ledger.Payable
import Subscriptions.Proofs.Ledger.OneMembership
import Subscriptions.Proofs.Ledger.Tiling
import Subscriptions.Proofs.Ledger.Overwritten
import Subscriptions.Proofs.Ledger.DraftDraws
import Subscriptions.Proofs.Ledger.SideEffects
import Subscriptions.Proofs.PaymentOutcome
import Subscriptions.Proofs.Proration
import Subscriptions.Proofs.PaidTime
import Subscriptions.Outbox.Shared
import Subscriptions.Proofs.Outbox.NothingLost
import Subscriptions.Proofs.Outbox.Schedule
import Subscriptions.Proofs.LastSecond
import Subscriptions.Proofs.Conversion
import Subscriptions.Proofs.UpgradeQuote
import Subscriptions.Proofs.LongerPeriod
import Subscriptions.Proofs.Sql.Sources
import Subscriptions.Proofs.Sql.Rows
import Subscriptions.Proofs.Json.Tasks
import Subscriptions.Proofs.Disclosure
import Subscriptions.Proofs.Ledger.Charges
import Subscriptions.Proofs.CheckedPricing
import Subscriptions.Proofs.Ledger.Checked
import Subscriptions.Proofs.Ledger.InRange
import Subscriptions.Proofs.Outbox.Retries
