import PriceHistory.Main
import PriceHistory.Rehearsal.Runs
import PriceHistory.Rehearsal.Session
import PriceHistory.Proofs.Reconcile.Completeness
import PriceHistory.Proofs.Reconcile.Days
import PriceHistory.Proofs.Reconcile.Minutes
import PriceHistory.Proofs.Reconcile.WriteThrough
import PriceHistory.Proofs.Database.FiniteMap
import PriceHistory.Proofs.Reconcile.FailurePrefix
import PriceHistory.Proofs.Reconcile.Served
import PriceHistory.Proofs.Reconcile.Granularity
import PriceHistory.Proofs.Reconcile.Provenance
import PriceHistory.Proofs.Reconcile.NextDay
import PriceHistory.Proofs.Reconcile.Repeated
import PriceHistory.Proofs.Reconcile.Resumed
import PriceHistory.Proofs.Reconcile.Narrower
import PriceHistory.Proofs.Reconcile.Isolation
import PriceHistory.Proofs.Provider.Payload
import PriceHistory.Proofs.Provider.Replies
import PriceHistory.Proofs.Provider.Token
import PriceHistory.Proofs.Query.Dispatch
import PriceHistory.Proofs.Binary64.Rounding
import PriceHistory.Proofs.Binary64.Shortest
import PriceHistory.Proofs.Decimal.Scientific
import PriceHistory.Proofs.Json.Numeral
import PriceHistory.Proofs.Json.Spelling
import PriceHistory.Proofs.Provider.Address
import PriceHistory.Proofs.Provider.Prices
import PriceHistory.Proofs.Query.Entrances
import PriceHistory.Proofs.Settings
import PriceHistory.Proofs.Reconcile.Torn
import PriceHistory.Proofs.Provider.LastTrades
