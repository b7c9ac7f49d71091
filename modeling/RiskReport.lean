import RiskReport.Access
import RiskReport.Main
import RiskReport.Payment.Checkout
import RiskReport.Payment.Process
import RiskReport.Rehearsal.DatabaseScript
import RiskReport.Rehearsal.Hedger
import RiskReport.Rehearsal.Http
import RiskReport.Rehearsal.Script
import RiskReport.Rehearsal.Server
import RiskReport.Proofs.Text.Ends
import RiskReport.Proofs.Time.Instant
import RiskReport.Proofs.Store.Effect
import RiskReport.Proofs.Store.Reachable
import RiskReport.Proofs.Store.Sound
import RiskReport.Proofs.Job.Pool
import RiskReport.Proofs.Job.Exclusion
import RiskReport.Proofs.Payment.Handler
import RiskReport.Proofs.Payment.Replay
import RiskReport.Proofs.Scoring.Ranking
import RiskReport.Proofs.Scoring.Standing
import RiskReport.Proofs.Scoring.Order
import RiskReport.Proofs.Scoring.Cutoffs
import RiskReport.Proofs.Scoring.Mean
import RiskReport.Proofs.Words
import RiskReport.Proofs.Counts
import RiskReport.Proofs.Job.Making
import RiskReport.Proofs.Store.Lookup
import RiskReport.Proofs.Job.Delivery
import RiskReport.Proofs.Access
import RiskReport.Proofs.Payment.Claim
import RiskReport.Proofs.Protocol
import RiskReport.Proofs.Service
import RiskReport.Proofs.Payment.Receipt
import RiskReport.Proofs.Job.Conduct
import RiskReport.Proofs.Job.Notice
import RiskReport.Proofs.Job.Recovery
import RiskReport.Proofs.Job.Stopping
import RiskReport.Proofs.Job.Retrying
import RiskReport.Proofs.Job.Backoff
import RiskReport.Proofs.Payment.Agreement
import RiskReport.Proofs.Payment.Payer
import RiskReport.Proofs.Payment.Renewal
import RiskReport.Proofs.Payment.Office
import RiskReport.Proofs.Payment.Ledger
import RiskReport.Proofs.Store.Atomic
import RiskReport.Proofs.Store.Answers
import RiskReport.Proofs.Database.Dialogue
import RiskReport.Proofs.Database.Transaction
import RiskReport.Proofs.Database.Discipline
import RiskReport.Proofs.Database.Agreement
import RiskReport.Proofs.Json.Numeral
import RiskReport.Proofs.Json.Written
import RiskReport.Proofs.Json.Reading
import RiskReport.Proofs.Json.Record
import RiskReport.Proofs.Json.Printing
import RiskReport.Proofs.Json.Decoding
import RiskReport.Proofs.Json.Tagged
import RiskReport.Proofs.Hedge.Fence
import RiskReport.Proofs.Hedge.Reply
import RiskReport.Proofs.Hedge.Turns
import RiskReport.Proofs.Config
import RiskReport.Proofs.Config.Number
import RiskReport.Proofs.Config.Overflow
import RiskReport.Proofs.Config.Agreement
import RiskReport.Proofs.Config.Secrecy
import RiskReport.Proofs.Config.Documented
import RiskReport.Proofs.Scoring.Choice
import RiskReport.Proofs.Scoring.Configuration
import RiskReport.Proofs.Rehearsal.Endurance
import RiskReport.Proofs.Rehearsal.Frame
import RiskReport.Proofs.Rehearsal.Startup
import RiskReport.Proofs.Job.Attempt
import RiskReport.Proofs.Job.Influence
import RiskReport.Proofs.Job.Snapshot
import RiskReport.Proofs.Job.Signal
import RiskReport.Proofs.Mail.Amount
import RiskReport.Proofs.Mail.Markup
