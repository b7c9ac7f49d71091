import RiskReport.Database.Store
import RiskReport.Hedge.Fallback
import RiskReport.Hedge.Provider
import RiskReport.Mail.Resend
import RiskReport.Service

/-!
# What lies behind the services

In use the store is in a database, and hedges and mail are asked for over HTTP. `Backend.serve?`
serves a request of a service by a program over `outside`, the interface of the database and of the
network. Payments and the queue of reports do not lie outside in this sense.
-/

namespace RiskReport

/-- A request to the outside. -/
inductive OutsideCall where
  | database (request : Database.Request)
  | http (request : Http.Request)

/-- What a request to the outside is answered with. -/
def OutsideCall.Answer : OutsideCall → Type
  | .database request => Database.interface.Answer request
  | .http request => Http.interface.Answer request

/-- The requests to the outside and their answers. -/
def outside : Interface where
  Call := OutsideCall
  Answer := OutsideCall.Answer

/-- A program that asks the database as one that asks the outside. -/
def overDatabase {α : Type} (p : Program Database.interface α) : Program outside α :=
  p.serve fun request => Program.request (I := outside) (.database request)

/-- A program that posts requests as one that asks the outside. -/
def overNetwork {α : Type} (p : Program Http.interface α) : Program outside α :=
  p.serve fun request => Program.request (I := outside) (.http request)

/-- The hedgers and the mailer that lie behind the services. -/
structure Backend where
  hedger : Hedger Provider
  mailer : Resend
  deriving DecidableEq, Repr, Inhabited

namespace Backend

/-- Serve a request of a service, if its answer lies outside. -/
def serve? (b : Backend) : (call : ServiceCall) → Option (Program outside call.Answer)
  | .store call => some (overDatabase (Database.serve call))
  | .hedge risks =>
    some (overNetwork (b.hedger.generate (·.vendor.name) (fun p risks => p.generate risks) risks))
  | .mail message => some (overNetwork (b.mailer.send message))
  | .enqueue _ | .createPayment _ | .clientSecret _ => none

end Backend

end RiskReport
