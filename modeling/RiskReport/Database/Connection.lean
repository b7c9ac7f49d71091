import RiskReport.Database.Address

/-!
# Connecting to the database

Why there is no connection to the database, as causes that lead to each other. A database that
cannot take a connection right now is asked again until the time is up.
-/

namespace RiskReport.Database

/-- Why there is no connection to the database. -/
inductive ConnectionError where
  | address (error : AddressError)
  /-- There is no socket file. -/
  | missing
  /-- The database refused the connection. -/
  | refused (message : String)
  /-- There was no connection while there was time. -/
  | timedOut
  /-- The program has no means to connect. -/
  | unsupported
  deriving DecidableEq, Repr, Inhabited

namespace ConnectionError

/-- What went wrong and what caused it, the cause last. -/
def causes : ConnectionError → List String
  | address e => e.causes
  | missing =>
    let cause := "No such file or directory (os error 2)"
    ["error communicating with database: " ++ cause, cause]
  | refused message => ["error returned from database: " ++ message, message]
  | timedOut => ["pool timed out while waiting for an open connection"]
  | unsupported => ["this program has no means to connect to a database"]

end ConnectionError

/-- The codes by which the database says that it cannot take a connection right now. -/
def transientCodes : List String := ["53300", "57P03"]

end RiskReport.Database
