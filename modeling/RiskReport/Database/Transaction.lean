import RiskReport.Database.Statement

/-!
# Dialogues and transactions

A `Dialogue` is a program that talks to the database until it has a value or is refused.
`transaction` puts a dialogue between the beginning and the end of a transaction: what is to be
kept is committed, everything else is rolled back, and a transaction that was neither committed
nor rolled back with success is rolled back once more. `retrying` repeats a transaction that got
into the way of another one.
-/

namespace RiskReport.Database

open Log

/-- Why a statement has no reply. -/
inductive Failure where
  /-- The database refused the statement; the code says why. -/
  | refused (code message : String)
  /-- There is no row where one is needed. -/
  | noRow
  | poolClosed
  /-- Something between the program and the database went wrong. -/
  | lost (detail : String)
  deriving DecidableEq, Repr, Inhabited

namespace Failure

/-- The codes by which the database says that transactions got into each other's way. -/
def conflictCodes : List String := ["40001", "40P01"]

/-- The code by which the database says that a value is there already. -/
def duplicateCode : String := "23505"

/-- The code by which the database says that another row is not there. -/
def danglingCode : String := "23503"

/-- Whether a value is there already. -/
def isDuplicate : Failure → Bool
  | refused code _ => code == duplicateCode
  | _ => false

/-- What a failed operation means to whoever asked the store. -/
def storeError (operation : String) : Failure → StoreError
  | refused code message =>
    let detail := "database error in " ++ operation ++ ": " ++ message
    if conflictCodes.contains code then .serialization detail
    else if code == duplicateCode then .conflict detail
    else if code == danglingCode then .notFound detail
    else .database detail
  | noRow => .notFound ("no row returned in " ++ operation)
  | poolClosed => .database ("connection pool closed in " ++ operation)
  | lost detail => .database ("sqlx error in " ++ operation ++ ": " ++ detail)

end Failure

/-- The reply to a statement: rows, and how many rows were changed. -/
structure Reply where
  rows : List Row := []
  affected : Nat := 0
  deriving DecidableEq, Repr, Inhabited

/-- What a dialogue asks for. -/
inductive Request where
  | send (statement : Statement)
  /-- A fresh identifier. -/
  | mintId
  /-- A fresh token. -/
  | mintToken
  deriving DecidableEq, Repr, Inhabited

/-- What a request of a dialogue is answered with. -/
def Request.Answer : Request → Type
  | send _ => Except Failure Reply
  | mintId => Uuid
  | mintToken => AccessToken

/-- The requests of dialogues and their answers. -/
def interface : Interface where
  Call := Request
  Answer := Request.Answer

/-- A program that asks the database. -/
abbrev Asking (α : Type) := Program interface α

/-- A program that talks to the database until it has a value or is refused. -/
abbrev Dialogue (α : Type) := ExceptT StoreError (Program interface) α

/-! ## Statements -/

/-- Send a statement. -/
def send (s : Statement) : Asking (Except Failure Reply) :=
  Program.request (I := interface) (.send s)

/-- Make an identifier. -/
def mintId : Dialogue Uuid := ExceptT.lift (Program.request (I := interface) .mintId)

/-- Make a token. -/
def mintToken : Dialogue AccessToken := ExceptT.lift (Program.request (I := interface) .mintToken)

/-- Send a query whose failure has a meaning of its own. -/
def askOr (refusal : Failure → StoreError) (q : Query) : Dialogue Reply := do
  match ← ExceptT.lift (send (.query q)) with
  | .ok reply => return reply
  | .error f => throw (refusal f)

/-- Send a query as an operation of a name. -/
def ask (operation : String) (q : Query) : Dialogue Reply :=
  askOr (Failure.storeError operation) q

/-- All rows that a query finds. -/
def findAll {α : Type} (operation : String) (q : Query) (read : Row → Except StoreError α) :
    Dialogue (List α) := do
  let reply ← ask operation q
  (reply.rows.mapM read : Except StoreError (List α))

/-- The first row that a query finds, if it finds any. -/
def find? {α : Type} (operation : String) (q : Query) (read : Row → Except StoreError α) :
    Dialogue (Option α) := do
  match (← ask operation q).rows with
  | [] => return none
  | row :: _ => return some (← read row)

/-- The first row that a query finds; that there is none is a failure with a meaning of its
own. -/
def findOneOr {α : Type} (refusal : Failure → StoreError) (q : Query)
    (read : Row → Except StoreError α) : Dialogue α := do
  match (← askOr refusal q).rows with
  | [] => throw (refusal .noRow)
  | row :: _ => read row

/-- The first row that a query finds. -/
def findOne {α : Type} (operation : String) (q : Query) (read : Row → Except StoreError α) :
    Dialogue α :=
  findOneOr (Failure.storeError operation) q read

/-- How many rows a query changes. -/
def change (operation : String) (q : Query) : Dialogue Nat := do
  return (← ask operation q).affected

/-! ## Transactions -/

/-- How the work of a transaction ends. -/
inductive Ending (α : Type) where
  /-- What was done is to be kept. -/
  | keep (value : α)
  /-- Nothing is to be kept, and this is what comes of it. -/
  | discard (outcome : Except StoreError α)

/-- Roll back, whatever the database says to it. -/
def abandon {α : Type} (e : StoreError) : Asking (Except StoreError α) := do
  let _ ← send .rollback
  return .error e

/-- End a transaction after its work. -/
def endTransaction {α : Type} : Except StoreError (Ending α) → Asking (Except StoreError α)
  | .error e => abandon e
  | .ok (.keep value) => do
    match ← send .commit with
    | .ok _ => return .ok value
    | .error f => abandon (f.storeError "commit_transaction")
  | .ok (.discard outcome) => do
    match ← send .rollback with
    | .ok _ => return outcome
    | .error f => abandon (f.storeError "rollback")

/-- Work inside a transaction that is isolated from all others. -/
def transaction {α : Type} (operation : String) (work : Dialogue (Ending α)) :
    Asking (Except StoreError α) := do
  match ← send .begin with
  | .error f => return .error (f.storeError operation)
  | .ok _ =>
    match ← send .isolate with
    | .error f => abandon (f.storeError operation)
    | .ok _ => endTransaction (← work.run)

/-- How often a transaction is tried. -/
def maxTries : Nat := 3

/-- The event of a transaction that is tried once more. -/
def replayEvent (operation : String) (attempt : Nat) (detail : String) : Event where
  level := .debug
  target := .database
  message := some "serialization conflict, replaying"
  fields := [("operation", .text operation), ("attempt", .ofNat attempt),
    ("error", .shown detail)]

/-- Try a transaction, and `left` times more while it gets into the way of others. -/
def replay {α : Type} (operation : String) (once : Asking (Except StoreError α)) :
    (left attempt : Nat) → Asking (Except StoreError α)
  | 0, _ => once
  | left + 1, attempt => do
    match ← once with
    | .error (.serialization detail) =>
      .report (replayEvent operation attempt detail)
      replay operation once left (attempt + 1)
    | result => return result

/-- Work inside a transaction, which is tried again while it gets into the way of others. -/
def retrying {α : Type} (operation : String) (work : Dialogue (Ending α)) :
    Asking (Except StoreError α) :=
  replay operation (transaction operation work) (maxTries - 1) 1

end RiskReport.Database
