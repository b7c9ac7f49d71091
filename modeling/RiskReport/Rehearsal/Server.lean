import RiskReport.Config.EnvFile
import RiskReport.Log.Filter
import RiskReport.Rehearsal.DatabaseAccount
import RiskReport.Rehearsal.Schedule
import RiskReport.Server

/-!
# Rehearsing the server

A rehearsed server has its variables, a file of further variables, and a scripted database behind a
socket file. It starts, works until its database has given all replies and its log says certain
things, is told to stop, and stops. What is left is the log and what was said to the database; or
the server does not start and says why.
-/

namespace RiskReport.Rehearsal

open Log Database

/-- What a rehearsed server starts with. -/
structure ServerScript where
  vars : List (String × String)
  /-- The file of further variables. -/
  envFile : String := ""
  /-- The database behind the socket file, if there is one. -/
  database : Option ScriptedDatabase := none
  /-- What the log must say before the server is told to stop. -/
  awaited : List String := []

/-- What came of a rehearsed server. -/
inductive ServerOutcome where
  /-- It did not start. -/
  | refused (error : StartError) (format : Format) (log : List Entry)
  /-- It stopped after it was told to. -/
  | stopped (format : Format) (log : List Entry) (database : ScriptedDatabase)
  | crashed

namespace ServerScript

/-! ## Starting -/

/-- The directory of the socket file. -/
def directory : String := "/rehearsal"

/-- A text with the directory in place of its name in braces. -/
def located (s : String) : String := s.replace "\x7bdir\x7d" directory

/-- All variables. -/
def allVariables (s : ServerScript) : List (String × String) :=
  EnvFile.extend (s.vars.map fun (key, value) => (key, located value)) (located s.envFile)

/-- A path without the slashes that say nothing. -/
def plainPath (path : String) : List String :=
  (path.splitOn "/").filter (!·.isEmpty)

/-- Whether a path leads to the socket file. -/
def isSocketFile (path : String) : Bool :=
  plainPath path == plainPath (directory ++ "/.s.PGSQL.5432")

/-- Connect to a database: refusals that may pass are tried again. -/
def reach (d : ScriptedDatabase) : Except ConnectionError ScriptedDatabase :=
  let passes : Failure → Bool
    | .refused code _ => transientCodes.contains code
    | _ => false
  match d.refusals.dropWhile passes with
  | .refused _ message :: _ => .error (.refused message)
  | _ => .ok { d with refusals := [] }

/-- Connect to the database at an address, by one of so many connections. -/
def connect (s : ServerScript) (connections : Nat) (address : Address) :
    Except ConnectionError ScriptedDatabase :=
  if connections = 0 then .error .timedOut
  else
    match address.socketFile?, s.database with
    | none, _ => .error .timedOut
    | some file, some d => if isSocketFile file then reach d else .error .missing
    | some _, none => .error .missing

/-! ## Working -/

/-- What is written of a log. -/
def linesOf (filter : Filter) (format : Format) (log : List Entry) : List String :=
  (filter.keep log).map (·.write "TIME" format)

/-- The database on a stage. -/
def databaseOf (s : Stage) : ScriptedDatabase :=
  (s.world.live.map (·.database)).getD { replies := [] }

/-- How many milliseconds a server works at most. -/
def patience : Nat := 60000

/-- Whether the work is done that a server is there for. -/
def workDone (script : ServerScript) (filter : Filter) (format : Format) (s : Stage) : Bool :=
  let lines := linesOf filter format s.world.log
  (databaseOf s).replies.isEmpty && script.awaited.all fun text => lines.any (·.contains text)

/-- Log an event of the server. -/
def announce (s : Stage) (event : Event) : Stage :=
  s.withWorld (s.world.note [] event)

/-- Let a server work, and tell it to stop. -/
def work (script : ServerScript) (filter : Filter) (server : Server) (s : Stage) : Stage :=
  let s := announce s.startRunner server.started
  let s := s.waited patience (workDone script filter server.logFormat)
  let s := (announce s Server.draining).stop s.world.shutdown.trigger
  let s := if s.hasStopped then s else s.waited (s.world.now + patience) Stage.hasStopped
  announce s (Server.stopped s.world.queue.stats)

/-- Run a server that has been prepared. -/
def runServer (script : ServerScript) (filter : Filter) (server : Server) (address : Address) :
    ServerOutcome :=
  let warnings := Server.warnings address
  match script.connect server.settings.databaseMaxConnections address with
  | .error e =>
    .refused (.connection e) server.logFormat (filter.keep (warnings.map (⟨[], ·⟩)))
  | .ok database =>
    match server.settings.runnerConfig?.bind (Stage.opening? · server.jobSettings) with
    | none => .crashed
    | some s =>
      let s := warnings.foldl announce s
      let live : LiveBackend := { backend := server.backend, database }
      let s := script.work filter server (s.withWorld { s.world with live := some live })
      .stopped server.logFormat (filter.keep s.world.log.reverse) (databaseOf s)

/-- Prepare and run a server. -/
def run (script : ServerScript) : ServerOutcome :=
  let vars := script.allVariables
  match Server.prepare (vars.lookup ·) with
  | .error (.settings .workersOverflow) => .crashed
  | .error e => .refused e .text []
  | .ok (server, address) =>
    script.runServer (.ofVariable (vars.lookup Filter.variableName)) server address

end ServerScript

/-! ## Accounts -/

/-- The times since which reports were looked for, as the log shows them. -/
def scanTimes (d : ScriptedDatabase) : List String :=
  d.sent.filterMap fun
    | .query (.selectPending since) => if since == .earliest then none else some since.write
    | _ => none

/-- Fields with a name in place of some texts. -/
def hideTimes (times : List String) (fields : Fields) : Fields :=
  fields.map fun (key, value) =>
    match value with
    | .shown s => (key, .shown (if times.contains s then "TIME" else s))
    | value => (key, value)

/-- An entry of the log with a name in place of some texts. -/
def hideTimesIn (times : List String) (e : Entry) : Entry where
  spans := e.spans.map fun s => { s with fields := hideTimes times s.fields }
  event := { e.event with fields := hideTimes times e.event.fields }

/-- The log as JSON: lines of text, or objects, in the order of their JSON texts. -/
def serverLogJson (format : Format) (log : List Entry) : Json :=
  let lines : List Json := match format with
    | .text => (log.flatMap fun e => (e.line "TIME").splitOn "\n").map .string
    | .json => log.map (·.toJson "TIME")
  .array (lines.mergeSort fun a b => decide (a.print ≤ b.print))

/-- The status with which a program ends, and what it says on the way. -/
def exitFields (status : Nat) (complaint : String) : List (String × Json) :=
  [("exit", .ofNat status), ("stderr", .string complaint)]

/-- What came of a server that has a database, or of one that has none. -/
def ServerOutcome.toJson (hasDatabase : Bool) : ServerOutcome → Json
  | .crashed => crashJson
  | .refused e format log =>
    .record (exitFields 1 e.report ++
      if hasDatabase then [("log", serverLogJson format log), ("statements", .array [])]
      else
        [("stdout", .string ("".intercalate (log.map fun e => e.write "TIME" format ++ "\n")))])
  | .stopped format log database =>
    let entries := log.map (hideTimesIn (scanTimes database))
    let time (t : Instant) : Json := if t == .earliest then t.toJson else .string "TIME"
    .record (exitFields 0 "" ++
      [("log", serverLogJson format entries), ("statements", database.statementsJson time)])

end RiskReport.Rehearsal
