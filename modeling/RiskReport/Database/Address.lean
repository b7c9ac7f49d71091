import RiskReport.Config.Number
import RiskReport.Network.Url
import RiskReport.Text.Quoted

/-!
# Where the database is

The address of the database is a URL. Its authority and its query may both name a host and a port,
and variables name them for an address that does not (`Address.ofVariables`); a host that begins
with a slash is the directory of a socket file. `Address.parse` reads as much of the address as
decides where the database is, or says why it is no address. The names in it stand for bytes, which
must be text: first the host's, if it is a directory, then the user's, the password's and the
database's.
-/

namespace RiskReport.Database

open Network Text

/-- Why a text is no address of a database. -/
inductive AddressError where
  | url (error : UrlError)
  | text (error : Utf8Error)
  | ip
  | number (error : NumberError)
  /-- There is no such way to protect a connection. -/
  | protection (value : String)
  deriving DecidableEq, Repr, Inhabited

namespace AddressError

/-- The wording of a refusal. -/
def message : AddressError → String
  | url error => error.message
  | text error => error.message
  | ip => "invalid IP address syntax"
  | number error => error.message
  | protection value => "unknown value " ++ quoted value ++ " for `ssl_mode`"

/-- How a refusal is introduced. -/
def heading : String := "error with configuration: "

/-- A refusal and what caused it, the cause last. -/
def causes (e : AddressError) : List String :=
  match e with
  | protection _ => [heading ++ heading ++ e.message, heading ++ e.message, e.message]
  | e => [heading ++ e.message, e.message]

end AddressError

/-- Where a database is. -/
structure Address where
  /-- The directory of a socket file, if one is named as such. -/
  directory : Option String := none
  host : String := "localhost"
  port : Nat := 5432
  /-- What the query says that has no meaning, the last first. -/
  unknown : List (String × String) := []
  deriving DecidableEq, Repr, Inhabited

namespace Address

/-- The variables that say where a database is if its address does not. -/
def variableNames : List String := ["PGHOSTADDR", "PGHOST", "PGPORT"]

/-- The place that some variables name. -/
def ofVariables (vars : String → Option String) : Address where
  host := ((vars "PGHOSTADDR").or (vars "PGHOST")).getD "localhost"
  port := ((vars "PGPORT").bind fun port => (readUnsigned 16 port).toOption).getD 5432

/-- The ways to protect a connection. -/
def protections : List String :=
  ["disable", "allow", "prefer", "require", "verify-ca", "verify-full"]

/-- What a query may say that does not decide where the database is. -/
def otherParameters : List String :=
  ["sslrootcert", "ssl-root-cert", "ssl-ca", "sslcert", "ssl-cert", "sslkey", "ssl-key", "dbname",
    "user", "password", "application_name", "options"]

/-- Read a number of a query. -/
def readNumber (bits : Nat) (value : String) : Except AddressError Nat :=
  (readUnsigned bits value).mapError .number

/-- The text of a name. -/
def readName (cs : List Char) : Except AddressError String :=
  (decodeText cs).mapError .text

/-- Take note of a host that the authority names. -/
def withAuthority (a : Address) (host : String) : Except AddressError Address := do
  if (percentDecode host.toList).head? == some '/'.toUInt8 then
    return { a with directory := some (← readName host.toList) }
  else return { a with host }

/-- Take note of a host that the query names. -/
def withHost (a : Address) (host : String) : Address :=
  if host.startsWith "/" then { a with directory := some host } else { a with host }

/-- Take note of what a query says. -/
def withParameter (a : Address) (key value : String) : Except AddressError Address := do
  match key with
  | "sslmode" | "ssl-mode" =>
    if protections.contains (lowerAscii value) then return a else throw (.protection value)
  | "statement-cache-capacity" =>
    let _ ← readNumber 64 value
    return a
  | "host" => return a.withHost value
  | "hostaddr" =>
    if Ipv4.isQuad value.toList || Ipv6.isAddress value.toList then
      return { a with host := value }
    else throw .ip
  | "port" => return { a with port := ← readNumber 16 value }
  | _ =>
    if otherParameters.contains key || key.startsWith "options[" then return a
    else return { a with unknown := (key, value) :: a.unknown }

/-- The place that a URL names; `a` is the place where it names none. -/
def ofUrl (a : Address) (u : Url) : Except AddressError Address := do
  let a := { a with port := u.port.getD a.port }
  let a ← match u.host with
    | some host => a.withAuthority host
    | none => pure a
  let _ ← readName u.user
  let _ ← readName (u.password.getD [])
  let _ ← readName (u.path.dropWhile (· == '/'))
  (queryPairs u.query).foldlM (fun a (key, value) => a.withParameter key value) a

/-- Read the address of a database; `a` is the place of an address that names none. -/
def parse (a : Address) (s : String) : Except AddressError Address := do
  ofUrl a (← (Url.parse s).mapError .url)

/-- The socket file by which the database is reached, if it is reached by one. -/
def socketFile? (a : Address) : Option String :=
  let file (directory : String) : String := directory ++ "/.s.PGSQL." ++ toString a.port
  match a.directory with
  | some directory => some (file directory)
  | none => if a.host.startsWith "/" then some (file a.host) else none

end Address

end RiskReport.Database
