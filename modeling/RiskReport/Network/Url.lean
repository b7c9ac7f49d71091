import RiskReport.Network.Domain
import RiskReport.Network.Ipv6
import RiskReport.Network.Percent
import RiskReport.Text.Blank

/-!
# Addresses of things on a network

A URL has a scheme, and after it, depending on the scheme, an authority with a user, a host and a
port, then a path and a query. Some schemes always have a host, which is then the name of a domain
or an address (`readHost`); in other schemes a host is any text without a few characters. The path
is brought into a form without the segments `.` and `..` (`resolve`). All parts stay as they were
written, with their percent signs.
-/

namespace RiskReport.Network

open Text

/-- Why a text is no URL. -/
inductive UrlError where
  /-- There is no scheme. -/
  | relative
  | emptyHost
  | port
  | ipv4
  | ipv6
  | hostCharacter
  | domain
  deriving DecidableEq, Repr, Inhabited

/-- The wording of a refusal. -/
def UrlError.message : UrlError → String
  | relative => "relative URL without a base"
  | emptyHost => "empty host"
  | port => "invalid port number"
  | ipv4 => "invalid IPv4 address"
  | ipv6 => "invalid IPv6 address"
  | hostCharacter => "invalid domain character"
  | domain => "invalid international domain name"

/-- A URL. -/
structure Url where
  scheme : String
  user : List Char := []
  password : Option (List Char) := none
  /-- The host, unless it is empty. -/
  host : Option String := none
  /-- The port, unless it is that of the scheme. -/
  port : Option Nat := none
  path : List Char := []
  query : List Char := []
  deriving DecidableEq, Repr, Inhabited

namespace Url

/-! ## Schemes -/

/-- Whether a character at either end of a URL says nothing. -/
def isPadding (c : Char) : Bool := c.toNat ≤ 0x20

/-- The characters of a URL that say something. -/
def significant (s : String) : List Char :=
  let trimmed := ((s.toList.dropWhile isPadding).reverse.dropWhile isPadding).reverse
  trimmed.filter fun c => c != '\t' && c != '\n' && c != '\r'

/-- Whether a character may stand in a scheme after its first letter. -/
def inScheme (c : Char) : Bool := c.isAlphanum || c == '+' || c == '-' || c == '.'

/-- The scheme of a URL, and what follows its colon. -/
def splitScheme (cs : List Char) : Except UrlError (String × List Char) :=
  match cs.dropWhile inScheme with
  | ':' :: rest =>
    if (cs.head?.map Char.isAlpha).getD false then
      .ok (lowerAscii (String.ofList (cs.takeWhile inScheme)), rest)
    else .error .relative
  | _ => .error .relative

/-- The schemes whose URLs always have a host, and their ports. -/
def hostedSchemes : List (String × Nat) :=
  [("http", 80), ("https", 443), ("ws", 80), ("wss", 443), ("ftp", 21)]

/-- How the URLs of a scheme are read. -/
inductive SchemeKind where
  /-- There is a host, with a port of its own. -/
  | hosted (port : Nat)
  | file
  | other
  deriving DecidableEq, Repr, Inhabited

/-- How the URLs of a scheme are read. -/
def SchemeKind.of (scheme : String) : SchemeKind :=
  match hostedSchemes.lookup scheme with
  | some port => .hosted port
  | none => if scheme == "file" then .file else .other

/-- Whether a character is a slash. -/
def isSlash (special : Bool) (c : Char) : Bool := c == '/' || (special && c == '\\')

/-- Whether the path of a URL ends before a character. -/
def endsPath (c : Char) : Bool := c == '?' || c == '#'

/-! ## Hosts -/

/-- The characters that no host may have. -/
def forbiddenInHost : List Char :=
  ['\x00', '\t', '\n', '\r', ' ', '#', '/', ':', '<', '>', '?', '@', '[', '\\', ']', '^', '|']

/-- The characters of a host with a port: the host up to a colon that is not in brackets, and what
follows. -/
def splitHost : (bracketed : Bool) → List Char → List Char × List Char
  | _, [] => ([], [])
  | bracketed, c :: cs =>
    if c == ':' && !bracketed then ([], c :: cs)
    else
      let bracketed := if c == '[' then true else if c == ']' then false else bracketed
      let (host, rest) := splitHost bracketed cs
      (c :: host, rest)

/-- Read a host: an address in brackets, the name of a domain or an address of four bytes if the
scheme asks for one of them, and otherwise any text. -/
def readHost (special : Bool) (host : List Char) : Except UrlError String :=
  if host.head? == some '[' then
    if host.getLast? == some ']' && Ipv6.isAddress (host.drop 1).dropLast then
      .ok (String.ofList host)
    else .error .ipv6
  else if !special then
    if host.any forbiddenInHost.contains then .error .hostCharacter else .ok (String.ofList host)
  else
    match Domain.parse? (percentDecode host) with
    | none => .error .domain
    | some name =>
      if name.isEmpty then .error .emptyHost
      else if Ipv4.endsInNumber name.toList then
        match Ipv4.parse? name.toList with
        | some address => .ok (Ipv4.write address)
        | none => .error .ipv4
      else .ok name

/-- Read the port after a host, if there is one, and what follows it. A backslash ends the port. -/
def readPort : (port : Option Nat) → List Char → Except UrlError (Option Nat × List Char)
  | port, [] => .ok (port, [])
  | port, c :: cs =>
    if c.isDigit then
      let port := port.getD 0 * 10 + (c.toNat - '0'.toNat)
      if port < 65536 then readPort (some port) cs else .error .port
    else if c == '\\' then .ok (port, c :: cs)
    else .error .port

/-! ## Authorities -/

/-- What an authority says about its user, if there is an at sign, and what follows the last one. -/
def splitUser (authority : List Char) : Option (List Char) × List Char :=
  if authority.contains '@' then
    let rest := (authority.reverse.takeWhile (· != '@')).reverse
    (some (authority.take (authority.length - rest.length - 1)), rest)
  else (none, authority)

/-- Read an authority, and what of it belongs to the path. `port` is the port of the scheme, if it
asks for a host; `ended` says that nothing follows the authority. -/
def readAuthority (u : Url) (port : Option Nat) (ended : Bool) (authority : List Char) :
    Except UrlError (Url × List Char) := do
  let (user, rest) := splitUser authority
  let user := user.getD []
  let name := user.takeWhile (· != ':')
  let password := (user.dropWhile (· != ':')).drop 1
  let u := { u with user := name, password := if password.isEmpty then none else some password }
  if authority == ['@'] && !ended then throw .emptyHost
  let (host, rest) := splitHost false rest
  if host.isEmpty && port.isSome then throw .emptyHost
  let host ← readHost port.isSome host
  if host.isEmpty && !rest.isEmpty then throw .emptyHost
  let (found, rest) ← readPort none (rest.drop 1)
  if host.isEmpty && !(u.user.isEmpty && u.password.isNone) then throw .emptyHost
  return ({ u with
      host := if host.isEmpty then none else some host
      port := if found == port then none else found }, rest)

/-! ## Paths -/

/-- The segment that stands for its directory. -/
def isDot (segment : List Char) : Bool :=
  [".", "%2e"].contains (lowerAscii (String.ofList segment))

/-- The segment that stands for the directory above its own. -/
def isDoubleDot (segment : List Char) : Bool :=
  ["..", ".%2e", "%2e.", "%2e%2e"].contains (lowerAscii (String.ofList segment))

/-- Whether some characters are the letter of a drive, after which a path does not go up. -/
def isDrive : List Char → Bool
  | [c, mark] => c.isAlpha && (mark == ':' || mark == '|')
  | c :: mark :: '\\' :: _ => c.isAlpha && (mark == ':' || mark == '|')
  | _ => false

/-- The segments without the last one; `above` has the last one first. -/
def parent (above : List (List Char)) : List (List Char) :=
  match above with
  | segment :: rest => if isDrive segment then above else rest
  | [] => []

/-- The segments of a path without `.` and `..`, after the segments above them, the last one
first. -/
def resolve (above : List (List Char)) : List (List Char) → List (List Char)
  | [] => above.reverse
  | [s] =>
    (if isDoubleDot s then [] :: parent above else if isDot s then [] :: above
      else s :: above).reverse
  | s :: rest =>
    resolve (if isDoubleDot s then parent above else if isDot s then above else s :: above) rest

/-- The path that begins with a slash and goes on with some characters. -/
def pathFrom (special : Bool) (cs : List Char) : List Char :=
  let cs := cs.map fun c => if isSlash special c then '/' else c
  '/' :: ['/'].intercalate (resolve [] (cs.splitOn '/'))

/-- A path after an authority. -/
def pathAfter (special : Bool) (cs : List Char) : List Char :=
  match cs with
  | [] => if special then ['/'] else []
  | c :: rest => pathFrom special (if isSlash special c then rest else cs)

/-- The path of a file, which has nothing between the slashes at its beginning. -/
def filePath (cs : List Char) : List Char :=
  '/' :: (pathAfter true cs).dropWhile (· == '/')

/-! ## URLs -/

/-- Read the host and the path of a file. -/
def readFile (u : Url) (cs : List Char) : Except UrlError Url := do
  match cs with
  | a :: b :: rest =>
    let host := rest.takeWhile (!isSlash true ·)
    if !(isSlash true a && isSlash true b) then return { u with path := filePath cs }
    if host.isEmpty || isDrive host then return { u with path := filePath rest }
    let host ← readHost true host
    return { u with
      host := if host == "localhost" then none else some host
      path := filePath (rest.dropWhile (!isSlash true ·)) }
  | _ => return { u with path := filePath cs }

/-- Read the authority and the path after a scheme. `ended` says that nothing follows them. -/
def readHierarchy (u : Url) (port : Option Nat) (ended : Bool) (cs : List Char) :
    Except UrlError Url := do
  let special := port.isSome
  let authority := cs.takeWhile (!isSlash special ·)
  let path := cs.dropWhile (!isSlash special ·)
  let (u, rest) ← readAuthority u port (ended && path.isEmpty) authority
  return { u with path := pathAfter special (rest ++ path) }

/-- Read a URL. -/
def parse (s : String) : Except UrlError Url := do
  let (scheme, rest) ← splitScheme (significant s)
  let hierarchy := rest.takeWhile (!endsPath ·)
  let rest := rest.dropWhile (!endsPath ·)
  let query := if rest.head? == some '?' then (rest.drop 1).takeWhile (· != '#') else []
  let u : Url := { scheme, query }
  match SchemeKind.of scheme with
  | .file => readFile u hierarchy
  | .hosted port => readHierarchy u (some port) rest.isEmpty (hierarchy.dropWhile (isSlash true))
  | .other =>
    match hierarchy with
    | '/' :: '/' :: cs => readHierarchy u none rest.isEmpty cs
    | '/' :: cs => return { u with path := pathFrom false cs }
    | cs => return { u with path := cs }

end Url

end RiskReport.Network
