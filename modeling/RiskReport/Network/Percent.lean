import RiskReport.Json.Text
import RiskReport.Text.Utf8

/-!
# Percent signs

In an address, a percent sign and two hexadecimal digits stand for a byte. Characters stand for
the bytes of their UTF-8, and so does a percent sign without two digits after it.
-/

namespace RiskReport.Network

/-- The bytes that some characters stand for. -/
def percentDecode : List Char → List UInt8
  | '%' :: a :: b :: rest =>
    match Json.hexValue? a, Json.hexValue? b with
    | some x, some y => (x * 16 + y).toUInt8 :: percentDecode rest
    | _, _ => '%'.toString.toUTF8.toList ++ percentDecode (a :: b :: rest)
  | c :: rest => c.toString.toUTF8.toList ++ percentDecode rest
  | [] => []

/-- The text that some characters stand for, if their bytes are text. -/
def decodeText (cs : List Char) : Except Text.Utf8Error String :=
  Text.decode (percentDecode cs)

/-- The text of a key or a value of a query, in which a plus sign stands for a space. Bytes that
are not text are replaced. -/
def decodeQuery (cs : List Char) : String :=
  Text.decodeLossy (percentDecode (cs.map fun c => if c == '+' then ' ' else c))

/-- The keys and values of a query. -/
def queryPairs (query : List Char) : List (String × String) :=
  ((query.splitOn '&').filter (!·.isEmpty)).map fun part =>
    (decodeQuery (part.takeWhile (· != '=')), decodeQuery ((part.dropWhile (· != '=')).drop 1))

end RiskReport.Network
