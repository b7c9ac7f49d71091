import RiskReport.Text.Printable

/-!
# Quoted texts and written records

`quoted` writes a text between double quotes so that every character can be told apart: quotes,
backslashes and the four common controls have short escapes, and every other character that is not
printable is written by its code point in hexadecimal. Diagnostics quote the texts they speak of
in this way, and the one-line form of a record (`record`) writes its texts in this way too.
-/

namespace RiskReport.Text

/-- Lower-case hexadecimal digits, without leading zeros. -/
def hexDigits (n : Nat) : List Char :=
  Nat.toDigits 16 n

/-- One character as it stands inside a quoted text. -/
def quoteChar (c : Char) : List Char :=
  if c == '"' then ['\\', '"']
  else if c == '\\' then ['\\', '\\']
  else if c == '\n' then ['\\', 'n']
  else if c == '\r' then ['\\', 'r']
  else if c == '\t' then ['\\', 't']
  else if c == '\x00' then ['\\', '0']
  else if isPrintable c then [c]
  else ['\\', 'u', '{'] ++ hexDigits c.toNat ++ ['}']

/-- The text between double quotes, each character told apart. -/
def quoted (s : String) : String :=
  String.ofList ('"' :: s.toList.flatMap quoteChar ++ ['"'])

/-- An optional value in one line: `Some(value)` or `None`. -/
def option {α : Type} (write : α → String) : Option α → String
  | some a => "Some(" ++ write a ++ ")"
  | none => "None"

/-- A record in one line, its fields in the given order. An `abridged` record says by two dots
that it has fields which are not shown. -/
def record (name : String) (fields : List (String × String)) (abridged : Bool := false) :
    String :=
  let shown := fields.map (fun f => f.1 ++ ": " ++ f.2) ++ (if abridged then [".."] else [])
  name ++ " \x7b " ++ ", ".intercalate shown ++ " \x7d"

end RiskReport.Text
