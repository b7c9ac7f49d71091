import RiskReport.Mail.Message
import RiskReport.Text.Uppercase

/-!
# The texts of mail

Subjects and bodies of the messages. The name of a business comes from a visitor, so it is escaped
before it is put into markup.
-/

namespace RiskReport

open Text

/-- One character as it stands in markup. -/
def escapeChar (c : Char) : List Char :=
  if c == '&' then "&amp;".toList
  else if c == '<' then "&lt;".toList
  else if c == '>' then "&gt;".toList
  else if c == '"' then "&quot;".toList
  else if c == '\x27' then "&#39;".toList
  else [c]

/-- A text as it stands in markup. -/
def escapeHtml (s : String) : String :=
  String.ofList (s.toList.flatMap escapeChar)

/-- How a business is greeted; one with a blank name has none. -/
def greeting (businessName : Option String) : String :=
  match businessName.bind trimmed? with
  | some name => "Hello " ++ name
  | none => "Hello"

/-- A subject with the name of the business in front. -/
def subject (businessName : Option String) (headline : String) : String :=
  match businessName.bind trimmed? with
  | some name => name ++ ": " ++ headline
  | none => headline

/-- An amount in hundredths with two places: `$59.00`, or `59.00 EUR`. -/
def formatAmount (cents : Int) (currency : String) : String :=
  let sign := if cents < 0 then "-" else ""
  let rest := cents.natAbs % 100
  let major :=
    toString (cents.natAbs / 100) ++ "." ++ (if rest < 10 then "0" else "") ++ toString rest
  if lowerAscii currency == "usd" then sign ++ "$" ++ major
  else sign ++ major ++ " " ++ upper currency

/-- The end of every message. -/
def mailFooter : String :=
  "<hr style=\"border: none; border-top: 1px solid #e5e7eb; margin: 32px 0;\">\n" ++
  "  <p style=\"color: #9ca3af; font-size: 12px;\">Risk Mapper · One-time assessment · " ++
    "No account required</p>"

/-- A page of markup with a title, a greeting and further paragraphs. -/
def mailPage (title : String) (businessName : Option String) (paragraphs : List String) : String :=
  "\n".intercalate <|
    ["<!DOCTYPE html>",
      "<html>",
      "<head><meta charset=\"utf-8\"></head>",
      "<body style=\"font-family: sans-serif; color: #1a1a1a; max-width: 560px; " ++
        "margin: 0 auto; padding: 24px;\">",
      "  <h2>" ++ title ++ "</h2>",
      "  <p>" ++ escapeHtml (greeting businessName) ++ ",</p>"] ++
    paragraphs ++
    ["  " ++ mailFooter,
      "</body>",
      "</html>"]

/-- The message that a report is ready, with the address of the report. -/
def reportReadyHtml (businessName : Option String) (url : String) : String :=
  mailPage "Your Risk Assessment is Ready" businessName
    ["  <p>Your assessment is complete. The report ranks your highest-priority risks and",
      "  includes tailored mitigation steps.</p>",
      "  <p style=\"margin: 32px 0;\">",
      "    <a href=\"" ++ url ++ "\" style=\"background: #0f172a; color: #ffffff; " ++
        "padding: 12px 24px; border-radius: 6px; text-decoration: none;\">View Your Report</a>",
      "  </p>",
      "  <p style=\"color: #6b7280; font-size: 14px;\">",
      "    This link is your permanent access to the report. If the button does not work, " ++
        "copy this URL:<br>",
      "    <a href=\"" ++ url ++ "\" style=\"color: #6b7280;\">" ++ url ++ "</a>",
      "  </p>"]

/-- The message that a payment was received. -/
def receiptHtml (businessName : Option String) (amount : String) : String :=
  mailPage "Payment Confirmed" businessName
    ["  <p>We have received your payment of <strong>" ++ amount ++
        "</strong>. Your report is being",
      "  generated and a link to it will follow in a separate email shortly.</p>"]

end RiskReport
