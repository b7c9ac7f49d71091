import RiskReport.Hedge.Result

/-!
# Replies of language models

A model is asked for JSON and nothing else, but may put it between code fences. `stripFences` takes
off one opening and one closing fence with the blanks around them, and `HedgeResult.ofReply` reads
what is left.
-/

namespace RiskReport

open Json Text

/-- A code fence. -/
def fence : List Char := "```".toList

/-- A code fence that names its language. -/
def jsonFence : List Char := "```json".toList

/-- The characters without a fence in front. -/
def dropOpening (cs : List Char) : List Char :=
  ((dropPrefixChars? jsonFence cs).or (dropPrefixChars? fence cs)).getD cs

/-- The characters without a fence at the end. -/
def dropClosing (cs : List Char) : List Char :=
  ((dropPrefixChars? fence cs.reverse).map List.reverse).getD cs

/-- The text inside its fences, without the blanks around it. -/
def stripFences (s : String) : String :=
  String.ofList (trimChars (dropClosing (dropOpening (trimChars s.toList))))

/-- Read the reply of a model. A reply that cannot be read is quoted in the error. -/
def HedgeResult.ofReply (reply : String) : Except HedgeError HedgeResult :=
  let text := stripFences reply
  (HedgeResult.decoder.ofText text).mapError fun fault =>
    .parse (fault.message text ++ " (raw: " ++ excerpt Http.excerptLength text ++ ")")

end RiskReport
