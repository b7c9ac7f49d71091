import RiskReport.Hedge.Prompt
import RiskReport.Hedge.Reply

/-!
# Providers of hedges

The two services that run language models. They differ in their addresses, in how a question is
put to them, and in where their answer stands; what the answer says is read by
`HedgeResult.ofReply` for both.
-/

namespace RiskReport

open Json Log

/-- A service that runs language models. -/
inductive Vendor where
  | anthropic
  | deepseek
  deriving DecidableEq, Repr, Inhabited

namespace Vendor

/-- The name of a service. -/
def name : Vendor → String
  | .anthropic => "anthropic"
  | .deepseek => "deepseek"

/-- The address of a service. -/
def defaultBaseUrl : Vendor → String
  | .anthropic => "https://api.anthropic.com"
  | .deepseek => "https://api.deepseek.com"

/-- The model that a service is asked to run if none is chosen. -/
def defaultModel : Vendor → String
  | .anthropic => "claude-opus-4-6"
  | .deepseek => "deepseek-chat"

/-- The part of the program that talks to a service. -/
def target : Vendor → Target
  | .anthropic => .anthropic
  | .deepseek => .deepseek

end Vendor

/-- A service, and how to reach it. -/
structure Provider where
  vendor : Vendor
  apiKey : String
  model : String
  baseUrl : String
  deriving DecidableEq, Repr, Inhabited

namespace Provider

/-- The longest answer that is asked for, in the units of the model. -/
def maxTokens : Nat := 2048

/-- One message of a conversation. -/
def message (role content : String) : Json :=
  .record [("role", .string role), ("content", .string content)]

/-- A question as it is posted to the service. -/
def request (p : Provider) (prompt : String) : Http.Request :=
  match p.vendor with
  | .anthropic =>
    { url := p.baseUrl ++ "/v1/messages"
      headers := [("x-api-key", p.apiKey), ("anthropic-version", "2023-06-01"),
        ("content-type", "application/json")]
      body := .record [("model", .string p.model), ("max_tokens", .ofNat maxTokens),
        ("system", .string systemPrompt), ("messages", .array [message "user" prompt])] }
  | .deepseek =>
    { url := p.baseUrl ++ "/v1/chat/completions"
      headers := [("authorization", "Bearer " ++ p.apiKey), ("content-type", "application/json")]
      body := .record [("model", .string p.model), ("max_tokens", .ofNat maxTokens),
        ("messages", .array [message "system" systemPrompt, message "user" prompt]),
        ("response_format", .record [("type", .string "json_object")])] }

/-- The blocks of an answer: the kind and the text of each. -/
def blocks : Decoder (List (String × String)) :=
  .struct "MessagesResponse" <|
    .withDefault "content"
      (.list <| .struct "ContentBlock" <|
        Prod.mk <$> Fields.required "type" .string <*> .withDefault "text" .string "")
      []

/-- The choices among several answers. -/
def choices : Decoder (List String) :=
  .struct "ChatResponse" <|
    .withDefault "choices"
      (.list <| .struct "Choice" <| .required "message" <|
        .struct "ChoiceMessage" <| .withDefault "content" .string "")
      []

/-- The text of an answer: its first block of text, or the first of several answers unless that is
empty. -/
def answer : Vendor → Decoder (Option String)
  | .anthropic => fun n =>
    (blocks n).map fun bs => (bs.find? (·.1 == "text")).map (·.2)
  | .deepseek => fun n =>
    (choices n).map fun cs => cs.head?.bind Text.nonEmpty?

/-- The text that a reply answers with. -/
def replyText (p : Provider) (reply : Http.Reply) : Except HedgeError String :=
  match reply.body with
  | none => .error (.http .brokenBody)
  | some body =>
    if !reply.isSuccess then .error (.api reply.status (Text.excerpt Http.excerptLength body))
    else
      match (answer p.vendor).ofText body with
      | .error fault => .error (.parse (fault.message body))
      | .ok none => .error .empty
      | .ok (some text) => .ok text

/-- Read the hedges from a reply. -/
def readReply (p : Provider) (reply : Http.Reply) : Except HedgeError HedgeResult :=
  p.replyText reply >>= HedgeResult.ofReply

/-- Ask the service for hedges; for no risks it is not asked. -/
def generate (p : Provider) (risks : List ScoredRisk) :
    Program Http.interface (Except HedgeError HedgeResult) :=
  if risks.isEmpty then .done (.ok .nothing)
  else do
    .report {
      level := .debug
      target := p.vendor.target
      message := some "requesting hedges"
      fields := [("model", .shown p.model), ("risks", .ofNat risks.length)] }
    match ← Http.post (p.request (userPrompt risks)) with
    | .error failure => return .error (.http failure)
    | .ok reply => return p.readReply reply

end Provider

end RiskReport
