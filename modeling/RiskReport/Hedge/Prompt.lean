import RiskReport.Scoring.Ranking

/-!
# Prompts for language models

What a model is told about its work, and the list of risks that it is asked about.
-/

namespace RiskReport

/-- The instructions to a model. -/
def systemPrompt : String :=
  "\n".intercalate [
    "You are a risk management advisor for small and medium businesses.",
    "You will receive a list of business risks identified through an assessment questionnaire.",
    "Each risk has a name, description, probability (1-10), impact (1-10), tier " ++
      "(watch/red/manage/ignore), and a static hedge suggestion.",
    "",
    "Your job is to produce:",
    "1. An executive_summary: 2-3 sentences summarising the overall risk posture. " ++
      "Be direct and specific.",
    "2. A top_priority_html: a short HTML fragment (1-2 sentences, may use <strong>) " ++
      "identifying the single most urgent action. Inline elements only, no <html>, <body> or " ++
      "block elements.",
    "3. A hedges object: for each risk (keyed by question_id), write an improved, specific " ++
      "hedge narrative. 2-4 sentences. Focus on concrete actions with rough timelines. " ++
      "Do not repeat the static hedge verbatim.",
    "",
    "Respond ONLY with valid JSON matching this exact schema, no markdown fences, no preamble:",
    "\x7b",
    "  \"executive_summary\": \"...\",",
    "  \"top_priority_html\": \"...\",",
    "  \"hedges\": \x7b",
    "    \"question_id_1\": \"...\",",
    "    \"question_id_2\": \"...\"",
    "  \x7d",
    "\x7d"]

/-- One risk as a model is asked about it. -/
def ScoredRisk.prompt (r : ScoredRisk) : String :=
  "question_id: " ++ r.questionId ++ "\n" ++
  "name: " ++ r.riskName ++ "\n" ++
  "description: " ++ r.riskDesc ++ "\n" ++
  "probability: " ++ toString r.probability ++ "/10, impact: " ++ toString r.impact ++
    "/10, score: " ++ toString r.score ++ ", tier: " ++ r.tier.text ++ "\n" ++
  "static_hedge: " ++ r.hedge ++ "\n" ++
  "---\n"

/-- The question to a model. -/
def userPrompt (risks : List ScoredRisk) : String :=
  "Here are the business risks to analyse:\n\n" ++ String.join (risks.map ScoredRisk.prompt)

end RiskReport
