/-!
# Instructions for a language model

The text that tells a language model what it receives and in which form it has to answer.
-/

namespace SourceAtlas

/-- The lines of the instructions. -/
def instructionLines : List String := [
  "You are a senior software architect analysing a code base.",
  "You receive a project summary, the file list, per-file structural summaries",
  "and the import relationships resolved so far.",
  "",
  "Return STRICT VALID JSON only, with this shape:",
  "\x7b",
  "  \"summary\": \"string\",",
  "  \"patterns\": [\x7b\"type\": \"string\", \"name\": \"string\", \"line\": number,",
  "                \"description\": \"string\", \"severity\": \"info\" | \"warning\" | \"error\"\x7d],",
  "  \"recommendations\": [\"string\"],",
  "  \"complexityScore\": number,",
  "  \"qualityScore\": number between 0 and 100,",
  "  \"complexityFactors\": [\"string\"],",
  "  \"architecture\": \x7b\"type\": \"string\", \"patterns\": [\"string\"], \"issues\": [\"string\"]\x7d,",
  "  \"graphOverlay\": \x7b",
  "    \"nodes\": [\x7b\"id\": \"<exact path from the file list>\", \"label\": \"string\"\x7d],",
  "    \"edges\": [\x7b\"source\": \"<exact path>\", \"target\": \"<exact path>\",",
  "               \"kind\": \"import\" | \"dependency_injection\" | \"implements\" | \"extends\"",
  "                       | \"calls\" | \"references\",",
  "               \"weight\": number\x7d]",
  "  \x7d",
  "\x7d",
  "Every node id and edge endpoint MUST be an exact path from the file list."]

/-- The instructions. -/
def instructions : String := "\n".intercalate instructionLines

end SourceAtlas
