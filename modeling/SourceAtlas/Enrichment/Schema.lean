import SourceAtlas.Enrichment.Assessment
import SourceAtlas.Enrichment.Fields
import SourceAtlas.Path

/-!
# The schema of an answer

Reads an assessment from an object. Fields that have two words in their name may be written in
camel case or with low lines; camel case wins. Scores, factors and the graph may also stand in
nested objects, as some models answer; `Assessment.liftNested` puts them where they belong, unless
that place is taken in camel case. Unknown fields are ignored.

Main function: `Assessment.ofValue`. With a list of known paths, a graph must not speak of others.
The flag `halves` lets halves of surrogate pairs stand in texts.
-/

namespace SourceAtlas

variable (halves : Bool)

/-- The severity with a word. -/
def Severity.ofValue (v : Value) : Checked Severity :=
  .ofOption ((Field.textOf? false v).bind ofWord?)

/-- A finding. -/
def Remark.ofEntries (entries : Entries) : Checked Remark :=
  Remark.mk <$> Field.required entries ["type"] (Field.text halves)
    <*> Field.required entries ["name"] (Field.text halves)
    <*> Field.optional entries ["line"] 1 Field.natural
    <*> Field.required entries ["description"] (Field.text halves)
    <*> Field.optional entries ["severity"] .info Severity.ofValue

/-- A path in an answer: without blanks around it, and in canonical spelling. -/
def answeredPath (v : Value) : Checked String :=
  (Field.text halves v).map fun s => .ofList (Path.normalizeChars (Text.strip s.toList))

/-- A file of the graph. -/
def OverlayNode.ofEntries (entries : Entries) : Checked OverlayNode :=
  OverlayNode.mk <$> Field.required entries ["id"] (answeredPath halves)
    <*> Field.optional entries ["label"] none (Field.textOrNull halves)
    <*> Field.optional entries ["type"] none (Field.textOrNull halves)

/-- A dependency of the graph. -/
def OverlayEdge.ofEntries (entries : Entries) : Checked OverlayEdge :=
  OverlayEdge.mk <$> Field.required entries ["source"] (answeredPath halves)
    <*> Field.required entries ["target"] (answeredPath halves)
    <*> Field.optional entries ["kind", "type"] "import" (Field.text halves)
    <*> Field.optional entries ["weight", "strength"] 1 Field.natural

/-- The graph. -/
def Overlay.ofEntries (entries : Entries) : Checked Overlay :=
  Overlay.mk
    <$> Field.optional entries ["nodes"] []
      (Field.list (Field.object (OverlayNode.ofEntries halves)))
    <*> Field.optional entries ["edges"] []
      (Field.list (Field.object (OverlayEdge.ofEntries halves)))

/-- The view of the architecture. -/
def Architecture.ofEntries (entries : Entries) : Checked Architecture :=
  Architecture.mk <$> Field.optional entries ["type"] "Unknown" (Field.text halves)
    <*> Field.optional entries ["patterns"] [] (Field.texts halves)
    <*> Field.optional entries ["issues"] [] (Field.texts halves)

namespace Assessment

/-- Puts the score and the factors of a nested `complexity` in their places. -/
def liftComplexity (entries : Entries) : Entries :=
  match entries.lookup "complexity" with
  | some (.record nested) =>
    (entries.insertIfNew "complexityScore" ((nested.lookup "score").getD .null)).insertIfNew
      "complexityFactors" ((nested.lookup "factors").getD (.list []))
  | _ => entries

/-- Puts the score of a nested `quality` in its place. -/
def liftQuality (entries : Entries) : Entries :=
  match entries.lookup "quality" with
  | some (.record nested) =>
    entries.insertIfNew "qualityScore" ((nested.lookup "score").getD .null)
  | _ => entries

/-- Puts a nested `graph` in its place. -/
def liftGraph (entries : Entries) : Entries :=
  match entries.lookup "graph" with
  | some (.record nested) => entries.insertIfNew "graphOverlay" (.record nested)
  | _ => entries

/-- Puts all nested fields in their places. -/
def liftNested (entries : Entries) : Entries :=
  liftGraph (liftQuality (liftComplexity entries))

/-- Reads the fields of an assessment. -/
def ofEntries (entries : Entries) : Checked Assessment :=
  Assessment.mk <$> Field.required entries ["summary"] Field.someText
    <*> Field.required entries ["patterns"] (Field.list (Field.object (Remark.ofEntries halves)))
    <*> Field.required entries ["recommendations"] (Field.texts halves)
    <*> Field.required entries ["complexityScore", "complexity_score"] Field.score
    <*> Field.required entries ["qualityScore", "quality_score"] Field.percentage
    <*> Field.optional entries ["complexityFactors", "complexity_factors"] [] (Field.texts halves)
    <*> Field.optional entries ["architecture"] none
      (Field.objectOrNull (Architecture.ofEntries halves))
    <*> Field.optional entries ["graphOverlay", "graph_overlay"] none
      (Field.objectOrNull (Overlay.ofEntries halves))

end Assessment

/-- The graph speaks of known paths only. -/
def Overlay.isWithin (o : Overlay) (known : List String) : Bool :=
  o.nodes.all (known.contains ·.id)
    && o.edges.all fun e => known.contains e.source && known.contains e.target

namespace Assessment

/-- The graph of the assessment, if there is one, speaks of known paths only. -/
def isWithin (a : Assessment) (known : List String) : Bool :=
  a.overlay.all (·.isWithin known)

/-- Reads an assessment, and checks the paths of its graph if the known ones are given. -/
def ofValue (known : Option (List String)) (v : Value) : Checked Assessment :=
  (Field.object (fun entries => ofEntries halves (liftNested entries)) v).when fun a =>
    known.all (a.isWithin ·)

end Assessment

end SourceAtlas
