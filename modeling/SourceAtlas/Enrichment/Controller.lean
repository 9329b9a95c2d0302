import SourceAtlas.Enrichment.Answer
import SourceAtlas.Enrichment.Assessment
import SourceAtlas.Enrichment.LocalAssessment
import SourceAtlas.Enrichment.Request

/-!
# The enrichment

A controller asks a provider once per run, reads the answer, and falls back to a local assessment
if anything goes wrong:

    idle → requesting → validating → merged   → idle
                  \               \→ fallback → idle
                   \→ fallback → idle

Main function: `Controller.run`.
-/

namespace SourceAtlas

/-- The states of a controller. -/
inductive Phase where
  | idle
  | requesting
  | validating
  | merged
  | fallback
  deriving DecidableEq, Repr

/-- The word for a state. -/
def Phase.word : Phase → String
  | idle => "idle"
  | requesting => "requesting"
  | validating => "validating"
  | merged => "merged"
  | fallback => "fallback"

/-- What a provider does when it is asked. -/
inductive Reply where
  /-- It answers, possibly with nothing or with something that is not a text. -/
  | answers (v : Value)
  /-- It fails, with an error that is written like this. -/
  | raises (shown : String)
  /-- It does not answer in time. -/
  | silent
  /-- It does not answer, and the analysis is cancelled in the meantime. -/
  | cancelled
  deriving Inhabited

/-- A provider, by its reply to every request. -/
abbrev Provider := String → Reply

/-- How long to wait for an answer, how long a request may be, and how an answer is read. -/
structure EnrichmentLimits where
  /-- The time to wait, in seconds. -/
  timeout : Number := .real 60.0
  /-- The number of characters in a request. -/
  request : Number := .whole usualRequestLimit
  reader : AnswerReader := {}

/-- What a run has produced. -/
structure EnrichmentOutcome where
  /-- Either `merged` or `fallback`. -/
  phase : Phase
  assessment : Assessment
  /-- The provider's graph, if it takes the place of the structural one. -/
  overlay : Option Graph
  error : Option Failure

namespace EnrichmentOutcome

/-- The graph that is shown to the user. -/
def graph (o : EnrichmentOutcome) (structural : Graph) : Graph :=
  o.overlay.getD structural

end EnrichmentOutcome

/-- A controller between two runs, or broken off in the middle of one. -/
structure Controller where
  phase : Phase := .idle
  /-- All states so far, in order. -/
  history : Array Phase := #[.idle]
  /-- How the last run has ended. -/
  outcome : Option Phase := none
  /-- The requests that the provider got, in order. -/
  requests : Array String := #[]
  /-- The analysis has been cancelled. -/
  isCancelled : Bool := false

/-- A failure of the provider or on the way to it. -/
def transportFailure (message : String) : Failure := ⟨.transport, message, none⟩

/-- The answer of a provider as a text, unless it is blank. -/
def answerText (r : AnswerReader) (v : Value) : Except Rejection String :=
  match v with
  | .null => .error (.failure (transportFailure "Provider returned an empty response"))
  | v =>
    match v.shown? r.shown.digits r.shown.depth with
    | .error e => .error (.breakdown (.unwritable e))
    | .ok text =>
      if (Text.strip text.toList).isEmpty then
        .error (.failure (transportFailure "Provider returned an empty response"))
      else .ok text

/-- No time is left to wait for an answer. -/
def EnrichmentLimits.isOver (l : EnrichmentLimits) : Bool :=
  l.timeout.toFloat ≤ 0.0

/-- What becomes of a reply. Without time to wait, it comes too late. -/
def EnrichmentLimits.await (l : EnrichmentLimits) (r : Reply) : Except Rejection String :=
  let late : Failure :=
    ⟨.timeout, "No provider response within " ++ briefText l.timeout.toFloat ++ "s", none⟩
  if l.timeout.float?.isNone then .error (.breakdown .badTimeout)
  else if l.isOver then .error (.failure late)
  else match r with
    | .answers v => answerText l.reader v
    | .raises shown => .error (.failure (transportFailure ("Provider raised: " ++ shown)))
    | .silent => .error (.failure late)
    | .cancelled =>
      .error (.failure ⟨.cancelled, "Analysis cancelled during the enrichment request", none⟩)

namespace Controller

/-- Goes over to a state. -/
def enter (c : Controller) (p : Phase) : Controller :=
  { c with phase := p, history := c.history.push p }

/-- Asks the provider. -/
def ask (c : Controller) (l : EnrichmentLimits) (provider : Option Provider) (request : String) :
    Controller × Except Rejection String :=
  match provider with
  | none => (c, .error (.failure (transportFailure "No enrichment provider configured")))
  | some provider =>
    if c.isCancelled then
      (c, .error (.failure
        ⟨.cancelled, "Analysis cancelled before the enrichment request", none⟩))
    else
      let reply := provider request
      let cancels := match reply with
        | .cancelled => true
        | _ => false
      ({ c with requests := c.requests.push request, isCancelled := cancels }, l.await reply)

/-- Ends a run. -/
def finish (c : Controller) (o : EnrichmentOutcome) :
    Controller × Except Breakdown EnrichmentOutcome :=
  ({ (c.enter .idle) with outcome := some o.phase }, .ok o)

variable {ν : Type} [Figure ν]

/-- Ends a run with a local assessment. -/
def fallBack (c : Controller) (s : ProjectStats ν) (f : Failure) :
    Controller × Except Breakdown EnrichmentOutcome :=
  let c := c.enter .fallback
  match localAssessment s with
  | .ok a => c.finish { phase := .fallback, assessment := a, overlay := none, error := some f }
  | .error e => (c, .error (.badFigures e))

/-- Ends a run with the assessment of the provider. Its graph is shown if it has any edges. -/
def merge (c : Controller) (outlines : List (Outline ν)) (a : Assessment) :
    Controller × Except Breakdown EnrichmentOutcome :=
  let overlay := (a.overlay.filter (!·.isEmpty)).map (·.graph outlines)
  (c.enter .merged).finish { phase := .merged, assessment := a, overlay, error := none }

/-- The request for a project within the limit, if the limit can be used. -/
def requestFor (l : EnrichmentLimits) (outlines : List (Outline ν)) (s : ProjectStats ν)
    (g : Graph) : Except Breakdown String :=
  match l.request.whole? with
  | some limit => .ok (requestWithin limit outlines s g)
  | none =>
    let text := requestText outlines s g
    if l.request.isBelow (.whole text.length) then .error .badLimit else .ok text

/-- One run: asks the provider about a project and reads the answer. -/
def run (c : Controller) (l : EnrichmentLimits) (provider : Option Provider)
    (outlines : List (Outline ν)) (s : ProjectStats ν) (g : Graph) :
    Controller × Except Breakdown EnrichmentOutcome :=
  let c := c.enter .requesting
  match requestFor l outlines s g with
  | .error b => (c, .error b)
  | .ok request =>
    match c.ask l provider request with
    | (c, .error (.breakdown b)) => (c, .error b)
    | (c, .error (.failure f)) => c.fallBack s f
    | (c, .ok answer) =>
      let c := c.enter .validating
      match readAnswer l.reader (outlines.map (·.nodeId)) answer with
      | .error (.breakdown b) => (c, .error b)
      | .error (.failure f) => c.fallBack s f
      | .ok a => c.merge outlines a

end Controller

end SourceAtlas
