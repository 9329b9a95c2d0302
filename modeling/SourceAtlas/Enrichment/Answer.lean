import SourceAtlas.Enrichment.LocalAssessment
import SourceAtlas.Enrichment.Schema
import SourceAtlas.Failure
import SourceAtlas.Json.Reader
import SourceAtlas.Text.Case
import SourceAtlas.Text.Cut
import SourceAtlas.Value.Shown

/-!
# Answers of a provider

An answer is a text with a JSON object in it, possibly inside a fence of backticks and with prose
around it. `payload` finds the object and `readAnswer` reads the assessment from it.
-/

namespace SourceAtlas

open Text

/-- The marks around a block of code. -/
def fence : List Char := ['\x60', '\x60', '\x60']

/-- Drops the word `json` in any case. -/
def dropJsonWord (cs : List Char) : List Char :=
  match cs with
  | a :: b :: c :: d :: rest =>
    if sameLetter 'j' a && sameLetter 's' b && sameLetter 'o' c && sameLetter 'n' d then rest
    else cs
  | _ => cs

/-- Drops one line break. -/
def dropBreak : List Char → List Char
  | '\r' :: '\n' :: rest => rest
  | '\r' :: rest => rest
  | '\n' :: rest => rest
  | cs => cs

/-- What follows the head of a fence: the word `json`, blanks and a line break, all of which may be
    missing. -/
def dropFenceHead (cs : List Char) : List Char :=
  dropBreak ((dropJsonWord cs).dropWhile fun c => c = ' ' || c = '\t')

/-- What stands inside the first fence. -/
def fenced? (cs : List Char) : Option (List Char) :=
  (breakOn fence cs).bind fun (_, rest) => (breakOn fence (dropFenceHead rest)).map (·.1)

/-- What stands from the first opening brace to the last closing brace. -/
def braced? (cs : List Char) : Option (List Char) :=
  (splitLast '}' (cs.dropWhile (· ≠ '{'))).map fun (before, _) => before ++ ['}']

/-- The JSON object in an answer. -/
def payload? (answer : String) : Option String :=
  let cs := strip answer.toList
  (braced? (((fenced? cs).map strip).getD cs)).map .ofList

/-- An answer that does not have the expected shape. -/
def schemaViolation (message : String) : Failure := ⟨.schemaViolation, message, none⟩

/-- The JSON object in an answer, or what is wrong. -/
def payload (answer : String) : Except Failure String :=
  match payload? answer with
  | some text => .ok text
  | none => .error (schemaViolation "No JSON object found in provider response")

/-- How answers are read, as far as their format leaves it open. -/
structure AnswerReader where
  /-- What the JSON reader takes on. -/
  json : Json.Limits := Json.usualLimits
  /-- What may be written out of an answer that is no text. -/
  shown : Json.Limits := Json.usualLimits
  /-- Halves of surrogate pairs may stand in the texts of an answer. -/
  halves : Bool := false

/-- What the enrichment cannot cope with. -/
inductive Breakdown where
  /-- An answer that is no text goes beyond the limits within which values are written out. -/
  | unwritable (e : Value.Excess)
  /-- A JSON text goes beyond the limits of the reader. -/
  | beyondLimits (e : Json.Error)
  /-- There is no local assessment with these figures. -/
  | badFigures (e : FigureError)
  /-- The time to wait is too large for a floating-point number. -/
  | badTimeout
  /-- The limit on the request is not a whole number. -/
  | badLimit
  deriving DecidableEq, Repr

/-- Why an answer is not used: either it is wrong, and a local assessment takes its place, or it
    breaks the enrichment. -/
inductive Rejection where
  | failure (f : Failure)
  | breakdown (b : Breakdown)
  deriving DecidableEq, Repr

/-- What follows from an error of the JSON reader. -/
def Rejection.ofJson : Json.Error → Rejection
  | .tooDeep => breakdown (.beyondLimits .tooDeep)
  | .tooManyDigits limit digits => breakdown (.beyondLimits (.tooManyDigits limit digits))
  | e => failure (schemaViolation ("Invalid JSON in provider response: " ++ e.message))

variable (r : AnswerReader)

/-- Reads the assessment from a value. -/
def assessmentOf (known : List String) (v : Value) : Except Rejection Assessment :=
  match v with
  | .record _ =>
    match Assessment.ofValue r.halves (some known) v with
    | .valid a => .ok a
    | .wrong n =>
      .error (.failure (schemaViolation
        ("Provider response does not match the enrichment schema (" ++ decimalText n
          ++ " errors)")))
  | _ => .error (.failure (schemaViolation "Provider response is not a JSON object"))

/-- Reads the assessment from an answer. Its graph may only speak of the known paths. -/
def readAnswer (known : List String) (answer : String) : Except Rejection Assessment :=
  match payload answer with
  | .error f => .error (.failure f)
  | .ok text =>
    match Json.read r.json text with
    | .error e => .error (.ofJson e)
    | .ok v => assessmentOf r known v

end SourceAtlas
