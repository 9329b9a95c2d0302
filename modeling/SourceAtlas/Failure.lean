/-!
# Failures

What can go wrong in an analysis, as a small hierarchy: the failures of the enrichment have a common
ancestor, and all failures descend from `general`. Main type: `Failure`, with `Failure.text`.
-/

namespace SourceAtlas

/-- The kinds of failures. -/
inductive FailureKind where
  | general
  /-- The input is not a list of paths with contents. -/
  | fatalInput
  /-- No language is known for the file. -/
  | unsupportedLanguage
  /-- The language declares nothing, so only lines were counted. -/
  | extractionDegraded
  /-- A single file could not be read. -/
  | extractionFailed
  /-- An import names no file of the project. -/
  | unresolvedImport
  /-- The enrichment failed. -/
  | enrichment
  /-- The provider failed, returned nothing or could not be reached. -/
  | transport
  /-- The provider did not answer in time. -/
  | timeout
  /-- The analysis was cancelled while the provider was busy. -/
  | cancelled
  /-- The answer of the provider does not have the expected shape. -/
  | schemaViolation
  deriving DecidableEq, Repr

namespace FailureKind

/-- The more general kind. -/
def parent? : FailureKind → Option FailureKind
  | general => none
  | fatalInput | unsupportedLanguage | extractionDegraded | extractionFailed | unresolvedImport
  | enrichment => some general
  | transport | schemaViolation => some enrichment
  | timeout | cancelled => some transport

/-- The kinds from a kind up to the most general one. -/
def lineage : FailureKind → List FailureKind
  | general => [general]
  | k@fatalInput | k@unsupportedLanguage | k@extractionDegraded | k@extractionFailed
  | k@unresolvedImport | k@enrichment => [k, general]
  | k@transport | k@schemaViolation => [k, enrichment, general]
  | k@timeout | k@cancelled => [k, transport, enrichment, general]

/-- One kind is a special case of another, or the same. -/
def isA (k ancestor : FailureKind) : Bool :=
  k.lineage.contains ancestor

/-- The lineage goes from each kind to its parent. -/
theorem lineage_eq (k : FailureKind) :
    k.lineage = k :: (k.parent?.map lineage).getD [] := by
  cases k <;> rfl

end FailureKind

/-- A failure, with the file that it is about if there is one. -/
structure Failure where
  kind : FailureKind
  message : String
  file : Option String := none
  deriving DecidableEq, Repr

/-- A failure in one line. -/
def Failure.text (f : Failure) : String :=
  match f.file with
  | none | some "" => f.message
  | some file => f.message ++ " [file=" ++ file ++ "]"

end SourceAtlas
