import SourceAtlas.Failure
import SourceAtlas.Outline.Extract
import SourceAtlas.Text.Utf8
import SourceAtlas.Value.Basic

/-!
# The input of an analysis

A list of files comes in as a value of any kind. `sourcesOf` takes it as it is meant, or says what
is wrong with it; one bad file spoils the list. A file may be given as a source file, as a pair of
a path and a content, or as a record with these two names.
-/

namespace SourceAtlas

/-- The content of a file, as text or as bytes. -/
inductive Content where
  | text (s : String)
  | bytes (data : List UInt8)
  deriving DecidableEq, Repr

/-- A file to be analysed. -/
structure SourceFile where
  path : String
  content : Content
  deriving DecidableEq, Repr

/-- The input is not a list of files. -/
def fatalInput (message : String) (file : Option String := none) : Failure :=
  ⟨.fatalInput, message, file⟩

/-- The number of a file in a message. -/
def fileNumber (index : Nat) : String := "File #" ++ decimalText index ++ ": "

/-- A content, if the value is one. -/
def Content.ofValue? : Value → Option Content
  | .text s => some (text s)
  | .bytes data => some (bytes data)
  | _ => none

/-- The content of a file as a value. -/
def Content.value : Content → Value
  | .text s => .text s
  | .bytes data => .bytes data

theorem Content.ofValue?_eq_some_iff {v : Value} {c : Content} :
    ofValue? v = some c ↔ v = c.value := by
  cases c <;> cases v <;> simp [ofValue?, value, eq_comm]

/-- A file from its path and content. The path must not be blank. -/
def sourceOfParts (index : Nat) (path content : Value) : Except Failure SourceFile :=
  let badPath : Failure :=
    fatalInput (fileNumber index ++ "path must be a non-empty string, got " ++ path.kind)
  match path with
  | .text p =>
    if (Text.strip p.toList).isEmpty then .error badPath
    else match Content.ofValue? content with
      | some c => .ok ⟨p, c⟩
      | none =>
        .error (fatalInput
          (fileNumber index ++ "content must be str or bytes, got " ++ content.kind) (some p))
  | _ => .error badPath

/-- A file in one of the forms in which it may be given. -/
def sourceOf (index : Nat) (v : Value) : Except Failure SourceFile :=
  match v with
  | .file path content => sourceOfParts index path content
  | .record entries =>
    match entries.lookup "path", entries.lookup "content" with
    | some path, some content => sourceOfParts index path content
    | _, _ =>
      .error (fatalInput (fileNumber index ++ "mapping needs 'path' and 'content' keys"))
  | .list [path, content] => sourceOfParts index path content
  | .tuple [path, content] => sourceOfParts index path content
  | _ =>
    .error (fatalInput
      (fileNumber index ++ "expected a (path, content) record, got " ++ v.kind))

/-- The files of a list, of which the first has the number `index`. -/
def sourcesFrom : (index : Nat) → List Value → Except Failure (List SourceFile)
  | _, [] => .ok []
  | index, v :: rest =>
    match sourceOf index v with
    | .error f => .error f
    | .ok source => (sourcesFrom (index + 1) rest).map (source :: ·)

/-- The files that a value lists. -/
def sourcesOf (v : Value) : Except Failure (List SourceFile) :=
  match v with
  | .list items | .tuple items => sourcesFrom 0 items
  | _ => .error (fatalInput ("Expected a list of files, got " ++ v.kind))

/-- The text of a file. -/
def SourceFile.text (f : SourceFile) : Except Failure String :=
  match f.content with
  | .text s => .ok s
  | .bytes data =>
    match Utf8.decode data with
    | .ok s => .ok s
    | .error e =>
      .error ⟨.extractionFailed, "Content is not valid UTF-8: " ++ e.message, some f.path⟩

/-- The outline of a file in a language. -/
def SourceFile.outline (l : Language) (f : SourceFile) : Except Failure Outline :=
  f.text.map (Outline.ofText f.path l ·)

end SourceAtlas
