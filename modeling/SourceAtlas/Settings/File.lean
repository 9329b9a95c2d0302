import SourceAtlas.Settings.Basic
import SourceAtlas.Text.Utf8
import SourceAtlas.Toml.Reader
import SourceAtlas.Toml.Writer

/-!
# Settings in a file

Settings are kept in a TOML document with two tables. `Settings.ofDocument` and `Settings.document?`
go between settings and tables, `Settings.load` and `Settings.save` between settings and text. A
document that cannot be used stands for the usual settings, and so does a missing one. Any reader of
documents will do for loading; the usual one is `Toml.read`.
-/

namespace SourceAtlas

/-- Why settings cannot be loaded at all. -/
inductive LoadError where
  /-- The file is not UTF-8. -/
  | encoding (e : Utf8.Error)
  /-- The document breaks the reader. -/
  | document (e : Toml.Error)
  /-- The name of the service is not a text. -/
  | notName
  deriving DecidableEq, Repr

/-- Why settings cannot be saved. -/
inductive SaveError where
  /-- The directories that are not searched have no order. -/
  | unsortable
  /-- The document cannot be written. -/
  | document (e : Toml.WriteError)
  deriving DecidableEq, Repr

namespace Settings

/-- The value is of the kind that a setting has in a document. -/
def fits (name : String) (v : Value) : Bool :=
  match v with
  | .int _ => name = "max_cycles" || name = "enrichment_timeout" || name = "context_char_limit"
      || name = "max_workers"
  | .float _ => name = "enrichment_timeout"
  | .list _ => name = "skip_dirs"
  | _ => false

/-- The entries of a table, if it is one. -/
def tableOf (document : Value) (name : String) : Entries :=
  match document.get? name with
  | some (.record entries) => entries
  | _ => []

/-- The settings that a document describes. Entries of other kinds are ignored; entries that are
    out of bounds spoil the document. -/
def ofDocument (document : Value) : Except SettingsError Settings := do
  let llm ← ModelSettings.ofEntries (tableOf document "llm")
  ofEntries ((tableOf document "pipeline").filter fun (name, v) => fits name v) llm

/-- The settings of a file with a text, and the usual ones if they cannot be used. -/
def ofText (read : String → Except Toml.Error Value) (text : String) : Except LoadError Settings :=
  match read text with
  | .error .malformed => .ok usual
  | .error e => .error (.document e)
  | .ok document =>
    match ofDocument document with
    | .ok s => .ok s
    | .error .notName => .error .notName
    | .error _ => .ok usual

/-- The settings of a file. -/
def load (read : String → Except Toml.Error Value) (data : List UInt8) :
    Except LoadError Settings :=
  match Utf8.decode data with
  | .ok text => ofText read text
  | .error e => .error (.encoding e)

/-- A document with the settings, if the directories can be sorted. The credentials are left out if
    there are none; the limits of the language model are not kept. -/
def document? (s : Settings) : Option Entries := do
  let directories ← s.sortedDirectories?
  let limit : Value := match s.cycleLimit with
    | .null => .int (-1)
    | v => v
  let workers : Entries := match s.workers with
    | .null => []
    | v => [("max_workers", v)]
  let apiKey : Entries := if s.llm.apiKey.isVoid then [] else [("api_key", s.llm.apiKey)]
  return [("pipeline", .record (
      [("max_cycles", limit), ("enrichment_timeout", s.timeout),
        ("context_char_limit", s.requestLimit), ("skip_dirs", .list directories)]
      ++ workers)),
    ("llm", .record (
      [("provider", s.llm.service), ("model", s.llm.model), ("endpoint", s.llm.endpoint)]
      ++ apiKey))]

/-- The text of a file with the settings. -/
def save (s : Settings) : Except SaveError String :=
  match s.document? with
  | none => .error .unsortable
  | some document => (Toml.write document).mapError .document

end Settings

end SourceAtlas
