import SourceAtlas.Decimal.Written
import SourceAtlas.Language.Matchers
import SourceAtlas.Outline.Basic
import SourceAtlas.Outline.Symbols
import SourceAtlas.Pattern.Match

/-!
# Extracting outlines

A file is read line by line. `scan` finds at most one declaration or import on each line; then every
declaration is given the lines up to the next one, and its complexity is one more than the number
of branches on them. Main function: `Outline.ofText`.
-/

namespace SourceAtlas

open Text

/-- The two kinds of declarations. -/
inductive Category where
  | type
  | function
  deriving DecidableEq, Repr

/-- The word for a category in an outline. -/
def Category.word : Category → String
  | type => "type"
  | function => "function"

/-- What a single line says. -/
inductive Finding where
  | declares (category : Category) (name : List Char)
  | imports (target : List Char) (clause : Option (List Char))
  deriving DecidableEq, Repr

/-- A finding with its line: the number, counted from one, and the stripped text. -/
structure Hit where
  line : Nat
  text : List Char
  finding : Finding
  deriving DecidableEq, Repr

namespace Matchers

/-- The stripped line is a comment. -/
def isComment (m : Matchers) (line : List Char) : Bool :=
  m.commentMarks.any (·.toList.isPrefixOf line)

/-- The first of several patterns that occurs in the line. -/
def firstMatch (patterns : List Pattern) (line : List Char) : Option Cursor :=
  patterns.findSome? (·.search line)

/-- What an import line names. -/
def importOf (c : Cursor) : Option Finding :=
  (c.find? .target).map fun target => .imports target (c.find? .clause)

/-- What the stripped line says: types are tried first, then functions, then imports. -/
def find? (m : Matchers) (line : List Char) : Option Finding :=
  match firstMatch m.types line with
  | some c => (c.find? .name).map (.declares .type)
  | none =>
    match firstMatch m.functions line with
    | some c => (c.find? .name).map (.declares .function)
    | none => (firstMatch m.imports line).bind importOf

/-- Whether the stripped line opens a group of imports. -/
def opensBlock (m : Matchers) (line : List Char) : Bool :=
  m.importBlock.any fun block => (block.opener.matchHead line).isSome

/-- What a stripped line inside a group of imports says. -/
def blockItem? (m : Matchers) (line : List Char) : Option Finding :=
  m.importBlock.bind fun block =>
    ((block.item.matchHead line).bind (·.find? .target)).map (.imports · none)

/-- Reads one stripped line, inside a group of imports or outside; answers whether the next line is
    inside, and what the line says. -/
def readLine (m : Matchers) (inside : Bool) (line : List Char) : Bool × Option Finding :=
  if line.isEmpty then (inside, none)
  else if inside then
    if line.head? = some ')' then (false, none) else (true, m.blockItem? line)
  else if m.isComment line then (false, none)
  else if m.opensBlock line then (true, none)
  else (false, m.find? line)

/-- The findings in a list of lines, of which the first has the number `line`. -/
def scan (m : Matchers) : (inside : Bool) → (line : Nat) → List (List Char) → List Hit
  | _, _, [] => []
  | inside, line, raw :: rest =>
    let text := strip raw
    let (next, found) := m.readLine inside text
    let later := scan m next (line + 1) rest
    match found with
    | some finding => ⟨line, text, finding⟩ :: later
    | none => later

/-- The number of branches on a line; blank lines and comments have none. -/
def branchesOn (m : Matchers) (raw : List Char) : Nat :=
  let line := strip raw
  if line.isEmpty || m.isComment line then 0 else m.branch.count line

/-- The number of branches on several lines. -/
def branches (m : Matchers) : List (List Char) → Nat
  | [] => 0
  | raw :: rest => m.branchesOn raw + branches m rest

/-- The number of comments among the lines. -/
def comments (m : Matchers) (lines : List (List Char)) : Nat :=
  lines.countP fun raw => m.isComment (strip raw)

/-- The namespace that the first namespace line declares. -/
def scopeOf? (m : Matchers) (lines : List (List Char)) : Option (List Char) :=
  m.namespaceLine.bind fun p =>
    lines.findSome? fun raw => (p.matchHead (strip raw)).bind (·.find? .name)

end Matchers

namespace Language

/-- The last segment of a dotted module names the imported type. -/
def namesTypeLast (l : Language) : Bool :=
  l = .java || l = .kotlin || l = .scala

/-- The symbols of an import: those of its clause, else the imported type in the languages that name
    it last. -/
def symbols (l : Language) (target : List Char) (clause : Option (List Char)) : List String :=
  let listed := (clause.map symbolChars).getD []
  if listed.isEmpty && l.namesTypeLast && target.contains '.' then
    [.ofList (afterLast ['.'] target)]
  else listed.map .ofList

end Language

/-- What becomes of a hit: its entry in the outline and, unless it is an import, its declaration. -/
structure Entry where
  item : Item
  declared : Option (Category × Declaration)
  deriving DecidableEq, Repr

/-- The declaration of an entry, if it is one of a category. -/
def Entry.declaredAs? (category : Category) (e : Entry) : Option Declaration :=
  e.declared.bind fun (c, d) => if c = category then some d else none

/-- The lines of a file from one number to another, both included. -/
def linesBetween (first last : Nat) (lines : List (List Char)) : List (List Char) :=
  (lines.take last).drop (first - 1)

/-- The first line of the next declaration. -/
def nextDeclaration? : List Hit → Option Nat
  | [] => none
  | ⟨line, _, .declares ..⟩ :: _ => some line
  | ⟨_, _, .imports ..⟩ :: rest => nextDeclaration? rest

namespace Matchers

/-- The kind of an outline entry. -/
def kindOf (m : Matchers) : Category → String
  | .type => m.typeKind
  | .function => m.functionKind

/-- The entry of a hit. If it is a declaration, its lines end at `last`. -/
def entryOf (m : Matchers) (lines : List (List Char)) (hit : Hit) (last : Nat) : Entry :=
  match hit.finding with
  | .declares category name =>
    let last := max last hit.line
    let complexity : Int := 1 + (m.branches (linesBetween hit.line last lines) : Nat)
    { item :=
        { kind := m.kindOf category, text := .ofList hit.text,
          firstLine := hit.line, lastLine := last,
          attributes :=
            [("name", .ofList name), ("category", category.word),
              ("complexity", integerText complexity)] },
      declared := some (category,
        { name := .ofList name, firstLine := hit.line, lastLine := last, complexity }) }
  | .imports target _ =>
    { item :=
        { kind := m.importKind, text := .ofList hit.text,
          firstLine := hit.line, lastLine := hit.line,
          attributes := [("module", .ofList (strip target)), ("category", "import")] },
      declared := none }

/-- The entries of the hits. A declaration has the lines up to the next one, and the last one those
    up to the end. -/
def entries (m : Matchers) (lines : List (List Char)) : List Hit → List Entry
  | [] => []
  | hit :: rest =>
    m.entryOf lines hit (((nextDeclaration? rest).map (· - 1)).getD lines.length)
      :: entries m lines rest

end Matchers

/-- The import of a hit, if it is one. -/
def importOf? (l : Language) (hit : Hit) : Option Import :=
  match hit.finding with
  | .imports target clause =>
    let target := strip target
    some { target := .ofList target, symbols := l.symbols target clause, line := hit.line }
  | .declares .. => none

namespace Outline

/-- The outline of a file, from its lines. -/
def ofLines (path : String) (l : Language) (content : String) (lines : List (List Char)) :
    Outline :=
  let m := l.matchers
  let hits := if m.declares then m.scan false 1 lines else []
  let entries := m.entries lines hits
  { path, language := l
    items := entries.map (·.item)
    functions := entries.filterMap (·.declaredAs? .function)
    types := entries.filterMap (·.declaredAs? .type)
    imports := hits.filterMap (importOf? l)
    lineCount := lines.length
    commentCount := m.comments lines
    scope := (m.scopeOf? lines).map .ofList
    degraded := !m.declares
    content }

/-- The outline of a file with a text as its content. -/
def ofText (path : String) (l : Language) (content : String) : Outline :=
  ofLines path l content (lines content.toList)

end Outline

end SourceAtlas
