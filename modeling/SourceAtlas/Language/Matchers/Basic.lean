import SourceAtlas.Pattern.Basic

/-!
# What a language declares

For each language the patterns that recognise its declarations, imports and comments on a single
stripped line. Main type: `Matchers`.
-/

namespace SourceAtlas

/-- A grouped import: a line that opens the group, and the lines inside it. -/
structure ImportBlock where
  opener : Pattern
  item : Pattern

/-- The marks of a line comment, of a block comment and of its continuation lines. -/
def slashComments : List String := ["//", "/*", "*"]

/-- Branches written with the usual keywords and the short-circuit operators. -/
def usualBranch : Pattern :=
  open Pattern in
  edge ++ oneOf ["if", "for", "while", "case", "catch", "when"] ++ edge <|> oneOf ["&&", "||"]

/-- Branches written as lists. -/
def listBranch : Pattern :=
  open Pattern in
  lit "(" ++ oneOf ["if", "cond", "when", "unless", "case"] ++ edge

/-- How the lines of a language are read. A line is tried against the patterns for types, then for
    functions, then for imports; the first pattern that fits decides. -/
structure Matchers where
  types : List Pattern := []
  functions : List Pattern := []
  imports : List Pattern := []
  /-- The line that gives the file its namespace. -/
  namespaceLine : Option Pattern := none
  /-- A line that starts with one of these is a comment. -/
  commentMarks : List String := ["//", "#", "/*", "*"]
  /-- One branch of the control flow. -/
  branch : Pattern := usualBranch
  typeKind : String := "class_declaration"
  functionKind : String := "function_declaration"
  importKind : String := "import_statement"
  importBlock : Option ImportBlock := none
  /-- Modules are named with dots between packages. -/
  dottedImports : Bool := false

/-- The language declares something; otherwise only its lines are counted. -/
def Matchers.declares (m : Matchers) : Bool :=
  !(m.types.isEmpty && m.functions.isEmpty && m.imports.isEmpty)

end SourceAtlas
