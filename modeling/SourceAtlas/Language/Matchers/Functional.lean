import SourceAtlas.Language.Matchers.Basic

/-!
# Functional languages

The line matchers of these languages, one record each. A Haskell function is declared by its
signature, an Erlang one by its first clause.
-/

namespace SourceAtlas.Matchers

open Pattern CharClass

/-- Haskell. -/
def haskell : Matchers where
  types := [
    start ++ oneOf ["data", "newtype", "class"] ++ gap ++ optional (lit "(" ++
      many (one (except ")")) ++ lit ")" ++ blanks ++ lit "=>" ++ blanks) ++ name (one upper ++
      many (one anyWord)),
    start ++ lit "type" ++ gap ++ name (one upper ++ many (one anyWord))]
  functions := [
    start ++ name (one (lowerOr "_") ++ many (one anyWord) ++ optional (lit "'")) ++ blanks ++
      lit "::"]
  imports := [
    start ++ lit "import" ++ gap ++ optional (lit "qualified" ++ gap) ++
      target (many1 (one (wordOr ".")))]
  namespaceLine := some <|
    start ++ lit "module" ++ gap ++ name (many1 (one (wordOr ".")))
  commentMarks := ["--", "\x7b-"]
  branch :=
    edge ++ oneOf ["if", "case", "where"] ++ edge <|> lit "|" ++ notAhead (lit "|")
  typeKind := "data_declaration"
  importKind := "import_declaration"
  dottedImports := true

/-- F#. -/
def fsharp : Matchers where
  types := [
    start ++ lit "type" ++ gap ++ name ident]
  functions := [
    start ++ lit "let" ++ gap ++ many (oneOf ["rec", "inline", "private", "mutable"] ++ gap) ++
      name ident]
  imports := [
    start ++ lit "open" ++ gap ++ target (many1 (one (wordOr ".")))]
  namespaceLine := some <|
    start ++ oneOf ["namespace", "module"] ++ gap ++ name (many1 (one (wordOr ".")))
  commentMarks := ["//", "(*"]
  branch :=
    edge ++ oneOf ["if", "elif", "match", "for", "while", "when"] ++ edge <|> oneOf ["&&", "||"]
  typeKind := "type_declaration"
  importKind := "open_declaration"
  dottedImports := true

/-- OCaml. -/
def ocaml : Matchers where
  types := [
    start ++ lit "type" ++ gap ++ optional (lit "'" ++ ident ++ gap) ++ name ident]
  functions := [
    start ++ lit "let" ++ gap ++ optional (lit "rec" ++ gap) ++ name (one (lowerOr "_") ++
      many (one anyWord))]
  imports := [
    start ++ lit "open" ++ gap ++ target (many1 (one (wordOr ".")))]
  commentMarks := ["(*"]
  branch :=
    edge ++ oneOf ["if", "match", "for", "while", "when"] ++ edge <|> oneOf ["&&", "||"]
  typeKind := "type_declaration"
  importKind := "open_declaration"
  dottedImports := true

/-- Elixir. -/
def elixir : Matchers where
  types := [
    start ++ lit "defmodule" ++ gap ++ name (many1 (one (wordOr ".")))]
  functions := [
    start ++ lit "def" ++ optional (lit "p") ++ gap ++ name (ident ++
      optional (one (among "?!")))]
  imports := [
    start ++ oneOf ["import", "require", "alias", "use"] ++ gap ++
      target (many1 (one (wordOr ".")))]
  commentMarks := ["#"]
  branch :=
    edge ++ oneOf ["if", "unless", "case", "cond", "with"] ++ edge <|> lit "->"
  typeKind := "module_definition"
  dottedImports := true

/-- Erlang. -/
def erlang : Matchers where
  functions := [
    start ++ name (one lower ++ many (one anyWord)) ++ blanks ++ lit "(" ++
      many (one notNewline) ++ lit ")" ++ blanks ++ optional (lit "when" ++ gap ++
      many (one notNewline)) ++ lit "->"]
  imports := [
    start ++ lit "-import(" ++ blanks ++ target ident,
    start ++ lit "-include" ++ optional (lit "_lib") ++ lit "(" ++ blanks ++ lit "\"" ++
      target (many1 (one (except "\""))) ++ lit "\""]
  namespaceLine := some <|
    start ++ lit "-module(" ++ blanks ++ name ident ++ blanks ++ lit ")"
  commentMarks := ["%"]
  branch :=
    edge ++ oneOf ["if", "case", "receive", "when"] ++ edge
  importKind := "import_declaration"

/-- Scheme. -/
def scheme : Matchers where
  functions := [
    start ++ lit "(define" ++ gap ++ lit "(" ++ name (many1 (one (nonBlankBut "()")))]
  imports := [
    start ++ lit "(import" ++ gap ++ optional (lit "(") ++
      target (many1 (one (nonBlankBut "()")))]
  commentMarks := [";"]
  branch := listBranch

/-- Common Lisp. -/
def lisp : Matchers where
  types := [
    start ++ lit "(defclass" ++ gap ++ name (many1 (one (nonBlankBut "()"))),
    start ++ lit "(defstruct" ++ gap ++ optional (lit "(") ++
      name (many1 (one (nonBlankBut "()")))]
  functions := [
    start ++ lit "(defun" ++ gap ++ name (many1 (one (nonBlankBut "()")))]
  imports := [
    start ++ lit "(require" ++ gap ++ optional (lit "'") ++ optional (lit ":") ++
      target (many1 (one (nonBlankBut "()")))]
  namespaceLine := some <|
    start ++ lit "(in-package" ++ gap ++ many (one (among ":#'")) ++
      name (many1 (one (nonBlankBut "()")))
  commentMarks := [";"]
  branch := listBranch
  importKind := "require_statement"

end SourceAtlas.Matchers
