import SourceAtlas.Language.Matchers.Basic

/-!
# Data, markup and build files

The line matchers of these languages, one record each. Most of them declare nothing; only their
comment marks are known.
-/

namespace SourceAtlas.Matchers

open Pattern CharClass

/-- SQL. -/
def sql : Matchers where
  types := [
    start ++ anyCase "create" ++ gap ++ optional (anyCase "or" ++ gap ++ anyCase "replace" ++
      gap) ++ optional (anyCase "temporary" ++ gap) ++ anyCaseOf ["table", "view"] ++ gap ++
      optional (anyCase "if" ++ gap ++ anyCase "not" ++ gap ++ anyCase "exists" ++ gap) ++
      optional (one (among "`\"")) ++ name (many1 (one (wordOr ".")))]
  functions := [
    start ++ anyCase "create" ++ gap ++ optional (anyCase "or" ++ gap ++ anyCase "replace" ++
      gap) ++ anyCaseOf ["function", "procedure"] ++ gap ++ optional (one (among "`\"")) ++
      name (many1 (one (wordOr ".")))]
  commentMarks := ["--", "/*", "*"]
  branch :=
    edge ++ anyCaseOf ["case", "when", "if"] ++ edge
  typeKind := "create_table"
  functionKind := "create_function"

/-- Protocol buffers. -/
def proto : Matchers where
  types := [
    start ++ oneOf ["message", "enum", "service"] ++ gap ++ name ident]
  functions := [
    start ++ lit "rpc" ++ gap ++ name ident]
  imports := [
    start ++ lit "import" ++ gap ++ optional (lit "public" ++ gap <|> lit "weak" ++ gap) ++
      lit "\"" ++ target (many1 (one (except "\""))) ++ lit "\""]
  namespaceLine := some <|
    start ++ lit "package" ++ gap ++ name (many1 (one (wordOr "."))) ++ blanks ++ lit ";"
  commentMarks := slashComments
  typeKind := "message_declaration"
  functionKind := "rpc_declaration"

/-- JSON. -/
def json : Matchers where
  commentMarks := []

/-- YAML. -/
def yaml : Matchers where
  commentMarks := ["#"]

/-- TOML. -/
def toml : Matchers where
  commentMarks := ["#"]

/-- INI. -/
def ini : Matchers where
  commentMarks := [";", "#"]

/-- Markdown. -/
def markdown : Matchers where
  commentMarks := ["<!--"]

/-- Dockerfiles. -/
def dockerfile : Matchers where
  commentMarks := ["#"]

/-- Makefiles. -/
def makefile : Matchers where
  commentMarks := ["#"]

/-- CMake. -/
def cmake : Matchers where
  commentMarks := ["#"]

end SourceAtlas.Matchers
