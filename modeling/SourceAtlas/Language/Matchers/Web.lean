import SourceAtlas.Language.Matchers.Basic

/-!
# Languages of the web

The line matchers of these languages, one record each. JavaScript and TypeScript share their
declarations: see `scriptClass`, `scriptFunctions` and `scriptImports`.
-/

namespace SourceAtlas.Matchers

open Pattern CharClass

/-- A class of JavaScript or TypeScript. -/
def scriptClass : Pattern :=
  start ++ optional (lit "export" ++ gap) ++ optional (lit "default" ++ gap) ++
    optional (lit "abstract" ++ gap) ++ lit "class" ++ gap ++ name (many1 (one (wordOr "$")))

/-- Function declarations, arrow functions bound to a name, and arrow functions as members. -/
def scriptFunctions : List Pattern := [
    start ++ optional (lit "export" ++ gap) ++ optional (lit "default" ++ gap) ++
      optional (lit "async" ++ gap) ++ lit "function" ++ blanks ++ optional (lit "*") ++
      blanks ++ name (many1 (one (wordOr "$"))),
    start ++ optional (lit "export" ++ gap) ++ oneOf ["const", "let", "var"] ++ gap ++
      name (many1 (one (wordOr "$"))) ++ blanks ++ optional (lit ":" ++
      many1 (one (except "="))) ++ lit "=" ++ blanks ++ optional (lit "async" ++ gap) ++
      (lit "(" ++ many (one (except ")")) ++ lit ")" <|> many1 (one (wordOr "$"))) ++ blanks ++
      optional (lit ":" ++ many1 (one (except "="))) ++ lit "=>",
    start ++ name (many1 (one (wordOr "$"))) ++ blanks ++ lit ":" ++ blanks ++
      optional (lit "async" ++ gap) ++ lit "(" ++ many (one (except ")")) ++ lit ")" ++ blanks ++
      lit "=>"]

/-- Import and export clauses and calls of `require`. -/
def scriptImports : List Pattern := [
    start ++ lit "import" ++ gap ++ optional (lit "type" ++ gap) ++
      clause (fewest1 (one notNewline)) ++ gap ++ lit "from" ++ gap ++ one (among "'\"") ++
      target (many1 (one (except "'\""))) ++ one (among "'\""),
    start ++ lit "import" ++ gap ++ one (among "'\"") ++ target (many1 (one (except "'\""))) ++
      one (among "'\""),
    start ++ lit "export" ++ gap ++ optional (lit "type" ++ gap) ++
      clause (fewest1 (one notNewline)) ++ gap ++ lit "from" ++ gap ++ one (among "'\"") ++
      target (many1 (one (except "'\""))) ++ one (among "'\""),
    start ++ oneOf ["const", "let", "var"] ++ gap ++ clause (fewest1 (one notNewline)) ++
      blanks ++ lit "=" ++ blanks ++ lit "require(" ++ blanks ++ one (among "'\"") ++
      target (many1 (one (except "'\""))) ++ one (among "'\"") ++ blanks ++ lit ")",
    start ++ lit "require(" ++ blanks ++ one (among "'\"") ++
      target (many1 (one (except "'\""))) ++ one (among "'\"") ++ blanks ++ lit ")"]

/-- JavaScript. -/
def javascript : Matchers where
  types := [scriptClass]
  functions := scriptFunctions
  imports := scriptImports
  commentMarks := slashComments

/-- TypeScript. -/
def typescript : Matchers where
  types := [
    scriptClass,
    start ++ optional (lit "export" ++ gap) ++ optional (lit "declare" ++ gap) ++
      oneOf ["interface", "enum", "type"] ++ gap ++ name (many1 (one (wordOr "$")))]
  functions := scriptFunctions
  imports := scriptImports
  commentMarks := slashComments

/-- PHP. -/
def php : Matchers where
  types := [
    start ++ many (oneOf ["abstract", "final", "readonly"] ++ gap) ++ oneOf ["class",
      "interface", "trait", "enum"] ++ gap ++ name ident]
  functions := [
    start ++ many (oneOf ["public", "private", "protected", "static", "abstract", "final"] ++
      gap) ++ lit "function" ++ gap ++ optional (lit "&") ++ name ident]
  imports := [
    start ++ lit "use" ++ gap ++ optional (lit "function" ++ gap <|> lit "const" ++ gap) ++
      target (many1 (one (wordOr "\\"))) ++ optional (gap ++ lit "as" ++ gap ++ ident) ++
      blanks ++ lit ";",
    start ++ oneOf ["require", "include"] ++ optional (lit "_once") ++ blanks ++
      optional (lit "(") ++ blanks ++ one (among "'\"") ++ target (many1 (one (except "'\""))) ++
      one (among "'\"")]
  namespaceLine := some <|
    start ++ lit "namespace" ++ gap ++ name (many1 (one (wordOr "\\"))) ++ blanks ++ lit ";"
  commentMarks := ["//", "#", "/*", "*"]
  importKind := "use_declaration"

/-- Dart. -/
def dart : Matchers where
  types := [
    start ++ optional (lit "abstract" ++ gap) ++ oneOf ["class", "mixin", "enum", "extension"] ++
      gap ++ name ident]
  functions := [
    start ++ notAhead (oneOf ["return", "if", "for", "while", "switch", "new", "await",
      "else"] ++ edge) ++ many1 (one (wordOr "<>?,")) ++ gap ++ name ident ++ blanks ++
      lit "(" ++ many (one (except ";")) ++ lit ")" ++ blanks ++ optional (lit "async" ++
      blanks) ++ oneOf ["\x7b", "=>"]]
  imports := [
    start ++ oneOf ["import", "export", "part"] ++ gap ++ one (among "'\"") ++
      target (many1 (one (except "'\""))) ++ one (among "'\"")]
  commentMarks := slashComments

/-- GraphQL. -/
def graphql : Matchers where
  types := [
    start ++ optional (lit "extend" ++ gap) ++ oneOf ["type", "interface", "enum", "input",
      "union", "scalar"] ++ gap ++ name ident]
  commentMarks := ["#"]
  typeKind := "type_definition"

/-- HTML. -/
def html : Matchers where
  commentMarks := ["<!--"]

/-- XML. -/
def xml : Matchers where
  commentMarks := ["<!--"]

/-- CSS. -/
def css : Matchers where
  commentMarks := ["/*", "*"]

end SourceAtlas.Matchers
