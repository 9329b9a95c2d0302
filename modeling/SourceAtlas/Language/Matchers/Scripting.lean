import SourceAtlas.Language.Matchers.Basic

/-!
# Scripting languages

The line matchers of these languages, one record each. Their declarations start with a keyword,
apart from functions of R and of the shell.
-/

namespace SourceAtlas.Matchers

open Pattern CharClass

/-- Python. -/
def python : Matchers where
  types := [
    start ++ lit "class" ++ gap ++ name ident]
  functions := [
    start ++ optional (lit "async" ++ gap) ++ lit "def" ++ gap ++ name ident]
  imports := [
    start ++ lit "from" ++ gap ++ target (many1 (one (wordOr "."))) ++ gap ++ lit "import" ++
      gap ++ optional (lit "(") ++ clause (many (one (except ")#"))),
    start ++ lit "import" ++ gap ++ target (many1 (one (wordOr ".")))]
  commentMarks := ["#"]
  branch :=
    edge ++ oneOf ["if", "elif", "for", "while", "except", "and", "or", "case"] ++ edge
  typeKind := "class_definition"
  functionKind := "function_definition"
  dottedImports := true

/-- Ruby. -/
def ruby : Matchers where
  types := [
    start ++ oneOf ["class", "module"] ++ gap ++ name (many1 (one (wordOr ":")))]
  functions := [
    start ++ lit "def" ++ gap ++ optional (lit "self.") ++ name (ident ++
      optional (one (among "?!=")))]
  imports := [
    start ++ lit "require" ++ optional (lit "_relative") ++ blanks ++ optional (lit "(") ++
      blanks ++ one (among "'\"") ++ target (many1 (one (except "'\""))) ++ one (among "'\"")]
  commentMarks := ["#"]
  branch :=
    edge ++ oneOf ["if", "elsif", "unless", "while", "until", "for", "when", "rescue", "and",
      "or"] ++ edge <|> oneOf ["&&", "||"]
  functionKind := "method_declaration"
  importKind := "require_statement"

/-- Perl. -/
def perl : Matchers where
  functions := [
    start ++ lit "sub" ++ gap ++ name ident]
  imports := [
    start ++ oneOf ["use", "require"] ++ gap ++ target (one upper ++ many (one (wordOr ":")))]
  namespaceLine := some <|
    start ++ lit "package" ++ gap ++ name (many1 (one (wordOr ":")))
  commentMarks := ["#"]
  branch :=
    edge ++ oneOf ["if", "elsif", "unless", "for", "foreach", "while", "until"] ++ edge <|>
      oneOf ["&&", "||"]
  functionKind := "subroutine_declaration"
  importKind := "use_statement"

/-- Lua. -/
def lua : Matchers where
  functions := [
    start ++ optional (lit "local" ++ gap) ++ lit "function" ++ gap ++
      optional (many1 (one (wordOr ".")) ++ one (among ".:")) ++ name ident]
  imports := [
    start ++ optional (lit "local" ++ gap ++ many1 (one (wordBlankOr ",")) ++ lit "=" ++
      blanks) ++ lit "require" ++ blanks ++ optional (lit "(") ++ blanks ++ one (among "'\"") ++
      target (many1 (one (except "'\""))) ++ one (among "'\"")]
  commentMarks := ["--"]
  branch :=
    edge ++ oneOf ["if", "elseif", "for", "while", "repeat", "and", "or"] ++ edge
  importKind := "require_statement"

/-- Shell scripts. -/
def shell : Matchers where
  functions := [
    start ++ lit "function" ++ gap ++ name (many1 (one (wordOr "-"))),
    start ++ name (many1 (one (wordOr "-"))) ++ blanks ++ lit "()"]
  imports := [
    start ++ oneOf ["source", "."] ++ gap ++ optional (one (among "'\"")) ++
      target (many1 (one (nonBlankBut "'\";")))]
  commentMarks := ["#"]
  branch :=
    edge ++ oneOf ["if", "elif", "for", "while", "until", "case"] ++ edge <|> oneOf ["&&", "||"]
  functionKind := "function_definition"
  importKind := "source_statement"

/-- PowerShell. -/
def powershell : Matchers where
  types := [
    start ++ anyCase "class" ++ gap ++ name ident]
  functions := [
    start ++ anyCase "function" ++ gap ++ name (many1 (one (wordOr "-")))]
  imports := [
    start ++ (anyCase "Import-Module" <|> anyCase "using" ++ gap ++ anyCase "module") ++ gap ++
      optional (one (among "'\"")) ++ target (many1 (one (nonBlankBut "'\""))),
    start ++ lit "." ++ gap ++ optional (one (among "'\"")) ++
      target (many1 (one (nonBlankBut "'\"")) ++ anyCase ".ps1")]
  commentMarks := ["#"]
  branch :=
    edge ++ anyCaseOf ["if", "elseif", "for", "foreach", "while", "switch", "catch"] ++ edge <|>
      anyCase "-and" ++ edge <|> anyCase "-or" ++ edge

/-- R. -/
def r : Matchers where
  functions := [
    start ++ name (many1 (one (wordOr "."))) ++ blanks ++ oneOf ["<-", "="] ++ blanks ++
      lit "function" ++ edge]
  imports := [
    start ++ oneOf ["library", "require"] ++ blanks ++ lit "(" ++ blanks ++
      optional (one (among "'\"")) ++ target (many1 (one (wordOr "."))) ++
      optional (one (among "'\"")),
    start ++ lit "source" ++ blanks ++ lit "(" ++ blanks ++ one (among "'\"") ++
      target (many1 (one (except "'\""))) ++ one (among "'\"")]
  commentMarks := ["#"]
  importKind := "library_statement"

/-- Julia. -/
def julia : Matchers where
  types := [
    start ++ optional (lit "mutable" ++ gap) ++ lit "struct" ++ gap ++ name ident,
    start ++ lit "abstract" ++ gap ++ lit "type" ++ gap ++ name ident]
  functions := [
    start ++ lit "function" ++ gap ++ optional (many1 (one (wordOr ".")) ++ lit ".") ++
      name (many1 (one (wordOr "!")))]
  imports := [
    start ++ oneOf ["using", "import"] ++ gap ++ target (many1 (one (wordOr "."))) ++
      optional (lit ":" ++ blanks ++ clause (many1 (one notNewline)))]
  namespaceLine := some <| start ++ lit "module" ++ gap ++ name ident
  commentMarks := ["#"]
  typeKind := "struct_definition"
  functionKind := "function_definition"
  importKind := "using_statement"
  dottedImports := true

end SourceAtlas.Matchers
