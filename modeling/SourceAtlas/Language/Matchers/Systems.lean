import SourceAtlas.Language.Matchers.Basic

/-!
# Systems languages

The line matchers of these languages, one record each. In C and C++ a line that starts with a
statement keyword declares nothing, see `notKeyword`.
-/

namespace SourceAtlas.Matchers

open Pattern CharClass

/-- No statement keyword starts here. -/
def notKeyword : Pattern :=
  notAhead (oneOf ["if", "else", "while", "for", "switch", "return", "sizeof", "do", "case",
    "typedef"] ++ edge)

/-- C. -/
def c : Matchers where
  types := [
    start ++ optional (lit "typedef" ++ gap) ++ oneOf ["struct", "union", "enum"] ++ gap ++
      name ident ++ ahead (blanks ++ (lit "\x7b" <|> finish))]
  functions := [
    start ++ notKeyword ++ many (oneOf ["static", "inline", "extern", "const", "unsigned",
      "signed", "struct"] ++ gap) ++ ident ++ (blanks ++ many1 (lit "*") ++ blanks <|> gap) ++
      name (notKeyword ++ ident) ++ blanks ++ lit "(" ++ many (one (except ";")) ++ finish]
  imports := [
    start ++ lit "#" ++ blanks ++ lit "include" ++ gap ++ one (among "<\"") ++
      target (many1 (one (except ">\""))) ++ one (among ">\"")]
  namespaceLine := some <|
    start ++ lit "namespace" ++ gap ++ name (many1 (one (wordOr ":")))
  commentMarks := slashComments
  typeKind := "struct_specifier"
  functionKind := "function_definition"
  importKind := "preproc_include"

/-- C++. -/
def cpp : Matchers where
  types := [
    start ++ optional (lit "template" ++ blanks ++ lit "<" ++ many (one (except ">")) ++
      lit ">" ++ blanks) ++ optional (lit "typedef" ++ gap) ++ (oneOf ["class", "struct",
      "union"] <|> lit "enum" ++ optional (gap ++ lit "class")) ++ gap ++ name ident ++
      ahead (blanks ++ (one (among "\x7b:") <|> finish) <|> gap ++ lit "final" ++ edge)]
  functions := [
    start ++ notKeyword ++ many (oneOf ["static", "inline", "extern", "const", "unsigned",
      "signed", "virtual", "constexpr"] ++ gap) ++ many1 (one (wordOr ":<>*&")) ++
      many1 (one (blankOr "*&")) ++ optional (many1 (one (wordOr ":")) ++ lit "::") ++
      name (notKeyword ++ optional (lit "~") ++ ident) ++ blanks ++ lit "(" ++
      many (one (except ";")) ++ finish]
  imports := [
    start ++ lit "#" ++ blanks ++ lit "include" ++ gap ++ one (among "<\"") ++
      target (many1 (one (except ">\""))) ++ one (among ">\"")]
  namespaceLine := some <|
    start ++ lit "namespace" ++ gap ++ name (many1 (one (wordOr ":")))
  commentMarks := slashComments
  typeKind := "class_specifier"
  functionKind := "function_definition"
  importKind := "preproc_include"

/-- C#. -/
def csharp : Matchers where
  types := [
    start ++ many (oneOf ["public", "private", "protected", "internal", "static", "abstract",
      "sealed", "partial", "readonly"] ++ gap) ++ oneOf ["class", "interface", "struct", "enum",
      "record"] ++ gap ++ name ident]
  functions := [
    start ++ many1 (oneOf ["public", "private", "protected", "internal", "static", "virtual",
      "override", "abstract", "async", "sealed", "extern", "new"] ++ gap) ++
      many1 (one (wordOr "<>[],.?")) ++ gap ++ name ident ++ blanks ++ lit "("]
  imports := [
    start ++ lit "using" ++ gap ++ optional (lit "static" ++ gap) ++
      target (many1 (one (wordOr "."))) ++ blanks ++ lit ";"]
  namespaceLine := some <|
    start ++ lit "namespace" ++ gap ++ name (many1 (one (wordOr ".")))
  commentMarks := slashComments
  functionKind := "method_declaration"
  importKind := "using_directive"
  dottedImports := true

/-- Go. -/
def go : Matchers where
  types := [
    start ++ lit "type" ++ gap ++ name ident ++ gap ++ oneOf ["struct", "interface"] ++ edge]
  functions := [
    start ++ lit "func" ++ gap ++ optional (lit "(" ++ many (one (except ")")) ++ lit ")" ++
      blanks) ++ name ident]
  imports := [
    start ++ lit "import" ++ gap ++ optional (many1 (one (wordOr ".")) ++ gap) ++ lit "\"" ++
      target (many1 (one (except "\""))) ++ lit "\""]
  namespaceLine := some <| start ++ lit "package" ++ gap ++ name ident
  commentMarks := slashComments
  branch :=
    edge ++ oneOf ["if", "for", "case", "select"] ++ edge <|> oneOf ["&&", "||"]
  typeKind := "type_declaration"
  importKind := "import_declaration"
  importBlock := some
    { opener := start ++ lit "import" ++ blanks ++ lit "(" ++ finish,
      item := start ++ optional (many1 (one (wordOr ".")) ++ gap) ++ lit "\"" ++
        target (many1 (one (except "\""))) ++ lit "\"" }

/-- Rust. -/
def rust : Matchers where
  types := [
    start ++ optional (lit "pub" ++ optional (lit "(" ++ many (one (except ")")) ++ lit ")") ++
      gap) ++ oneOf ["struct", "enum", "trait", "union"] ++ gap ++ name ident]
  functions := [
    start ++ optional (lit "pub" ++ optional (lit "(" ++ many (one (except ")")) ++ lit ")") ++
      gap) ++ optional (lit "const" ++ gap) ++ optional (lit "async" ++ gap) ++
      optional (lit "unsafe" ++ gap) ++ optional (lit "extern" ++ gap ++ lit "\"" ++
      many (one (except "\"")) ++ lit "\"" ++ gap) ++ lit "fn" ++ gap ++ name ident]
  imports := [
    start ++ optional (lit "pub" ++ gap) ++ lit "use" ++ gap ++
      target (fewest1 (one (wordOr ":"))) ++ optional (lit "::\x7b" ++
      clause (many (one (except "\x7d"))) ++ lit "\x7d") ++ blanks ++ lit ";",
    start ++ optional (lit "pub" ++ gap) ++ lit "mod" ++ gap ++ target ident ++ blanks ++ lit ";"]
  commentMarks := slashComments
  branch :=
    edge ++ oneOf ["if", "for", "while", "loop", "match"] ++ edge <|> oneOf ["=>", "&&", "||"]
  typeKind := "struct_item"
  functionKind := "function_item"
  importKind := "use_declaration"

/-- Swift. -/
def swift : Matchers where
  types := [
    start ++ many (oneOf ["public", "private", "internal", "fileprivate", "open", "final"] ++
      gap) ++ oneOf ["class", "struct", "enum", "protocol", "extension", "actor"] ++ gap ++
      name ident]
  functions := [
    start ++ many ((oneOf ["public", "private", "internal", "fileprivate", "open", "static",
      "class", "override", "mutating", "final"] <|> lit "@" ++ ident) ++ gap) ++ lit "func" ++
      gap ++ name ident]
  imports := [
    start ++ lit "import" ++ gap ++ target (many1 (one (wordOr ".")))]
  commentMarks := slashComments
  branch :=
    edge ++ oneOf ["if", "guard", "for", "while", "case", "catch"] ++ edge <|> oneOf ["&&", "||"]
  importKind := "import_declaration"

end SourceAtlas.Matchers
