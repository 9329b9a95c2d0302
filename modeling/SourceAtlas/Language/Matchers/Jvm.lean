import SourceAtlas.Language.Matchers.Basic

/-!
# Languages of the Java platform

The line matchers of these languages, one record each. All four separate packages by dots.
-/

namespace SourceAtlas.Matchers

open Pattern CharClass

/-- Java. -/
def java : Matchers where
  types := [
    start ++ many (lit "@" ++ ident ++ gap) ++ many (oneOf ["public", "private", "protected",
      "abstract", "final", "static", "sealed", "non-sealed", "strictfp"] ++ gap) ++
      oneOf ["class", "interface", "enum", "record", "@interface"] ++ gap ++ name ident]
  functions := [
    start ++ many1 (oneOf ["public", "private", "protected", "static", "final", "abstract",
      "synchronized", "native", "default"] ++ gap) ++ optional (lit "<" ++
      many1 (one (except ">")) ++ lit ">" ++ gap) ++ many1 (one (wordOr "<>[],.?")) ++ gap ++
      name ident ++ blanks ++ lit "(",
    start ++ oneOf ["public", "private", "protected"] ++ gap ++ name (one upper ++
      many (one anyWord)) ++ blanks ++ lit "("]
  imports := [
    start ++ lit "import" ++ gap ++ optional (lit "static" ++ gap) ++ target (ident ++
      many (lit "." ++ ident) ++ optional (lit ".*")) ++ blanks ++ optional (lit ";")]
  namespaceLine := some <|
    start ++ lit "package" ++ gap ++ name (many1 (one (wordOr "."))) ++ blanks ++ lit ";"
  commentMarks := slashComments
  functionKind := "method_declaration"
  importKind := "import_declaration"
  dottedImports := true

/-- Kotlin. -/
def kotlin : Matchers where
  types := [
    start ++ many (oneOf ["public", "private", "internal", "protected", "open", "abstract",
      "sealed", "data", "enum", "inner", "annotation", "value"] ++ gap) ++ oneOf ["class",
      "interface", "object"] ++ gap ++ name ident]
  functions := [
    start ++ many (oneOf ["public", "private", "internal", "protected", "open", "override",
      "suspend", "inline", "abstract", "operator", "infix"] ++ gap) ++ lit "fun" ++ gap ++
      optional (lit "<" ++ many1 (one (except ">")) ++ lit ">" ++ gap) ++
      optional (many1 (one (wordOr ".")) ++ lit ".") ++ name ident]
  imports := [
    start ++ lit "import" ++ gap ++ target (ident ++ many (lit "." ++ ident) ++
      optional (lit ".*"))]
  namespaceLine := some <|
    start ++ lit "package" ++ gap ++ name (many1 (one (wordOr ".")))
  commentMarks := slashComments
  importKind := "import_declaration"
  dottedImports := true

/-- Scala. -/
def scala : Matchers where
  types := [
    start ++ many (oneOf ["case", "abstract", "final", "sealed", "implicit", "private",
      "protected"] ++ gap) ++ oneOf ["class", "trait", "object"] ++ gap ++ name ident]
  functions := [
    start ++ many (oneOf ["override", "private", "protected", "final", "implicit"] ++ gap) ++
      lit "def" ++ gap ++ name ident]
  imports := [
    start ++ lit "import" ++ gap ++ target (fewest1 (one (wordOr "."))) ++
      optional (lit ".\x7b" ++ clause (many (one (except "\x7d"))) ++ lit "\x7d") ++ finish]
  namespaceLine := some <|
    start ++ lit "package" ++ gap ++ name (many1 (one (wordOr ".")))
  commentMarks := slashComments
  importKind := "import_declaration"
  dottedImports := true

/-- Clojure. -/
def clojure : Matchers where
  types := [
    start ++ lit "(" ++ oneOf ["defrecord", "deftype", "defprotocol"] ++ gap ++
      name (many1 (one (wordOr "-")))]
  functions := [
    start ++ lit "(defn" ++ optional (lit "-") ++ gap ++ name (many1 (one (wordOr "-?!*<>")))]
  imports := [
    lit "(:require" ++ gap ++ optional (lit "[") ++ target (many1 (one (wordOr ".-"))),
    start ++ lit "(" ++ oneOf ["require", "use"] ++ gap ++ lit "'" ++ optional (lit "[") ++
      target (many1 (one (wordOr ".-")))]
  namespaceLine := some <|
    start ++ lit "(ns" ++ gap ++ name (many1 (one (wordOr ".-")))
  commentMarks := [";"]
  branch := listBranch
  importKind := "require_statement"
  dottedImports := true

end SourceAtlas.Matchers
