import SourceAtlas.Language.Matchers.Basic

/-!
# Numeric and office languages

The line matchers of these languages, one record each. Fortran and Visual Basic do not tell
capital from small letters.
-/

namespace SourceAtlas.Matchers

open Pattern CharClass

/-- Fortran. -/
def fortran : Matchers where
  types := [
    start ++ anyCase "type" ++ blanks ++ optional (lit "," ++ many (one (except ":"))) ++
      lit "::" ++ blanks ++ name ident]
  functions := [
    start ++ many (many1 (one (wordOr "()*=")) ++ gap) ++ anyCaseOf ["function", "subroutine"] ++
      gap ++ name ident]
  imports := [
    start ++ anyCase "use" ++ gap ++ target ident]
  namespaceLine := some <|
    start ++ anyCase "module" ++ gap ++ notAhead (anyCase "procedure" ++ edge) ++ name ident
  commentMarks := ["!"]
  branch :=
    edge ++ anyCaseOf ["if", "do", "select", "case"] ++ edge
  functionKind := "function_definition"

/-- MATLAB. -/
def matlab : Matchers where
  types := [
    start ++ lit "classdef" ++ gap ++ optional (lit "(" ++ many (one (except ")")) ++ lit ")" ++
      blanks) ++ name ident]
  functions := [
    start ++ lit "function" ++ gap ++ optional (optional (lit "[") ++
      many (one (wordBlankOr ",")) ++ optional (lit "]") ++ blanks ++ lit "=" ++ blanks) ++
      name ident]
  commentMarks := ["%"]
  branch :=
    edge ++ oneOf ["if", "elseif", "for", "while", "case", "catch"] ++ edge <|> oneOf ["&&",
      "||"]

/-- Visual Basic. -/
def vba : Matchers where
  types := [
    start ++ optional (anyCaseOf ["public", "private"] ++ gap) ++ anyCase "type" ++ gap ++
      name ident]
  functions := [
    start ++ many (anyCaseOf ["public", "private", "friend", "static"] ++ gap) ++
      anyCaseOf ["function", "sub"] ++ gap ++ name ident]
  commentMarks := ["'"]
  branch :=
    edge ++ anyCaseOf ["if", "elseif", "for", "while", "case", "and", "or"] ++ edge

end SourceAtlas.Matchers
