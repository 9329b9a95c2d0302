import SourceAtlas.Text.Blank

/-! # Texts made of lines

    A text may be given by its lines, each ended by a line feed (`textOf`), or
    by a carriage return and a line feed (`textEnding`).  Reading its lines gives
    them back if none of them holds a line break of its own
    (`lines_textEnding`), and the texts of two lists of lines make up the text of
    both (`textOf_append`). -/

namespace SourceAtlas.Text

/-- A line does not break within. -/
def Unbroken (line : List Char) : Prop := ∀ c ∈ line, isLineBreak c = false

instance : DecidablePred Unbroken := fun line =>
  List.decidableBAll (fun c => isLineBreak c = false) line

/-- The text with these lines, each ended by a line feed. -/
def textOf (ls : List (List Char)) : String :=
  .ofList (ls.flatMap (· ++ ['\n']))

/-- How the lines of a text end. -/
inductive LineEnd where
  | lf
  | crlf
  deriving DecidableEq, Repr

/-- The characters that end a line. -/
def LineEnd.chars : LineEnd → List Char
  | lf => ['\n']
  | crlf => ['\r', '\n']

/-- The text with these lines, each ended in the same way. -/
def textEnding (e : LineEnd) (ls : List (List Char)) : String :=
  .ofList (ls.flatMap (· ++ e.chars))

theorem textOf_append (xs ys : List (List Char)) : textOf (xs ++ ys) = textOf xs ++ textOf ys := by
  rw [textOf, List.flatMap_append, String.ofList_append]
  rfl

/-- A character that is no line break belongs to the first line of what follows. -/
theorem lines_cons_of_not_isLineBreak {c : Char} (h : isLineBreak c = false) (rest : List Char) :
    lines (c :: rest) = consLine c (lines rest) := by
  have hne : c ≠ '\r' := by
    rintro rfl
    exact absurd h (by decide)
  rw [lines]
  · rw [h, if_neg Bool.false_ne_true]
  · rintro rest' rfl
    exact absurd rfl hne

theorem lines_lineEnd (e : LineEnd) (rest : List Char) :
    lines (e.chars ++ rest) = [] :: lines rest := by
  cases e with
  | lf =>
      show lines ('\n' :: rest) = [] :: lines rest
      rw [lines, if_pos]
      · decide
      · exact nofun
  | crlf => rfl

theorem lines_append_lineEnd {line : List Char} (h : Unbroken line) (e : LineEnd)
    (rest : List Char) : lines (line ++ (e.chars ++ rest)) = line :: lines rest := by
  induction line with
  | nil => exact lines_lineEnd e rest
  | cons c line ih =>
      have hline : Unbroken line := fun d hd => h d (List.mem_cons_of_mem _ hd)
      rw [List.cons_append, lines_cons_of_not_isLineBreak (h c (List.mem_cons_self ..)), ih hline]
      rfl

/-- The lines of a text that is made of lines. -/
theorem lines_textEnding (e : LineEnd) {ls : List (List Char)} (h : ∀ line ∈ ls, Unbroken line) :
    lines (textEnding e ls).toList = ls := by
  rw [textEnding, String.toList_ofList]
  induction ls with
  | nil => rfl
  | cons line ls ih =>
      rw [List.flatMap_cons, List.append_assoc,
        lines_append_lineEnd (h line (List.mem_cons_self ..)),
        ih fun l hl => h l (List.mem_cons_of_mem _ hl)]

theorem lines_textOf {ls : List (List Char)} (h : ∀ line ∈ ls, Unbroken line) :
    lines (textOf ls).toList = ls :=
  lines_textEnding .lf h

end SourceAtlas.Text
