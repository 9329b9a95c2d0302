import SourceAtlas.Terminal.WidthTable

/-!
# Columns

How many columns of a terminal a text takes. A character has its own columns, but a zero-width
joiner hides the character after it, and a variation selector asks for the picture of the sign
before it, which may be wider than the sign. Main function: `columns`; without joiners and selectors
it is a sum over the characters (`columns_eq_sum`).
-/

namespace SourceAtlas.Terminal

open Text

/-- The columns of a character: two for the wide characters of East Asian scripts and for most
    pictures, none for controls and combining marks, one for all others. -/
def charColumns (c : Char) : Nat :=
  let n := c.toNat
  if 32 ≤ n && n < 127 then 1
  else if inCutRanges wideRangesLow wideRangesMid wideRangesHigh n then 2
  else if inCutRanges hiddenRangesLow hiddenRangesMid hiddenRangesHigh n then 0
  else 1

/-- The zero-width joiner, which makes one picture of the characters around it. -/
def isJoiner (c : Char) : Bool := c.toNat = 0x200D

/-- The variation selector that asks for a picture. -/
def isSelector (c : Char) : Bool := c.toNat = 0xFE0F

/-- A sign that takes one column more as a picture. -/
def isWidened (c : Char) : Bool := inRanges pictureRanges c.toNat

/-- A character that takes its columns whatever stands beside it. -/
def isOrdinary (c : Char) : Bool := !isJoiner c && !isSelector c

/-- The columns that a selector adds after a character of some columns, if there is one. -/
def addedColumns (last : Option Char) : Nat := if last.any isWidened then 1 else 0

/-- The columns of a text after `last`, the character that a selector would change, if there is one.
    The first character is hidden if a joiner stands before it. -/
def columnsFrom (last : Option Char) : (isHidden : Bool) → List Char → Nat
  | _, [] => 0
  | true, _ :: rest => columnsFrom last false rest
  | false, c :: rest =>
    if isJoiner c then columnsFrom last true rest
    else if isSelector c then addedColumns last + columnsFrom none false rest
    else if charColumns c = 0 then columnsFrom last false rest
    else charColumns c + columnsFrom (some c) false rest

/-- The columns of a text. -/
def columns (cs : List Char) : Nat := columnsFrom none false cs

/-- The columns of several things side by side. -/
def total (counts : List Nat) : Nat := counts.foldr (· + ·) 0

@[simp] theorem total_nil : total [] = 0 := rfl

@[simp] theorem total_cons (n : Nat) (counts : List Nat) :
    total (n :: counts) = n + total counts := rfl

theorem total_append (xs ys : List Nat) : total (xs ++ ys) = total xs + total ys := by
  induction xs with
  | nil => simp
  | cons n xs ih => simp [ih, Nat.add_assoc]

/-- Blanks in a row. -/
def blanks (n : Nat) : List Char := List.replicate n ' '

/-- The text in at least a number of columns. -/
def padTo (width : Nat) (cs : List Char) : List Char :=
  cs ++ blanks (width - columns cs)

theorem columnsFrom_eq_sum (last : Option Char) {cs : List Char}
    (h : ∀ c ∈ cs, isOrdinary c = true) :
    columnsFrom last false cs = total (cs.map charColumns) := by
  induction cs generalizing last with
  | nil => rfl
  | cons c rest ih =>
    have hc : isJoiner c = false ∧ isSelector c = false := by
      simpa [isOrdinary] using h c (by simp)
    have hr (d : Char) (hd : d ∈ rest) : isOrdinary d = true := h d (by simp [hd])
    rw [columnsFrom, hc.1, hc.2]
    by_cases h0 : charColumns c = 0 <;> simp [h0, ih _ hr]

/-- Where no joiner and no selector stands, the columns of a text are those of its characters. -/
theorem columns_eq_sum {cs : List Char} (h : ∀ c ∈ cs, isOrdinary c = true) :
    columns cs = total (cs.map charColumns) :=
  columnsFrom_eq_sum none h

theorem isOrdinary_of_mem_blanks {n : Nat} {c : Char} (h : c ∈ blanks n) :
    isOrdinary c = true := by
  rw [List.eq_of_mem_replicate h]
  decide

theorem sum_blanks (n : Nat) : total ((blanks n).map charColumns) = n := by
  induction n with
  | zero => rfl
  | succ n ih =>
    have h : charColumns ' ' = 1 := by decide
    rw [blanks] at ih
    rw [blanks, List.replicate_succ, List.map_cons, total_cons, ih, h, Nat.add_comm]

theorem columns_blanks (n : Nat) : columns (blanks n) = n := by
  rw [columns_eq_sum fun _ h => isOrdinary_of_mem_blanks h, sum_blanks]

end SourceAtlas.Terminal
