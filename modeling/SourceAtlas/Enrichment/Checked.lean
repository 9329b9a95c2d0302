/-!
# Checked values

A check either yields a value or counts what is wrong. Checks are combined like the parts of a
structure: all parts are checked, and their errors add up.
-/

namespace SourceAtlas

/-- The result of a check. -/
inductive Checked (α : Type) where
  | valid (a : α)
  /-- The number of things that are wrong, at least one. -/
  | wrong (errors : Nat)
  deriving Repr

namespace Checked

variable {α β : Type}

/-- A single thing is wrong. -/
def error : Checked α := wrong 1

/-- The number of things that are wrong. -/
def errors : Checked α → Nat
  | valid _ => 0
  | wrong n => n

/-- The value, if nothing is wrong. -/
def value? : Checked α → Option α
  | valid a => some a
  | wrong _ => none

/-- Applies a function to the value. -/
def map (f : α → β) : Checked α → Checked β
  | valid a => valid (f a)
  | wrong n => wrong n

/-- Applies a checked function to a checked value. -/
def ap : Checked (α → β) → Checked α → Checked β
  | valid f, c => c.map f
  | wrong n, valid _ => wrong n
  | wrong n, wrong m => wrong (n + m)

instance : Applicative Checked where
  pure := valid
  seq f c := f.ap (c ())

/-- One more thing is wrong unless the value passes a test; only a value can be tested. -/
def when (c : Checked α) (test : α → Bool) : Checked α :=
  match c with
  | valid a => if test a then valid a else error
  | wrong n => wrong n

/-- Checks all items of a list. -/
def all (check : α → Checked β) : List α → Checked (List β)
  | [] => valid []
  | a :: rest => (((check a).map List.cons).ap (all check rest))

/-- The value if it is there, otherwise an error. -/
def ofOption : Option α → Checked α
  | some a => valid a
  | none => error

end Checked

end SourceAtlas
