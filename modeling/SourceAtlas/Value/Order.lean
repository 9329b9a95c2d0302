import SourceAtlas.Text.CodePoint
import SourceAtlas.Value.Number

/-!
# Equality and order of values

Values of any kind can be the same (`Value.isSame`), whatever the forms of their numbers. Only some
have an order: numbers, texts, bytes, and lists of such. `Value.sort?` sorts values if all that are
compared have one.
-/

namespace SourceAtlas.Value

mutual

/-- Two values are the same. Entries of records may be in any order. -/
def isSame : Value → Value → Bool
  | null, null => true
  | text a, text b => a = b
  | bytes a, bytes b => a = b
  | list a, list b | tuple a, tuple b => areSame a b
  | record a, record b => a.length = b.length && areWithin a b
  | file p c, file q d => isSame p q && isSame c d
  | moment a, moment b => a = b
  | v, w =>
    match v.number?, w.number? with
    | some a, some b => a.isSame b
    | _, _ => false

/-- Two lists of values are the same one by one. -/
def areSame : List Value → List Value → Bool
  | [], [] => true
  | v :: vs, w :: ws => isSame v w && areSame vs ws
  | _, _ => false

/-- All entries of a record are in another one. -/
def areWithin : List (String × Value) → List (String × Value) → Bool
  | [], _ => true
  | (key, v) :: rest, others =>
    (match others.lookup key with
      | some w => isSame v w
      | none => false) && areWithin rest others

end

/-- A value can be a member of a set. -/
def isMember : Value → Bool
  | list _ | record _ => false
  | tuple items => areMembers items
  | file path content => path.isMember && content.isMember
  | _ => true
where
  /-- All values can be members of a set. -/
  areMembers : List Value → Bool
    | [] => true
    | v :: rest => v.isMember && areMembers rest

mutual

/-- Whether one value comes before another one, if they have an order. -/
def precedes? : Value → Value → Option Bool
  | text a, text b => some (Text.precedes a.toList b.toList)
  | bytes a, bytes b => some (decide (a < b))
  | list a, list b | tuple a, tuple b => itemsPrecede? a b
  | moment a, moment b => some (Text.precedes a.toList b.toList)
  | v, w => do
    let a ← v.number?
    let b ← w.number?
    return a.isBelow b

/-- Whether one list comes before another one, if the first items that are not the same have an
    order. -/
def itemsPrecede? : List Value → List Value → Option Bool
  | _, [] => some false
  | [], _ :: _ => some true
  | v :: vs, w :: ws => if isSame v w then itemsPrecede? vs ws else precedes? v w

end

/-- Puts a value in its place in a sorted list. -/
def insertSorted? (v : Value) : List Value → Option (List Value)
  | [] => some [v]
  | w :: rest => do
    if ← precedes? v w then return v :: w :: rest
    return w :: (← insertSorted? v rest)

/-- The values in order, if they have one. -/
def sort? (values : List Value) : Option (List Value) :=
  values.foldlM (fun sorted v => insertSorted? v sorted) []

/-- The values, each only once. -/
def distinct (values : List Value) : List Value :=
  values.foldl (fun found v => if found.any (isSame v) then found else found ++ [v]) []

end SourceAtlas.Value
