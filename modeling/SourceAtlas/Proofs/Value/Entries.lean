import SourceAtlas.Value.Basic

/-! # Entries by what is looked up in them

    Whoever reads a record looks names up in it, so of its entries only the
    look-ups count, and the order in which they were written does not.
    `lookup_insert` and `lookup_insertIfNew` say what becomes of them.  A record
    can be given further entries that yield to its own (`complete`) or replace
    them (`Adds`). -/

namespace SourceAtlas.Entries

/-- The first entry is found under its own name, and under any other name it is passed over. -/
theorem lookup_cons (key : String) (v : Value) (rest : Entries) (name : String) :
    List.lookup name ((key, v) :: rest) = if name = key then some v else rest.lookup name := by
  by_cases h : name = key
  · rw [if_pos h, h, List.lookup_cons_self]
  · rw [if_neg h, List.lookup_cons, beq_false_of_ne h]

/-- A name that is given its value has it, and all others keep theirs. -/
theorem lookup_insert (entries : Entries) (key : String) (v : Value) (name : String) :
    (entries.insert key v).lookup name = if name = key then some v else entries.lookup name := by
  induction entries with
  | nil => rw [insert, lookup_cons]
  | cons entry rest ih =>
      obtain ⟨k, old⟩ := entry
      rw [insert]
      by_cases hk : k = key
      · rw [if_pos hk, lookup_cons, lookup_cons, hk]
        by_cases h : name = key
        · rw [if_pos h, if_pos h]
        · rw [if_neg h, if_neg h, if_neg h]
      · rw [if_neg hk, lookup_cons, lookup_cons, ih]
        by_cases h : name = k
        · rw [if_pos h, if_pos h, if_neg (h ▸ hk)]
        · rw [if_neg h, if_neg h]

/-- A name that is free is given the value, and a name that is taken keeps its own. -/
theorem lookup_insertIfNew (entries : Entries) (key : String) (v : Value) (name : String) :
    (entries.insertIfNew key v).lookup name
      = (entries.lookup name).or (if name = key then some v else none) := by
  unfold insertIfNew
  by_cases htaken : (entries.lookup key).isSome = true
  · rw [if_pos htaken]
    by_cases h : name = key
    · rw [h, Option.or_of_isSome htaken]
    · rw [if_neg h, Option.or_none]
  · rw [if_neg htaken, lookup_insert]
    by_cases h : name = key
    · rw [if_pos h, if_pos h, h, Option.not_isSome_iff_eq_none.mp htaken, Option.none_or]
    · rw [if_neg h, if_neg h, Option.or_none]

/-- Entries with further ones for the names that are free. -/
def complete (entries defaults : Entries) : Entries :=
  defaults.foldl (fun completed entry => completed.insertIfNew entry.1 entry.2) entries

theorem lookup_complete (entries defaults : Entries) (name : String) :
    (entries.complete defaults).lookup name
      = (entries.lookup name).or (defaults.lookup name) := by
  unfold complete
  induction defaults generalizing entries with
  | nil => exact Option.or_none.symm
  | cons entry rest ih =>
      obtain ⟨key, v⟩ := entry
      rw [List.foldl_cons, ih, lookup_insertIfNew, Option.or_assoc, lookup_cons]
      by_cases h : name = key
      · rw [if_pos h, if_pos h, Option.some_or]
      · rw [if_neg h, if_neg h, Option.none_or]

/-- A name is free if no entry has it. -/
theorem lookup_eq_none_iff {entries : Entries} {name : String} :
    entries.lookup name = none ↔ name ∉ entries.map (·.1) := by
  rw [List.lookup_eq_none_iff, List.mem_map]
  constructor
  · rintro h ⟨entry, hentry, rfl⟩
    exact absurd rfl (bne_iff_ne.mp (h entry hentry))
  · exact fun h entry hentry => bne_iff_ne.mpr fun hname => h ⟨entry, hentry, hname.symm⟩

/-- A record has the entries of a base and further ones, in any order; these replace entries of the
    base that have the same names. -/
def Adds (base extra entries : Entries) : Prop :=
  ∀ name, entries.lookup name = (extra.lookup name).or (base.lookup name)

/-- The further entries may stand in front. -/
theorem adds_append (base extra : Entries) : base.Adds extra (extra ++ base) :=
  fun _ => List.lookup_append

end SourceAtlas.Entries
