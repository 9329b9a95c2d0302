import Mathlib.Data.List.Nodup
import Std.Data.HashMap.Lemmas

/-! # Indexes — a map that says where each item stands

    A graph keeps a map from keys to places beside each of its arrays, and the
    cycle search keeps one beside its path.  Both are the same thing: the map
    sends a key to `i` exactly when the item at `i` has that key.  So an array
    with an index holds no key twice (`IsIndex.nodup`), and a look-up in the
    map answers for the array (`IsIndex.mem_iff`,
    `IsIndex.lookup_eq_some_iff`).

    The array operations in use keep the index: `push` with a key that is new,
    `pop`, and `modify` where no key changes. -/

namespace SourceAtlas

variable {β κ : Type} [BEq κ] [Hashable κ]

/-- The map says at which place of the array the item with a key stands. -/
def IsIndex (m : Std.HashMap κ Nat) (key : β → κ) (xs : Array β) : Prop :=
  ∀ (k : κ) (i : Nat), m[k]? = some i ↔ xs[i]?.map key = some k

namespace IsIndex

variable {m : Std.HashMap κ Nat} {key : β → κ} {xs : Array β}

/-- The empty array has the empty index. -/
theorem empty (key : β → κ) : IsIndex (∅ : Std.HashMap κ Nat) key #[] := by
  intro k i
  simp

/-- An item is changed, but not its key. -/
theorem modify (h : IsIndex m key xs) (i : Nat) {f : β → β}
    (hf : ∀ x, key (f x) = key x) : IsIndex m key (xs.modify i f) := by
  intro k j
  rw [h k j, Array.getElem?_modify]
  by_cases hij : i = j
  · have hkey : key ∘ f = key := funext hf
    rw [if_pos hij, Option.map_map, hkey]
  · rw [if_neg hij]

/-- No key occurs twice. -/
theorem nodup (h : IsIndex m key xs) : (xs.toList.map key).Nodup := by
  rw [List.nodup_iff_getElem?_ne_getElem?]
  intro i j hij hj heq
  rw [List.length_map, Array.length_toList] at hj
  have hkey : ∀ n : Nat, (xs.toList.map key)[n]? = xs[n]?.map key := by
    intro n
    rw [List.getElem?_map, Array.getElem?_toList]
  rw [hkey, hkey] at heq
  have hsome : xs[j]?.map key = some (key xs[j]) := by
    rw [Array.getElem?_eq_getElem hj, Option.map_some]
  have h1 := (h _ i).mpr (heq.trans hsome)
  have h2 := (h _ j).mpr hsome
  have : i = j := Option.some.inj (h1.symm.trans h2)
  omega

/-- An array has one index only, as far as look-ups go. -/
theorem getElem?_eq {m' : Std.HashMap κ Nat} (h : IsIndex m key xs) (h' : IsIndex m' key xs)
    (k : κ) : m[k]? = m'[k]? :=
  Option.ext fun i => (h k i).trans (h' k i).symm

/-- The item that the index leads to is the one with the key. -/
theorem lookup_eq_some_iff (h : IsIndex m key xs) {k : κ} {x : β} :
    m[k]?.bind (xs[·]?) = some x ↔ x ∈ xs ∧ key x = k := by
  rw [Option.bind_eq_some_iff]
  constructor
  · rintro ⟨i, hi, hx⟩
    refine ⟨Array.mem_of_getElem? hx, ?_⟩
    have hk := (h k i).mp hi
    rw [hx, Option.map_some] at hk
    exact Option.some.inj hk
  · rintro ⟨hx, hk⟩
    obtain ⟨i, hi⟩ := Array.mem_iff_getElem?.mp hx
    refine ⟨i, (h k i).mpr ?_, hi⟩
    rw [hi, Option.map_some, hk]

variable [LawfulBEq κ]

/-- A key is in the index when an item has it. -/
theorem mem_iff (h : IsIndex m key xs) {k : κ} :
    k ∈ m ↔ ∃ x ∈ xs, key x = k := by
  rw [Std.HashMap.mem_iff_isSome_getElem?, Option.isSome_iff_exists]
  constructor
  · rintro ⟨i, hi⟩
    obtain ⟨x, hx, hk⟩ := Option.map_eq_some_iff.mp ((h k i).mp hi)
    exact ⟨x, Array.mem_of_getElem? hx, hk⟩
  · rintro ⟨x, hx, hk⟩
    obtain ⟨i, hi⟩ := Array.mem_iff_getElem?.mp hx
    refine ⟨i, (h k i).mpr ?_⟩
    rw [hi, Option.map_some, hk]

/-- The same, as the test that the program makes. -/
theorem contains_iff (h : IsIndex m key xs) {k : κ} :
    m.contains k = true ↔ ∃ x ∈ xs, key x = k :=
  Std.HashMap.mem_iff_contains.symm.trans h.mem_iff

/-- An item with a new key goes to the end. -/
theorem push (h : IsIndex m key xs) (x : β) (hx : key x ∉ m) :
    IsIndex (m.insert (key x) xs.size) key (xs.push x) := by
  intro k i
  rw [Std.HashMap.getElem?_insert, Array.getElem?_push]
  by_cases hk : key x = k
  · subst hk
    rw [if_pos BEq.rfl]
    constructor
    · intro hi
      rw [if_pos (Option.some.inj hi).symm, Option.map_some]
    · intro hi
      by_cases his : i = xs.size
      · rw [his]
      · rw [if_neg his] at hi
        exact absurd (Std.HashMap.mem_iff_isSome_getElem?.mpr
          (Option.isSome_of_eq_some ((h _ i).mpr hi))) hx
  · rw [if_neg (fun hb => hk (eq_of_beq hb)), h k i]
    by_cases his : i = xs.size
    · rw [if_pos his, his, Array.getElem?_size]
      constructor
      · intro hn
        exact nomatch hn
      · intro hn
        exact absurd (Option.some.inj hn) hk
    · rw [if_neg his]

/-- The last item is taken away. -/
theorem pop (h : IsIndex m key xs) {x : β} (hx : xs.back? = some x) :
    IsIndex (m.erase (key x)) key xs.pop := by
  have hsize : xs[xs.size - 1]? = some x := by
    rw [← hx, Array.back?_eq_getElem?]
  have hlast : m[key x]? = some (xs.size - 1) := by
    rw [h, hsize, Option.map_some]
  intro k i
  rw [Std.HashMap.getElem?_erase, Array.getElem?_pop]
  by_cases hk : key x = k
  · subst hk
    rw [if_pos BEq.rfl]
    constructor
    · intro hn
      exact nomatch hn
    · intro hi
      by_cases his : i < xs.size - 1
      · rw [if_pos his] at hi
        have : xs.size - 1 = i := Option.some.inj (hlast.symm.trans ((h _ i).mpr hi))
        omega
      · rw [if_neg his] at hi
        exact nomatch hi
  · rw [if_neg (fun hb => hk (eq_of_beq hb)), h k i]
    by_cases his : i < xs.size - 1
    · rw [if_pos his]
    · rw [if_neg his]
      constructor
      · intro hi
        obtain ⟨y, hy, hyk⟩ := Option.map_eq_some_iff.mp hi
        have hlt : i < xs.size := (Array.getElem?_eq_some_iff.mp hy).1
        have hi' : i = xs.size - 1 := by omega
        rw [hi', hsize] at hy
        exact absurd ((congrArg key (Option.some.inj hy)).trans hyk) hk
      · intro hn
        exact nomatch hn

end IsIndex

end SourceAtlas
