import Mathlib.Data.List.Perm.Basic
import SourceAtlas.Value.Order

/-! # Sorted and distinct values

    Sorting values neither loses nor adds any (`perm_of_sort?`), and texts that
    are all different are distinct values already (`distinct_of_texts`). -/

namespace SourceAtlas.Value

theorem perm_of_insertSorted? {v : Value} {ws sorted : List Value}
    (h : insertSorted? v ws = some sorted) : sorted.Perm (v :: ws) := by
  induction ws generalizing sorted with
  | nil => exact Option.some.inj h ▸ List.Perm.refl _
  | cons w rest ih =>
      rw [insertSorted?] at h
      obtain ⟨before, -, h⟩ := Option.bind_eq_some_iff.mp h
      cases before with
      | true => exact Option.some.inj h ▸ List.Perm.refl _
      | false =>
          obtain ⟨later, hlater, h⟩ := Option.bind_eq_some_iff.mp h
          obtain rfl := Option.some.inj h
          exact ((ih hlater).cons w).trans (List.Perm.swap v w rest)

theorem perm_of_foldlM_insertSorted? {values found sorted : List Value}
    (h : values.foldlM (fun sorted v => insertSorted? v sorted) found = some sorted) :
    sorted.Perm (found ++ values) := by
  induction values generalizing found with
  | nil =>
      rw [List.append_nil]
      exact Option.some.inj h ▸ List.Perm.refl _
  | cons v rest ih =>
      rw [List.foldlM_cons] at h
      obtain ⟨next, hnext, h⟩ := Option.bind_eq_some_iff.mp h
      have hfront := (perm_of_insertSorted? hnext).append_right rest
      exact (ih h).trans (hfront.trans List.perm_middle.symm)

theorem perm_of_sort? {values sorted : List Value} (h : sort? values = some sorted) :
    sorted.Perm values :=
  perm_of_foldlM_insertSorted? h

theorem isSame_text (a b : String) : isSame (.text a) (.text b) = decide (a = b) := rfl

theorem foldl_distinct_texts {names found : List String} (h : (found ++ names).Nodup) :
    (names.map Value.text).foldl
        (fun found v => if found.any (isSame v) then found else found ++ [v]) (found.map .text)
      = (found ++ names).map .text := by
  induction names generalizing found with
  | nil => rw [List.append_nil]; rfl
  | cons name rest ih =>
      have hnew : (found.map Value.text).any (isSame (.text name)) = false := by
        rw [List.any_map, List.any_eq_false]
        intro other hother
        rw [Function.comp_apply, isSame_text, decide_eq_true_eq]
        rintro rfl
        exact (List.nodup_append.mp h).2.2 _ hother _ (List.mem_cons_self ..) rfl
      rw [List.append_cons] at h ⊢
      rw [List.map_cons, List.foldl_cons, hnew, if_neg Bool.false_ne_true, ← ih h, List.map_append]
      rfl

/-- Different texts are distinct values. -/
theorem distinct_of_texts {names : List String} (h : names.Nodup) :
    distinct (names.map .text) = names.map .text :=
  @foldl_distinct_texts names [] h

/-- In another order, texts are still texts. -/
theorem exists_names_of_perm {values : List Value} {names : List String}
    (h : values.Perm (names.map .text)) :
    ∃ names' : List String, names'.Perm names ∧ values = names'.map .text := by
  generalize htexts : names.map Value.text = texts at h
  induction h generalizing names with
  | nil =>
      obtain rfl := List.map_eq_nil_iff.mp htexts
      exact ⟨[], .refl _, rfl⟩
  | cons v _ ih =>
      obtain ⟨name, rest, rfl, rfl, hrest⟩ := List.map_eq_cons_iff.mp htexts
      obtain ⟨rest', hperm, rfl⟩ := ih hrest
      exact ⟨name :: rest', hperm.cons name, rfl⟩
  | swap v w values =>
      obtain ⟨name, later, rfl, rfl, hlater⟩ := List.map_eq_cons_iff.mp htexts
      obtain ⟨name', rest, rfl, rfl, rfl⟩ := List.map_eq_cons_iff.mp hlater
      exact ⟨name' :: name :: rest, .swap .., rfl⟩
  | trans _ _ ih ih' =>
      obtain ⟨between, hbetween, rfl⟩ := ih' htexts
      obtain ⟨names', hperm, rfl⟩ := ih rfl
      exact ⟨names', hperm.trans hbetween, rfl⟩

theorem areMembers_texts (names : List String) :
    (names.map Value.text).all (·.isMember) = true := by
  rw [List.all_map, List.all_eq_true]
  exact fun _ _ => rfl

end SourceAtlas.Value
