import SourceAtlas.Proofs.Path.Tail
import SourceAtlas.Proofs.Text.Strip

/-! # Names of paths

    The last component of a path is empty exactly if the path is empty or ends in
    a slash (`baseChars_eq_nil_iff`).  A name keeps something when its extension
    is cut off (`baseChars_withoutExtension_eq_nil_iff`), and an extension is cut
    off exactly behind a name that is more than dots (`splitExtensionChars_append`,
    `exists_ne_dot_of_splitExtension`).  The path of a directory keeps something,
    too, and it never ends in a slash unless it is nothing but slashes
    (`eq_slash_of_mem_parentChars`). -/

namespace SourceAtlas.Path

open Text

theorem baseChars_baseChars (cs : List Char) : baseChars (baseChars cs) = baseChars cs :=
  baseChars_of_not_mem (not_mem_baseChars cs)

/-- The last component is empty where nothing follows the last slash. -/
theorem baseChars_eq_nil_iff {cs : List Char} :
    baseChars cs = [] ↔ cs = [] ∨ cs.getLast? = some '/' := by
  cases hsplit : splitLast '/' cs with
  | none =>
      have hslash := splitLast_eq_none_iff.mp hsplit
      rw [baseChars_of_not_mem hslash]
      exact ⟨Or.inl, fun h => h.resolve_right fun hlast => hslash (List.mem_of_getLast? hlast)⟩
  | some parts =>
      obtain ⟨rfl, hafter⟩ := splitLast_eq_some_iff.mp hsplit
      rw [baseChars_behind, baseChars_of_not_mem hafter]
      constructor
      · intro hnil
        rw [hnil]
        exact Or.inr List.getLast?_concat
      · rintro (hnil | hlast)
        · exact absurd hnil (List.append_ne_nil_of_right_ne_nil _ (List.cons_ne_nil _ _))
        · by_contra hne
          rw [List.getLast?_append_of_ne_nil _ (List.cons_ne_nil _ _),
            List.getLast?_cons_of_ne_nil hne] at hlast
          exact hafter (List.mem_of_getLast? hlast)

/-! ## Without the extension -/

theorem splitName_of_not_mem {name : List Char} (h : '.' ∉ name) : splitName name = (name, []) := by
  have hdots : '.' ∉ name.dropWhile (· = '.') := fun hmem =>
    h ((List.dropWhile_suffix _).subset hmem)
  rw [splitName, splitLast_eq_none_iff.mpr hdots]

/-- Something is left of a name without its extension. -/
theorem splitName_eq_nil_iff {name : List Char} : (splitName name).1 = [] ↔ name = [] := by
  refine ⟨fun h => ?_, fun h => by rw [h]; rfl⟩
  unfold splitName at h
  split at h
  · next before after hsplit =>
      -- With no dot in front, the cut at the last dot cannot be a cut at the first character.
      obtain ⟨hdots, rfl⟩ := List.append_eq_nil_iff.mp h
      have hname : name = '.' :: after := by
        rw [← List.takeWhile_append_dropWhile (p := fun c => decide (c = '.')) (l := name), hdots]
        exact splitLast_eq_some hsplit
      rw [hname] at hdots
      exact nomatch hdots
  · exact h

theorem baseChars_withoutExtension_eq_nil_iff {cs : List Char} :
    baseChars (splitExtensionChars cs).1 = [] ↔ baseChars cs = [] := by
  rw [baseChars_withoutExtension, splitName_eq_nil_iff]

/-- The name without its extension can be cut out in either order. -/
theorem withoutExtension_baseChars (cs : List Char) :
    (splitExtensionChars (baseChars cs)).1 = baseChars (splitExtensionChars cs).1 := by
  have hwhole : baseChars cs = [] ++ baseChars (baseChars cs) := (baseChars_baseChars cs).symm
  rw [splitExtensionChars_eq hwhole, baseChars_baseChars, baseChars_withoutExtension]
  rfl

/-- A name that is more than dots ends before the dot of an extension. -/
theorem splitName_append {stem word : List Char} (hstem : ∃ c ∈ stem, c ≠ '.')
    (hword : '.' ∉ word) : splitName (stem ++ '.' :: word) = (stem, '.' :: word) := by
  have hrest : stem.dropWhile (· = '.') ≠ [] := by
    obtain ⟨c, hc, hdot⟩ := hstem
    rw [Ne, List.dropWhile_eq_nil_iff]
    exact fun hall => hdot (of_decide_eq_true (hall c hc))
  have hdrop : (stem ++ '.' :: word).dropWhile (· = '.')
      = stem.dropWhile (· = '.') ++ '.' :: word := dropWhile_append_of_neg hrest _
  have htake : (stem ++ '.' :: word).takeWhile (· = '.') = stem.takeWhile (· = '.') := by
    rw [← List.append_left_inj (stem.dropWhile (· = '.') ++ '.' :: word), ← hdrop,
      List.takeWhile_append_dropWhile, hdrop, ← List.append_assoc,
      List.takeWhile_append_dropWhile]
  rw [splitName, hdrop, splitLast_append hword, htake]
  dsimp only
  rw [List.takeWhile_append_dropWhile]

/-- An extension is cut off from more than dots. -/
theorem exists_ne_dot_of_splitName {name : List Char} (h : (splitName name).2 ≠ []) :
    ∃ c ∈ (splitName name).1, c ≠ '.' := by
  unfold splitName at h ⊢
  cases hsplit : splitLast '.' (name.dropWhile (· = '.')) with
  | none =>
      rw [hsplit] at h
      exact absurd rfl h
  | some parts =>
      obtain ⟨before, after⟩ := parts
      have hname := splitLast_eq_some hsplit
      have hfirst : ∀ c ∈ (name.dropWhile (· = '.')).head?, c ≠ '.' := fun c hc =>
        of_decide_eq_false (not_of_mem_head?_dropWhile hc)
      rw [hname] at hfirst
      cases before with
      | nil => exact absurd rfl (hfirst '.' rfl)
      | cons c rest => exact ⟨c, List.mem_append_right _ (List.mem_cons_self ..), hfirst c rfl⟩

theorem splitExtensionChars_append {stem word : List Char} (hstem : ∃ c ∈ baseChars stem, c ≠ '.')
    (hdot : '.' ∉ word) (hslash : '/' ∉ word) :
    splitExtensionChars (stem ++ '.' :: word) = (stem, '.' :: word) := by
  obtain ⟨directory, hparts, hbase⟩ := exists_directory stem
  have hwhole : baseChars (stem ++ '.' :: word) = baseChars stem ++ '.' :: word := by
    conv_lhs => rw [hparts, List.append_assoc]
    refine hbase _ fun hmem => ?_
    rcases List.mem_append.mp hmem with hmem | hmem
    · exact not_mem_baseChars stem hmem
    · exact hslash (List.mem_of_ne_of_mem (by decide) hmem)
  have hcs : stem ++ '.' :: word = directory ++ baseChars (stem ++ '.' :: word) := by
    rw [hwhole, ← List.append_assoc, ← hparts]
  rw [splitExtensionChars_eq hcs, hwhole, splitName_append hstem hdot, ← hparts]

theorem exists_ne_dot_of_splitExtension {cs : List Char} (h : (splitExtensionChars cs).2 ≠ []) :
    ∃ c ∈ baseChars (splitExtensionChars cs).1, c ≠ '.' := by
  obtain ⟨directory, hcs, -⟩ := exists_directory cs
  rw [splitExtensionChars_eq hcs] at h
  rw [baseChars_withoutExtension]
  exact exists_ne_dot_of_splitName h

/-! ## The directory -/

theorem parentChars_of_not_mem {cs : List Char} (h : '/' ∉ cs) : parentChars cs = [] := by
  rw [parentChars, splitLast_eq_none_iff.mpr h]

theorem parentChars_behind {name : List Char} (h : '/' ∉ name) (front : List Char) :
    parentChars (front ++ '/' :: name)
      = if front.all (· = '/') then front ++ ['/'] else dropEnd (· = '/') front := by
  rw [parentChars, splitLast_append h]

/-- The directory does not depend on the extension. -/
theorem parentChars_withoutExtension (cs : List Char) :
    parentChars (splitExtensionChars cs).1 = parentChars cs := by
  have hshorter : (splitExtensionChars cs).1 <+: cs := ⟨_, append_splitExtension cs⟩
  cases hsplit : splitLast '/' cs with
  | none =>
      have hslash := splitLast_eq_none_iff.mp hsplit
      rw [parentChars_of_not_mem hslash,
        parentChars_of_not_mem fun hmem => hslash (hshorter.subset hmem)]
  | some parts =>
      obtain ⟨front, name⟩ := parts
      obtain ⟨hcs, hname⟩ := splitLast_eq_some_iff.mp hsplit
      have hbase : baseChars cs = name := by
        rw [hcs, baseChars_behind, baseChars_of_not_mem hname]
      have hparts : cs = (front ++ ['/']) ++ baseChars cs := by
        rw [hbase, List.append_assoc]
        exact hcs
      have hshort : '/' ∉ (splitName name).1 := fun hmem =>
        hname (append_splitName name ▸ List.mem_append_left _ hmem)
      rw [splitExtensionChars_eq hparts, hbase, List.append_assoc]
      conv_rhs => rw [hcs, parentChars_behind hname]
      exact parentChars_behind hshort front

/-- A directory whose path ends in a slash has nothing but slashes in its path. -/
theorem eq_slash_of_mem_parentChars {cs : List Char} (h : baseChars (parentChars cs) = []) :
    ∀ c ∈ parentChars cs, c = '/' := by
  cases hsplit : splitLast '/' cs with
  | none =>
      rw [parentChars_of_not_mem (splitLast_eq_none_iff.mp hsplit)]
      exact fun c hc => nomatch hc
  | some parts =>
      obtain ⟨front, name⟩ := parts
      obtain ⟨rfl, hname⟩ := splitLast_eq_some_iff.mp hsplit
      rw [parentChars_behind hname] at h ⊢
      by_cases hall : front.all (· = '/') = true
      · rw [if_pos hall]
        intro c hc
        rcases List.mem_append.mp hc with hc | hc
        · exact of_decide_eq_true (List.all_eq_true.mp hall c hc)
        · exact List.mem_singleton.mp hc
      · -- The slashes at the end are dropped, and something else is left.
        rw [if_neg hall] at h ⊢
        rcases baseChars_eq_nil_iff.mp h with hnil | hlast
        · rw [hnil]
          exact fun c hc => nomatch hc
        · obtain ⟨hne, hslash⟩ := List.mem_getLast?_eq_getLast hlast
          exact absurd (decide_eq_true hslash.symm) (List.rdropWhile_last_not _ front hne)

end SourceAtlas.Path
