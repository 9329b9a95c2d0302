import SourceAtlas.Proofs.Path
import SourceAtlas.Proofs.Text.Marks

/-! # Tails of paths

    A tail of a path is what follows one of its slashes, or the whole path.  A
    path and its tails have the same last component (`baseChars_of_isTail`),
    and with it the same extension (`extension_of_isTail`): the extension is
    cut off the last component, whatever stands in front
    (`baseChars_splitExtension`). -/

namespace SourceAtlas.Path

open Text

/-- One path is all of another one, or follows one of its slashes. -/
def IsTail (part whole : List Char) : Prop :=
  part = whole ∨ '/' :: part <:+ whole

namespace IsTail

variable {a b c : List Char}

theorem refl (a : List Char) : IsTail a a :=
  Or.inl rfl

/-- What follows a slash is a tail. -/
theorem behind (front rest : List Char) : IsTail rest (front ++ '/' :: rest) :=
  Or.inr (List.suffix_append ..)

theorem suffix (h : IsTail a b) : a <:+ b := by
  rcases h with rfl | h
  · exact List.suffix_rfl
  · exact (List.suffix_cons ..).trans h

theorem trans (h : IsTail a b) (h' : IsTail b c) : IsTail a c := by
  rcases h with rfl | h
  · exact h'
  · exact Or.inr (h.trans h'.suffix)

end IsTail

/-! ## The last component -/

theorem baseChars_of_not_mem {cs : List Char} (h : '/' ∉ cs) : baseChars cs = cs := by
  rw [baseChars, splitLast_eq_none_iff.mpr h]

theorem baseChars_behind (front rest : List Char) :
    baseChars (front ++ '/' :: rest) = baseChars rest := by
  -- The last slash is one of the rest, if it has any, and the one in front of it otherwise.
  by_cases hrest : '/' ∈ rest
  · obtain ⟨⟨before, after⟩, hsplit⟩ :=
      Option.ne_none_iff_exists'.mp (mt splitLast_eq_none_iff.mp (not_not_intro hrest))
    obtain ⟨hparts, hafter⟩ := splitLast_eq_some_iff.mp hsplit
    have hwhole : splitLast '/' (front ++ '/' :: rest)
        = some (front ++ '/' :: before, after) := by
      refine splitLast_eq_some_iff.mpr ⟨?_, hafter⟩
      rw [hparts, List.append_assoc, List.cons_append]
    rw [baseChars, baseChars, hwhole, hsplit]
  · rw [baseChars, splitLast_append hrest, baseChars_of_not_mem hrest]

/-- A path and its tails have the same last component. -/
theorem baseChars_of_isTail {part whole : List Char} (h : IsTail part whole) :
    baseChars part = baseChars whole := by
  rcases h with rfl | ⟨front, rfl⟩
  · rfl
  · exact (baseChars_behind front part).symm

theorem not_mem_baseChars (cs : List Char) : '/' ∉ baseChars cs := by
  unfold baseChars
  split
  · next hsplit => exact (splitLast_eq_some_iff.mp hsplit).2
  · next hsplit => exact splitLast_eq_none_iff.mp hsplit

/-- A path is its last component, with a slash in front of it and what comes before that, if
    anything does. -/
theorem exists_directory (cs : List Char) :
    ∃ directory, cs = directory ++ baseChars cs
      ∧ ∀ name, '/' ∉ name → baseChars (directory ++ name) = name := by
  cases hsplit : splitLast '/' cs with
  | none =>
      have hslash := splitLast_eq_none_iff.mp hsplit
      exact ⟨[], (baseChars_of_not_mem hslash).symm, fun name hname => baseChars_of_not_mem hname⟩
  | some parts =>
      obtain ⟨hparts, hafter⟩ := splitLast_eq_some_iff.mp hsplit
      refine ⟨parts.1 ++ ['/'], ?_, fun name hname => ?_⟩
      · have hbase : baseChars cs = parts.2 := by
          rw [hparts, baseChars_behind, baseChars_of_not_mem hafter]
        rw [hbase, List.append_assoc]
        exact hparts
      · rw [List.append_assoc]
        exact (baseChars_behind parts.1 name).trans (baseChars_of_not_mem hname)

/-! ## The extension -/

/-- The last component without its extension, and the extension. -/
def splitName (name : List Char) : List Char × List Char :=
  match splitLast '.' (name.dropWhile (· = '.')) with
  | some (before, after) => (name.takeWhile (· = '.') ++ before, '.' :: after)
  | none => (name, [])

theorem append_splitName (name : List Char) : (splitName name).1 ++ (splitName name).2 = name := by
  unfold splitName
  split
  · next hsplit =>
      rw [List.append_assoc, ← splitLast_eq_some hsplit]
      exact List.takeWhile_append_dropWhile
  · exact List.append_nil name

/-- The extension is cut off the last component. -/
theorem splitExtensionChars_eq {directory cs : List Char}
    (hcs : cs = directory ++ baseChars cs) :
    splitExtensionChars cs
      = (directory ++ (splitName (baseChars cs)).1, (splitName (baseChars cs)).2) := by
  have hdirectory : cs.take (cs.length - (baseChars cs).length) = directory := by
    have hlength : cs.length - (baseChars cs).length = directory.length := by
      have h := congrArg List.length hcs
      rw [List.length_append] at h
      omega
    rw [hlength]
    conv_lhs => rw [hcs]
    exact List.take_left
  rw [splitExtensionChars, splitName, hdirectory]
  cases splitLast '.' ((baseChars cs).dropWhile (· = '.')) with
  | none => exact congrArg (·, []) hcs
  | some parts => exact congrArg (·, '.' :: parts.2) (List.append_assoc ..)

/-- A cut makes no slashes, so the shorter name is the last component of the shorter path. -/
theorem baseChars_withoutExtension (cs : List Char) :
    baseChars (splitExtensionChars cs).1 = (splitName (baseChars cs)).1 := by
  obtain ⟨directory, hcs, hbase⟩ := exists_directory cs
  have hslash : '/' ∉ (splitName (baseChars cs)).1 := by
    intro hmem
    refine not_mem_baseChars cs ?_
    rw [← append_splitName (baseChars cs)]
    exact List.mem_append_left _ hmem
  rw [splitExtensionChars_eq hcs, hbase _ hslash]

/-- The last component is that of the path without extension, with the extension behind it. -/
theorem baseChars_splitExtension (cs : List Char) :
    baseChars cs = baseChars (splitExtensionChars cs).1 ++ (splitExtensionChars cs).2 := by
  obtain ⟨directory, hcs, -⟩ := exists_directory cs
  rw [baseChars_withoutExtension, splitExtensionChars_eq hcs, append_splitName]

theorem append_splitExtension (cs : List Char) :
    (splitExtensionChars cs).1 ++ (splitExtensionChars cs).2 = cs := by
  obtain ⟨directory, hcs, -⟩ := exists_directory cs
  rw [splitExtensionChars_eq hcs, List.append_assoc, append_splitName]
  exact hcs.symm

/-- A path and its tails have the same extension. -/
theorem extension_of_isTail {part whole : List Char} (h : IsTail part whole) :
    (splitExtensionChars part).2 = (splitExtensionChars whole).2 := by
  obtain ⟨_, hpart, -⟩ := exists_directory part
  obtain ⟨_, hwhole, -⟩ := exists_directory whole
  rw [splitExtensionChars_eq hpart, splitExtensionChars_eq hwhole, baseChars_of_isTail h]

end SourceAtlas.Path
