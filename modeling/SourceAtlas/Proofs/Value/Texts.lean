import SourceAtlas.Value.Basic

/-! # Entries that should be texts

    A record that comes from outside may have a text under a name, or leave it
    out.  A default stands in for what counts as missing, so what is found there
    is a text exactly if the entry was one or counts as missing
    (`Entries.exists_orElse_iff`). -/

namespace SourceAtlas

/-- What is said of a value that is there is said of that value. -/
theorem forall_some_iff {α : Type} {P : α → Prop} {a : α} :
    (∀ b, some a = some b → P b) ↔ P a :=
  ⟨fun h => h a rfl, fun h _ hb => Option.some.inj hb ▸ h⟩

namespace Entries

/-- An entry is missing, or counts as missing, or is a text. -/
def HasText (entries : Entries) (name : String) : Prop :=
  ∀ v, entries.lookup name = some v → v.isVoid = true ∨ ∃ t, v = .text t

/-- An entry with a text for a default is a text if it was one or was missing. -/
theorem exists_orElse_iff {entries : Entries} {name d : String} :
    (∃ t, ((entries.lookup name).getD .null).orElse (.text d) = .text t)
      ↔ entries.HasText name := by
  rw [HasText]
  cases entries.lookup name with
  | none => exact iff_of_true ⟨d, rfl⟩ nofun
  | some v =>
      have hv : (∃ t, v.orElse (.text d) = .text t) ↔ v.isVoid = true ∨ ∃ t, v = .text t := by
        unfold Value.orElse
        split
        · next hvoid => exact iff_of_true ⟨d, rfl⟩ (.inl hvoid)
        · next hvoid => exact ⟨.inr, fun h => h.resolve_left hvoid⟩
      show (∃ t, v.orElse (.text d) = .text t) ↔ _
      rw [hv, forall_some_iff]

end Entries

end SourceAtlas
