import SourceAtlas.Proofs.Enrichment.Payload
import SourceAtlas.Proofs.Enrichment.Run
import SourceAtlas.Proofs.Json.Limits

/-! # What reading an answer can come to

    The object in an answer is a piece of it, so an answer that opens few
    brackets and has short numbers in it never meets a limit of the JSON reader,
    whatever the limits are (`not_overloads`).  Any other text gives an assessment
    or a violation of the schema, and only an answer whose object meets a limit
    breaks the enrichment (`readAnswer_eq_breakdown_iff`). -/

namespace SourceAtlas

open Text

/-- The object in an answer meets a limit of the JSON reader. -/
def Overloads (limits : Json.Limits) (answer : String) (e : Json.Error) : Prop :=
  e.isOfLimits = true
  ∧ ∃ text, payload? answer = some text ∧ Json.read limits text = .error e

variable {limits : Json.Limits}

/-- **SMALL ANSWERS**: an answer that opens no more brackets than the reader has levels, and in
    which no more digits stand in a row than it takes, meets no limit. -/
theorem not_overloads {answer : String} (hopenings : Json.openings answer.toList ≤ limits.depth)
    (hdigits : Json.DigitsWithin limits.digits answer.toList) (e : Json.Error) :
    ¬ Overloads limits answer e := by
  rintro ⟨he, text, hpayload, hread⟩
  have hpiece := infix_of_payload? hpayload
  rcases Json.read_beyond hread he with hdeep | hlong
  · exact absurd ((Json.openings_mono hpiece).trans hopenings) hdeep.not_ge
  · exact hlong (hdigits.mono hpiece)

/-! ## Reading -/

/-- The errors that speak of a limit are those that are not taken for a wrong answer. -/
theorem ofJson_eq_breakdown_iff {e : Json.Error} {b : Breakdown} :
    Rejection.ofJson e = .breakdown b ↔ e.isOfLimits = true ∧ b = .beyondLimits e := by
  have hlimit : ∀ e', Rejection.breakdown (.beyondLimits e') = .breakdown b ↔
      b = .beyondLimits e' :=
    fun e' => ⟨fun h => (Rejection.breakdown.inj h).symm, fun h => h ▸ rfl⟩
  cases e with
  | tooDeep => exact (hlimit _).trans ⟨fun h => ⟨rfl, h⟩, And.right⟩
  | tooManyDigits limit digits => exact (hlimit _).trans ⟨fun h => ⟨rfl, h⟩, And.right⟩
  | _ => exact ⟨(nomatch ·), fun h => nomatch h.1⟩

/-- **BROKEN ENRICHMENTS**: an answer breaks the enrichment only by meeting a limit of the JSON
    reader. -/
theorem readAnswer_eq_breakdown_iff {r : AnswerReader} {known : List String} {answer : String}
    {b : Breakdown} :
    readAnswer r known answer = .error (.breakdown b)
      ↔ ∃ e, Overloads r.json answer e ∧ b = .beyondLimits e := by
  unfold readAnswer payload
  cases hpayload : payload? answer with
  | none =>
      refine ⟨(nomatch ·), ?_⟩
      rintro ⟨e, ⟨-, text, htext, -⟩, -⟩
      rw [hpayload] at htext
      exact nomatch htext
  | some text =>
      dsimp only
      cases hread : Json.read r.json text with
      | ok v =>
          constructor
          · intro h
            dsimp only at h
            rcases assessmentOf_cases r known v with ⟨a, ha⟩ | ⟨f, hf, -⟩
            · rw [ha] at h
              exact nomatch h
            · rw [hf] at h
              exact nomatch h
          · rintro ⟨e, ⟨-, text', htext', hread'⟩, -⟩
            rw [hpayload] at htext'
            rw [← Option.some.inj htext', hread] at hread'
            exact nomatch hread'
      | error e =>
          constructor
          · intro h
            obtain ⟨he, hb⟩ := ofJson_eq_breakdown_iff.mp (Except.error.inj h)
            exact ⟨e, ⟨he, text, hpayload, hread⟩, hb⟩
          · rintro ⟨e', ⟨he, text', htext', hread'⟩, hb⟩
            rw [hpayload] at htext'
            rw [← Option.some.inj htext', hread] at hread'
            obtain rfl : e = e' := Except.error.inj hread'
            exact congrArg Except.error (ofJson_eq_breakdown_iff.mpr ⟨he, hb⟩)

/-- An answer gives an assessment, violates the schema or meets a limit of the JSON reader. -/
theorem readAnswer_cases (r : AnswerReader) (known : List String) (answer : String) :
    (∃ a, readAnswer r known answer = .ok a)
    ∨ (∃ f, readAnswer r known answer = .error (.failure f) ∧ f.kind = .schemaViolation)
    ∨ ∃ e, readAnswer r known answer = .error (.breakdown (.beyondLimits e))
      ∧ Overloads r.json answer e := by
  cases h : readAnswer r known answer with
  | ok a => exact Or.inl ⟨a, rfl⟩
  | error rejection =>
      cases rejection with
      | failure f => exact Or.inr (Or.inl ⟨f, rfl, kind_of_readAnswer h⟩)
      | breakdown b =>
          obtain ⟨e, he, rfl⟩ := readAnswer_eq_breakdown_iff.mp h
          exact Or.inr (Or.inr ⟨e, rfl, he⟩)

/-! ## Answers that meet a limit -/

/-- An object that stands alone is found as it is. -/
theorem payload?_entryText {cs : List Char} (hfence : '\x60' ∉ cs) :
    payload? (Json.entryText cs) = some (Json.entryText cs) := by
  have hbraced : IsBraced (Json.entryText cs) :=
    ⟨'"' :: 'a' :: '"' :: ':' :: cs, String.toList_ofList⟩
  have hblock : ¬ HoldsBlock (Json.entryText cs) := by
    rintro ⟨before, inside, after, hsplit⟩
    have hmem : '\x60' ∈ (Json.entryText cs).toList := by
      rw [hsplit]
      exact List.mem_append_left _ (List.mem_append_right _ (List.mem_cons_self ..))
    rw [Json.entryText, String.toList_ofList] at hmem
    rcases List.mem_append.mp hmem with h | h
    · simp only [List.mem_cons, Char.reduceEq, false_or] at h
      exact hfence h
    · exact absurd (List.mem_singleton.mp h) (by decide)
  exact (payload?_eq_self_iff hbraced).mpr hblock

/-- **LONG NUMBERS**: a whole number with more digits than the reader takes meets its limit. -/
theorem overloads_long {d : Char} {ds : List Char} (hdepth : limits.depth ≠ 0)
    (hdigit : ∀ c ∈ d :: ds, c.isDigit = true) (hzero : d ≠ '0')
    (hlong : limits.digits < (d :: ds).length) :
    Overloads limits (Json.entryText (d :: ds))
      (.tooManyDigits limits.digits (d :: ds).length) := by
  obtain ⟨depth, digits⟩ := limits
  obtain ⟨depth, rfl⟩ := Nat.exists_eq_succ_of_ne_zero hdepth
  exact ⟨rfl, _, payload?_entryText fun h => absurd (hdigit _ h) (by decide),
    Json.read_long hdigit hzero hlong⟩

/-- **DEEP NESTING**: as many brackets inside an object as the reader has levels meet its limit. -/
theorem overloads_nested {n : Nat} (hdepth : limits.depth ≠ 0) (hdeep : limits.depth ≤ n) :
    Overloads limits (Json.entryText (List.replicate n '[')) .tooDeep := by
  obtain ⟨depth, digits⟩ := limits
  obtain ⟨depth, rfl⟩ := Nat.exists_eq_succ_of_ne_zero hdepth
  exact ⟨rfl, _, payload?_entryText fun h => absurd (List.eq_of_mem_replicate h) (by decide),
    Json.read_nested (Nat.lt_of_succ_le hdeep)⟩

end SourceAtlas
