import SourceAtlas.Proofs.Enrichment.Answer
import SourceAtlas.Proofs.Enrichment.Overlay

/-! # Runs that return

    Where there is a local assessment, and a request can be written and waited
    for, a run returns unless the answer is beyond a limit (`rests_run`).  An
    answer that is a text can only meet a limit of the JSON reader.  It breaks the
    run off in the middle, and the controller is left in the state of validating
    (`run_overloaded`).  An answer of another kind has to be written out first,
    and one that is too large for that breaks the run off even before
    (`run_exceeding`). -/

namespace SourceAtlas.Controller

/-- The run has returned, and the controller is at rest. -/
def Rests (r : Controller × Except Breakdown EnrichmentOutcome) : Prop :=
  r.1.phase = .idle ∧ ∃ o, r.2 = .ok o ∧ (o.phase = .merged ∨ o.phase = .fallback)

section

variable {ν : Type} {c : Controller} {l : EnrichmentLimits} {provider : Option Provider}
  {outlines : List (Outline ν)} {s : ProjectStats ν} {g : Graph} {request : String}

theorem rests_merge (c : Controller) (outlines : List (Outline ν)) (a : Assessment) :
    Rests (c.merge outlines a) :=
  ⟨rfl, _, rfl, Or.inl rfl⟩

/-- An answer that is no text breaks a run off if it is too large to be written out. -/
theorem answerText_eq_breakdown_iff {r : AnswerReader} {v : Value} {b : Breakdown} :
    answerText r v = .error (.breakdown b)
      ↔ ∃ e, v.excess? r.shown.digits r.shown.depth = some e ∧ b = .unwritable e := by
  unfold answerText
  split
  · exact iff_of_false nofun fun ⟨e, he, _⟩ => nomatch he
  · unfold Value.shown?
    cases v.excess? r.shown.digits r.shown.depth with
    | some e =>
        constructor
        · intro h
          exact ⟨e, rfl, (Rejection.breakdown.inj (Except.error.inj h)).symm⟩
        · rintro ⟨e', he, rfl⟩
          rw [Option.some.inj he]
    | none =>
        refine iff_of_false ?_ fun ⟨e, he, _⟩ => nomatch he
        dsimp only
        split <;> exact nofun

/-- Of all replies only such an answer breaks a run off while it is awaited, if the time to wait is
    not too large. -/
theorem await_eq_breakdown_iff (htimeout : l.timeout.float?.isSome = true) {r : Reply}
    {b : Breakdown} :
    l.await r = .error (.breakdown b) ↔ l.isOver = false ∧ ∃ v, r = .answers v
      ∧ ∃ e, v.excess? l.reader.shown.digits l.reader.shown.depth = some e
        ∧ b = .unwritable e := by
  unfold EnrichmentLimits.await
  dsimp only
  rw [Option.isNone_eq_false_iff.mpr htimeout, if_neg Bool.false_ne_true]
  cases l.isOver with
  | true => exact iff_of_false nofun fun h => nomatch h.1
  | false =>
      rw [if_neg Bool.false_ne_true, and_iff_right rfl]
      cases r with
      | answers v =>
          refine answerText_eq_breakdown_iff.trans ⟨fun h => ⟨v, rfl, h⟩, ?_⟩
          rintro ⟨v', heq, h⟩
          obtain rfl := Reply.answers.inj heq
          exact h
      | _ => exact iff_of_false nofun fun ⟨v, heq, _⟩ => nomatch heq

/-- The provider is asked in time and answers with a value that goes beyond the limits within which
    values are written out. -/
def Exceeds (c : Controller) (l : EnrichmentLimits) (provider : Option Provider)
    (request : String) (e : Value.Excess) : Prop :=
  c.isCancelled = false ∧ l.isOver = false ∧ ∃ p v, provider = some p ∧ p request = .answers v
    ∧ v.excess? l.reader.shown.digits l.reader.shown.depth = some e

/-- Asking breaks a run off only by such an answer. -/
theorem reply_eq_breakdown_iff (htimeout : l.timeout.float?.isSome = true) {b : Breakdown} :
    c.reply l provider request = .error (.breakdown b)
      ↔ ∃ e, c.Exceeds l provider request e ∧ b = .unwritable e := by
  have hopen : (c.enter .requesting).isCancelled = c.isCancelled := rfl
  unfold reply ask Exceeds
  rw [hopen]
  cases provider with
  | none => exact iff_of_false nofun fun ⟨_, ⟨_, _, p, _, hp, _⟩, _⟩ => nomatch hp
  | some p =>
      cases c.isCancelled with
      | true => exact iff_of_false nofun fun ⟨_, ⟨h, _⟩, _⟩ => nomatch h
      | false =>
          refine (await_eq_breakdown_iff htimeout).trans ⟨?_, ?_⟩
          · rintro ⟨htime, v, hv, e, he, hb⟩
            exact ⟨e, ⟨rfl, htime, p, v, rfl, hv, he⟩, hb⟩
          · rintro ⟨e, ⟨-, htime, p', v, hp, hv, he⟩, hb⟩
            obtain rfl := Option.some.inj hp
            exact ⟨htime, v, hv, e, he, hb⟩

/-- A text is never too large. -/
theorem not_exceeds_of_text {p : Provider} {t : String} (ht : p request = .answers (.text t))
    (e : Value.Excess) : ¬ c.Exceeds l (some p) request e := by
  rintro ⟨-, -, p', v, hp, hv, he⟩
  obtain rfl := Option.some.inj hp
  obtain rfl := Reply.answers.inj (ht.symm.trans hv)
  exact nomatch he

/-- A text that is not blank arrives as it is, if there is time to wait for it. -/
theorem reply_of_answers {answer : String} (htimeout : l.timeout.float?.isSome = true)
    (htime : l.isOver = false) (hopen : c.isCancelled = false)
    (hblank : (Text.strip answer.toList).isEmpty = false) :
    c.reply l (some fun _ => .answers (.text answer)) request = .ok answer := by
  have htext : answerText l.reader (.text answer) = .ok answer := by
    unfold answerText
    dsimp only
    rw [Value.shown?_text]
    exact if_neg (by rw [hblank]; exact Bool.false_ne_true)
  have hopen' : ¬ (c.enter .requesting).isCancelled = true := by
    show ¬ c.isCancelled = true
    rw [hopen]
    exact Bool.false_ne_true
  unfold reply ask
  dsimp only
  rw [if_neg hopen']
  unfold EnrichmentLimits.await
  dsimp only
  rw [Option.isNone_eq_false_iff.mpr htimeout, htime, htext]
  rfl

/-- Asking leaves the controller in the state of requesting. -/
theorem phase_asked : (c.asked l provider request).phase = .requesting := by
  unfold asked ask
  split
  · rfl
  · split <;> rfl

variable [Figure ν]

theorem rests_fallBack (c : Controller) (f : Failure) (hlocal : ∃ a, localAssessment s = .ok a) :
    Rests (c.fallBack s f) := by
  obtain ⟨a, ha⟩ := hlocal
  rcases fallBack_cases c s f with ⟨a', -, heq⟩ | ⟨e, he, -⟩
  · rw [heq]
    exact ⟨rfl, _, rfl, Or.inr rfl⟩
  · rw [ha] at he
    exact nomatch he

/-- A run returns if no answer that is beyond a limit arrives. -/
theorem rests_run (hlocal : ∃ a, localAssessment s = .ok a)
    (hrequest : requestFor l outlines s g = .ok request)
    (htimeout : l.timeout.float?.isSome = true)
    (hwritable : ∀ e, ¬ c.Exceeds l provider request e)
    (hsmall : ∀ answer e, c.reply l provider request = .ok answer →
      ¬ Overloads l.reader.json answer e) :
    Rests (c.run l provider outlines s g) := by
  have hcourse := run_course c l provider outlines s g
  generalize c.run l provider outlines s g = r at hcourse ⊢
  have hsame : ∀ {request'}, requestFor l outlines s g = .ok request' → request' = request :=
    fun h => Except.ok.inj (h.symm.trans hrequest)
  -- Three courses do not come to an end, and each hypothesis rules out one of them.
  cases hcourse with
  | unwritten h =>
      rw [hrequest] at h
      exact nomatch h
  | cutShort h hreply =>
      rw [hsame h] at hreply
      obtain ⟨e, he, -⟩ := (reply_eq_breakdown_iff htimeout).mp hreply
      exact absurd he (hwritable e)
  | unanswered => exact rests_fallBack _ _ hlocal
  | unreadable h hreply hread =>
      obtain ⟨e, he, -⟩ := readAnswer_eq_breakdown_iff.mp hread
      rw [hsame h] at hreply
      exact absurd he (hsmall _ e hreply)
  | rejected => exact rests_fallBack _ _ hlocal
  | accepted => exact rests_merge ..

/-- An answer that is too large to be written out breaks the run off. -/
theorem run_exceeding {e : Value.Excess} (hrequest : requestFor l outlines s g = .ok request)
    (htimeout : l.timeout.float?.isSome = true) (hexceeds : c.Exceeds l provider request e) :
    c.run l provider outlines s g = (c.asked l provider request, .error (.unwritable e)) := by
  have hasked : (c.enter .requesting).ask l provider request
      = (c.asked l provider request, .error (.breakdown (.unwritable e))) :=
    Prod.ext rfl ((reply_eq_breakdown_iff htimeout).mpr ⟨e, hexceeds, rfl⟩)
  unfold run
  dsimp only
  rw [hrequest]
  dsimp only
  rw [hasked]

/-- What becomes of a run in which an answer arrives depends on what is read from it. -/
theorem run_of_reply {answer : String} (hrequest : requestFor l outlines s g = .ok request)
    (hreply : c.reply l provider request = .ok answer) :
    c.run l provider outlines s g
      = match readAnswer l.reader (outlines.map (·.nodeId)) answer with
        | .error (.breakdown b) => ((c.asked l provider request).enter .validating, .error b)
        | .error (.failure f) => ((c.asked l provider request).enter .validating).fallBack s f
        | .ok a => ((c.asked l provider request).enter .validating).merge outlines a := by
  have hasked : (c.enter .requesting).ask l provider request
      = (c.asked l provider request, .ok answer) := Prod.ext rfl hreply
  unfold run
  dsimp only
  rw [hrequest]
  dsimp only
  rewrite [hasked]
  rfl

/-- An answer that meets a limit of the reader breaks the run off. -/
theorem run_overloaded {answer : String} {e : Json.Error}
    (hrequest : requestFor l outlines s g = .ok request)
    (hreply : c.reply l provider request = .ok answer) (hover : Overloads l.reader.json answer e) :
    c.run l provider outlines s g
      = ((c.asked l provider request).enter .validating, .error (.beyondLimits e)) := by
  rw [run_of_reply hrequest hreply, readAnswer_eq_breakdown_iff.mpr ⟨e, hover, rfl⟩]

/-- A run in which an answer arrives that can be read uses the answer. -/
theorem run_of_readAnswer {answer : String} {a : Assessment}
    (hrequest : requestFor l outlines s g = .ok request)
    (hreply : c.reply l provider request = .ok answer)
    (hread : readAnswer l.reader (outlines.map (·.nodeId)) answer = .ok a) :
    (c.run l provider outlines s g).2
      = .ok { phase := .merged
              assessment := a
              overlay := (a.overlay.filter (!·.isEmpty)).map (·.graph outlines)
              error := none } := by
  rw [run_of_reply hrequest hreply, hread]
  rfl

/-- **RUNS AND ANSWERS**: whatever the limits are, a run returns exactly if no answer arrives that
    meets a limit of the JSON reader, and none that is too large to be written out, which a text
    never is.  Such an answer leaves the controller in the middle of the run.  No small text does
    so, and any text that does not is either used or taken for a violation of the schema. -/
theorem rests_run_iff (hlocal : ∃ a, localAssessment s = .ok a)
    (hrequest : requestFor l outlines s g = .ok request)
    (htimeout : l.timeout.float?.isSome = true) :
    (Rests (c.run l provider outlines s g)
      ↔ (∀ e, ¬ c.Exceeds l provider request e)
        ∧ ∀ answer e, c.reply l provider request = .ok answer →
          ¬ Overloads l.reader.json answer e)
    ∧ (∀ answer e, c.reply l provider request = .ok answer → Overloads l.reader.json answer e →
      (c.run l provider outlines s g).1.phase = .validating
      ∧ (c.run l provider outlines s g).2 = .error (.beyondLimits e))
    ∧ (∀ e, c.Exceeds l provider request e →
      (c.run l provider outlines s g).1.phase = .requesting
      ∧ (c.run l provider outlines s g).2 = .error (.unwritable e))
    ∧ (∀ p t, provider = some p → p request = .answers (.text t) →
      ∀ e, ¬ c.Exceeds l provider request e)
    ∧ (∀ answer, Json.openings answer.toList ≤ l.reader.json.depth →
      Json.DigitsWithin l.reader.json.digits answer.toList →
      ∀ e, ¬ Overloads l.reader.json answer e)
    ∧ ∀ known answer, (∃ a, readAnswer l.reader known answer = .ok a)
      ∨ (∃ f, readAnswer l.reader known answer = .error (.failure f) ∧ f.kind = .schemaViolation)
      ∨ ∃ e, readAnswer l.reader known answer = .error (.breakdown (.beyondLimits e))
        ∧ Overloads l.reader.json answer e := by
  refine ⟨⟨fun hrests => ⟨fun e hexceeds => ?_, fun answer e hreply hover => ?_⟩,
    fun h => rests_run hlocal hrequest htimeout h.1 h.2⟩, ?_, ?_, ?_,
    fun answer => not_overloads, readAnswer_cases l.reader⟩
  · rw [run_exceeding hrequest htimeout hexceeds] at hrests
    obtain ⟨-, o, ho, -⟩ := hrests
    exact nomatch ho
  · rw [run_overloaded hrequest hreply hover] at hrests
    exact nomatch hrests.1
  · intro answer e hreply hover
    rw [run_overloaded hrequest hreply hover]
    exact ⟨rfl, rfl⟩
  · intro e hexceeds
    rw [run_exceeding hrequest htimeout hexceeds]
    exact ⟨phase_asked, rfl⟩
  · rintro p t rfl ht
    exact not_exceeds_of_text ht

end

/-! ## An answer that is survived, and two that are not -/

/-- The figures of three files. -/
def spelledFigures : ProjectStats Int := ProjectStats.ofOutlines spelledFiles

theorem localAssessment_spelledFigures : ∃ a, localAssessment spelledFigures = .ok a := by
  unfold localAssessment
  rw [if_neg (by decide +kernel), if_pos (by decide +kernel)]
  exact ⟨_, rfl⟩

set_option maxRecDepth 4000 in
theorem strip_spelledAnswer : (Text.strip spelledAnswer.toList).isEmpty = false := by
  have hchars : spelledAnswer.toList = _ := String.toList_ofList
  rw [hchars]
  decide +kernel

/-- An answer that can be used is survived, and it is used. -/
theorem rests_run_spelled :
    (∃ a, localAssessment spelledFigures = .ok a)
    ∧ requestFor {} spelledFiles spelledFigures .empty
      = .ok (requestWithin usualRequestLimit spelledFiles spelledFigures .empty)
    ∧ ({} : EnrichmentLimits).timeout.float?.isSome = true
    ∧ Rests (({} : Controller).run {} (some fun _ => .answers (.text spelledAnswer)) spelledFiles
      spelledFigures .empty)
    ∧ ∃ o, (({} : Controller).run {} (some fun _ => .answers (.text spelledAnswer)) spelledFiles
        spelledFigures .empty).2 = .ok o
      ∧ o.phase = .merged ∧ o.assessment.overlay = some spelledOverlay := by
  obtain ⟨a, hread, ho⟩ := exists_readAnswer readAnswer_spelledAnswer_overlay
  have hreply : ∀ request, ({} : Controller).reply {} (some fun _ => .answers (.text spelledAnswer))
      request = .ok spelledAnswer :=
    fun _ => reply_of_answers rfl (by decide) rfl strip_spelledAnswer
  refine ⟨localAssessment_spelledFigures, rfl, rfl,
    (rests_run_iff localAssessment_spelledFigures rfl rfl).1.mpr
      ⟨not_exceeds_of_text rfl, fun answer e harrives hover => ?_⟩,
    _, run_of_readAnswer rfl (hreply _) hread, rfl, ho⟩
  -- What is read meets no limit.
  rw [hreply] at harrives
  obtain rfl : spelledAnswer = answer := Except.ok.inj harrives
  exact nomatch hread.symm.trans (readAnswer_eq_breakdown_iff.mpr ⟨e, hover, rfl⟩)

/-- An answer with a number that has one digit more than the reader takes. -/
def oversized : String := Json.entryText (List.replicate 4301 '1')

/-- An answer with far more brackets in it than the reader has levels. -/
def overnested : String := Json.entryText (List.replicate 100000 '[')

theorem overloads_oversized :
    Overloads Json.usualLimits oversized (.tooManyDigits 4300 4301) := by
  have hlong : Overloads Json.usualLimits (Json.entryText ('1' :: List.replicate 4300 '1')) _ :=
    overloads_long (by decide)
      (fun c hc => by rw [List.eq_of_mem_replicate (n := 4301) hc]; rfl) (by decide)
      (by rw [List.length_cons, List.length_replicate]; exact Nat.lt_succ_self _)
  rw [List.length_cons, List.length_replicate] at hlong
  exact hlong

/-- Not every answer is survived: a number with one digit too many, or deep nesting, breaks the
    enrichment, and the controller stays where it was. -/
theorem not_rests_run_oversized :
    (∃ a, localAssessment noFigures = .ok a)
    ∧ readAnswer {} [] oversized = .error (.breakdown (.beyondLimits (.tooManyDigits 4300 4301)))
    ∧ readAnswer {} [] overnested = .error (.breakdown (.beyondLimits .tooDeep))
    ∧ (({} : Controller).run {} (some fun _ => .answers (.text oversized)) [] noFigures
      .empty).1.phase = .validating
    ∧ ¬ Rests (({} : Controller).run {} (some fun _ => .answers (.text oversized)) [] noFigures
      .empty) := by
  have hblank : (Text.strip oversized.toList).isEmpty = false := by
    rw [oversized, Json.entryText, String.toList_ofList, Text.strip_eq_self (by decide) (by decide)]
    rfl
  have hrun : ({} : Controller).run {} (some fun _ => .answers (.text oversized)) [] noFigures
      .empty = _ :=
    run_overloaded rfl (reply_of_answers rfl (by decide) rfl hblank) overloads_oversized
  rw [hrun]
  exact ⟨localAssessment_noFigures, readAnswer_eq_breakdown_iff.mpr ⟨_, overloads_oversized, rfl⟩,
    readAnswer_eq_breakdown_iff.mpr ⟨_, overloads_nested (by decide) (by decide), rfl⟩, rfl,
    fun hrests => Phase.noConfusion hrests.1⟩

end SourceAtlas.Controller
