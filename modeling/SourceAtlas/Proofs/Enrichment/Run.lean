import SourceAtlas.Enrichment.Controller

/-! # What a run of the enrichment can do

    A run goes through at most three gates: the request is written, the provider
    is asked, and its answer is read.  `Course` says what a run comes to, gate by
    gate, and `run_course` that there is nothing else; what follows does not
    unfold the run.  The failures at the second gate are those of the way to the
    provider (`isA_transport_of_ask`), and those at the third are violations of
    the schema (`kind_of_readAnswer`). -/

namespace SourceAtlas

/-! ## The failures at each gate -/

theorem kind_of_answerText {r : AnswerReader} {v : Value} {f : Failure}
    (h : answerText r v = .error (.failure f)) : f.kind = .transport := by
  unfold answerText at h
  split at h
  · rw [← Rejection.failure.inj (Except.error.inj h)]
    rfl
  · split at h
    · exact nomatch h
    · split at h
      · rw [← Rejection.failure.inj (Except.error.inj h)]
        rfl
      · exact nomatch h

/-- A failure while the provider is awaited is a failure on the way to it. -/
theorem isA_transport_of_await {l : EnrichmentLimits} {r : Reply} {f : Failure}
    (h : l.await r = .error (.failure f)) : f.kind.isA .transport = true := by
  unfold EnrichmentLimits.await at h
  dsimp only at h
  split at h
  · exact nomatch h
  · split at h
    · rw [← Rejection.failure.inj (Except.error.inj h)]
      rfl
    · cases r with
      | answers v =>
          rw [kind_of_answerText h]
          rfl
      | raises shown =>
          rw [← Rejection.failure.inj (Except.error.inj h)]
          rfl
      | silent =>
          rw [← Rejection.failure.inj (Except.error.inj h)]
          rfl
      | cancelled =>
          rw [← Rejection.failure.inj (Except.error.inj h)]
          rfl

theorem kind_of_payload {answer : String} {f : Failure} (h : payload answer = .error f) :
    f.kind = .schemaViolation := by
  unfold payload at h
  split at h
  · exact nomatch h
  · rw [← Except.error.inj h]
    rfl

theorem kind_of_ofJson {e : Json.Error} {f : Failure} (h : Rejection.ofJson e = .failure f) :
    f.kind = .schemaViolation := by
  unfold Rejection.ofJson at h
  split at h
  · exact nomatch h
  · exact nomatch h
  · rw [← Rejection.failure.inj h]
    rfl

theorem assessmentOf_cases (r : AnswerReader) (known : List String) (v : Value) :
    (∃ a, assessmentOf r known v = .ok a)
    ∨ ∃ f, assessmentOf r known v = .error (.failure f) ∧ f.kind = .schemaViolation := by
  unfold assessmentOf
  split
  · split
    · exact Or.inl ⟨_, rfl⟩
    · exact Or.inr ⟨_, rfl, rfl⟩
  · exact Or.inr ⟨_, rfl, rfl⟩

/-- A failure of reading an answer is a violation of the schema. -/
theorem kind_of_readAnswer {r : AnswerReader} {known : List String} {answer : String} {f : Failure}
    (h : readAnswer r known answer = .error (.failure f)) : f.kind = .schemaViolation := by
  unfold readAnswer at h
  split at h
  · rename_i f' hpayload
    rw [← Rejection.failure.inj (Except.error.inj h)]
    exact kind_of_payload hpayload
  · split at h
    · exact kind_of_ofJson (Except.error.inj h)
    · rename_i v _
      rcases assessmentOf_cases r known v with ⟨a, ha⟩ | ⟨f', hf, hkind⟩
      · rw [ha] at h
        exact nomatch h
      · rw [hf] at h
        rw [← Rejection.failure.inj (Except.error.inj h)]
        exact hkind

namespace Controller

variable {c : Controller} {l : EnrichmentLimits} {provider : Option Provider} {request : String}

theorem isA_transport_of_ask {f : Failure}
    (h : (c.ask l provider request).2 = .error (.failure f)) : f.kind.isA .transport = true := by
  unfold ask at h
  split at h
  · rw [← Rejection.failure.inj (Except.error.inj h)]
    decide
  · split at h
    · rw [← Rejection.failure.inj (Except.error.inj h)]
      decide
    · exact isA_transport_of_await h

/-! ## Asking -/

@[simp] theorem history_enter (c : Controller) (p : Phase) :
    (c.enter p).history = c.history.push p := rfl

/-- Asking leaves the states alone. The provider gets the request once, and not at all if there is
    none or the run is cancelled. -/
theorem ask_frame (c : Controller) (l : EnrichmentLimits) (provider : Option Provider)
    (request : String) :
    (c.ask l provider request).1.history = c.history
    ∧ ((c.ask l provider request).1.requests = c.requests
      ∨ provider.isSome = true ∧ c.isCancelled = false
        ∧ (c.ask l provider request).1.requests = c.requests.push request) := by
  unfold ask
  split
  · exact ⟨rfl, Or.inl rfl⟩
  · split
    · exact ⟨rfl, Or.inl rfl⟩
    · rename_i hopen
      exact ⟨rfl, Or.inr ⟨rfl, eq_false_of_ne_true hopen, rfl⟩⟩

/-! ## The whole run -/

/-- The figures of a project without files. -/
def noFigures : ProjectStats Int := ProjectStats.ofOutlines []

theorem localAssessment_noFigures : ∃ a, localAssessment noFigures = .ok a := by
  unfold localAssessment
  rw [if_neg (by decide +kernel), if_pos (by decide +kernel)]
  exact ⟨_, rfl⟩

section

variable {ν : Type} [Figure ν]

/-- Ending with a local assessment succeeds if there is one. -/
theorem fallBack_cases (c : Controller) (s : ProjectStats ν) (f : Failure) :
    (∃ a, localAssessment s = .ok a ∧ c.fallBack s f
      = (c.enter .fallback).finish ⟨.fallback, a, none, some f⟩)
    ∨ ∃ e, localAssessment s = .error e
      ∧ c.fallBack s f = (c.enter .fallback, .error (.badFigures e)) := by
  unfold fallBack
  cases localAssessment s with
  | ok a => exact Or.inl ⟨a, rfl, rfl⟩
  | error e => exact Or.inr ⟨e, rfl, rfl⟩

/-- A run that falls back brings no graph. -/
theorem fallback_of_fallBack {c : Controller} {s : ProjectStats ν} {f : Failure}
    {e : EnrichmentOutcome} (h : (c.fallBack s f).2 = .ok e) :
    e.phase = .fallback ∧ e.overlay = none := by
  rcases fallBack_cases c s f with ⟨a, -, heq⟩ | ⟨b, -, heq⟩
  · rw [heq] at h
    obtain rfl := Except.ok.inj h
    exact ⟨rfl, rfl⟩
  · rw [heq] at h
    exact nomatch h

variable (c : Controller) (l : EnrichmentLimits) (provider : Option Provider)
  (outlines : List (Outline ν)) (s : ProjectStats ν) (g : Graph)

/-- The controller after the provider was asked. -/
def asked (request : String) : Controller :=
  ((c.enter .requesting).ask l provider request).1

/-- What the provider was asked brings. -/
def reply (request : String) : Except Rejection String :=
  ((c.enter .requesting).ask l provider request).2

/-- All that a run can come to, by the gate that it does not pass. -/
inductive Course : Controller × Except Breakdown EnrichmentOutcome → Prop where
  /-- The request cannot be written. -/
  | unwritten {b : Breakdown} : requestFor l outlines s g = .error b →
      Course (c.enter .requesting, .error b)
  /-- Asking breaks the run off. -/
  | cutShort {request : String} {b : Breakdown} : requestFor l outlines s g = .ok request →
      c.reply l provider request = .error (.breakdown b) →
      Course (c.asked l provider request, .error b)
  /-- There is no answer. -/
  | unanswered {request : String} {f : Failure} : requestFor l outlines s g = .ok request →
      c.reply l provider request = .error (.failure f) →
      Course ((c.asked l provider request).fallBack s f)
  /-- Reading the answer breaks the run off. -/
  | unreadable {request answer : String} {b : Breakdown} :
      requestFor l outlines s g = .ok request → c.reply l provider request = .ok answer →
      readAnswer l.reader (outlines.map (·.nodeId)) answer = .error (.breakdown b) →
      Course ((c.asked l provider request).enter .validating, .error b)
  /-- The answer does not fit the schema. -/
  | rejected {request answer : String} {f : Failure} :
      requestFor l outlines s g = .ok request → c.reply l provider request = .ok answer →
      readAnswer l.reader (outlines.map (·.nodeId)) answer = .error (.failure f) →
      Course (((c.asked l provider request).enter .validating).fallBack s f)
  /-- The answer is used. -/
  | accepted {request answer : String} {a : Assessment} :
      requestFor l outlines s g = .ok request → c.reply l provider request = .ok answer →
      readAnswer l.reader (outlines.map (·.nodeId)) answer = .ok a →
      Course (((c.asked l provider request).enter .validating).merge outlines a)

/-- Every run takes one of these courses. -/
theorem run_course : Course c l provider outlines s g (c.run l provider outlines s g) := by
  unfold run
  dsimp only
  cases hrequest : requestFor l outlines s g with
  | error b => exact .unwritten hrequest
  | ok request =>
      dsimp only
      have hasked : (c.enter .requesting).ask l provider request
          = (c.asked l provider request, c.reply l provider request) := rfl
      rw [hasked]
      cases hreply : c.reply l provider request with
      | error r =>
          cases r with
          | breakdown b => exact .cutShort hrequest hreply
          | failure f => exact .unanswered hrequest hreply
      | ok answer =>
          dsimp only
          cases hread : readAnswer l.reader (outlines.map (·.nodeId)) answer with
          | error r =>
              cases r with
              | breakdown b => exact .unreadable hrequest hreply hread
              | failure f => exact .rejected hrequest hreply hread
          | ok a => exact .accepted hrequest hreply hread

end

end Controller

end SourceAtlas
