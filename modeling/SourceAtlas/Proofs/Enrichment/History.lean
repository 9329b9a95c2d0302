import Mathlib.Data.List.Forall2
import SourceAtlas.Proofs.Enrichment.Returns

/-! # The states of a controller

    A run that returns passes through one of three sequences of states and comes
    back to rest, and what it returns goes with the sequence (`Ends`).  That
    holds of every controller, so it holds of one that has been called any
    number of times before, whatever came of those calls, and the histories of
    several runs are put together from the sequences of each (`Runs.history`). -/

namespace SourceAtlas.Controller

section

variable {ν : Type}

/-- A call of a controller, with the way in which the provider behaves this time. -/
structure Call (ν : Type) where
  limits : EnrichmentLimits
  provider : Option Provider
  outlines : List (Outline ν)
  stats : ProjectStats ν
  structural : Graph
  /-- The analysis was cancelled beforehand. -/
  isCancelled : Bool

/-- A failure put the local assessment and the structural graph in the place of an answer. -/
structure FallsBack [Figure ν] (call : Call ν) (o : EnrichmentOutcome) (f : Failure) : Prop where
  phase : o.phase = .fallback
  error : o.error = some f
  overlay : o.overlay = none
  graph : o.graph call.structural = call.structural
  assessment : localAssessment call.stats = .ok o.assessment

/-- The states that a run passes through, by what it returns. -/
inductive Ends [Figure ν] (call : Call ν) (o : EnrichmentOutcome) : List Phase → Prop where
  | merged : o.phase = .merged → o.error = none →
      Ends call o [.requesting, .validating, .merged, .idle]
  | rejected {f : Failure} : f.kind.isA .schemaViolation = true → FallsBack call o f →
      Ends call o [.requesting, .validating, .fallback, .idle]
  | unanswered {f : Failure} : f.kind.isA .transport = true → FallsBack call o f →
      Ends call o [.requesting, .fallback, .idle]

variable [Figure ν]

/-- One call. -/
def perform (c : Controller) (call : Call ν) : Controller × Except Breakdown EnrichmentOutcome :=
  { c with isCancelled := call.isCancelled }.run call.limits call.provider call.outlines
    call.stats call.structural

/-- A new controller after several calls, some of which may have been broken off. -/
def after (calls : List (Call ν)) : Controller :=
  calls.foldl (fun c call => (c.perform call).1) {}

/-- What has become of a controller when a call has returned. -/
structure Returned (c : Controller) (call : Call ν) (o : EnrichmentOutcome) (c' : Controller) :
    Prop where
  states : ∃ block, Ends call o block ∧ c'.history.toList = c.history.toList ++ block
  phase : c'.phase = .idle
  outcome : c'.outcome = some o.phase

/-- The provider gets the request of the call once at most, and not at all if there is none or the
    call was cancelled beforehand. -/
def AsksOnce (c : Controller) (call : Call ν) (c' : Controller) : Prop :=
  c'.requests = c.requests
  ∨ ∃ request, requestFor call.limits call.outlines call.stats call.structural = .ok request
    ∧ call.provider.isSome = true ∧ call.isCancelled = false
    ∧ c'.requests = c.requests.push request

/-- Several calls, all of which return. -/
inductive Runs : Controller → List (Call ν × EnrichmentOutcome) → Controller → Prop where
  | nil {c : Controller} : Runs c [] c
  | cons {c c' : Controller} {call : Call ν} {o : EnrichmentOutcome}
      {rest : List (Call ν × EnrichmentOutcome)} : (c.perform call).2 = .ok o →
      Runs (c.perform call).1 rest c' → Runs c ((call, o) :: rest) c'

/-! ## One run -/

theorem history_asked (c : Controller) (l : EnrichmentLimits) (provider : Option Provider)
    (request : String) : (c.asked l provider request).history = c.history.push .requesting :=
  (ask_frame (c.enter .requesting) l provider request).1

theorem requests_fallBack (c : Controller) (s : ProjectStats ν) (f : Failure) :
    (c.fallBack s f).1.requests = c.requests := by
  rcases fallBack_cases c s f with ⟨a, -, heq⟩ | ⟨e, -, heq⟩
  · rw [heq]
    rfl
  · rw [heq]
    rfl

/-- What is left to prove of a run that falls back: the states up to there, and the failure. -/
theorem returned_fallBack {c c' : Controller} {call : Call ν} {o : EnrichmentOutcome} {f : Failure}
    (states : List Phase) (h : (c'.fallBack call.stats f).2 = .ok o)
    (hstates : c'.history.toList = c.history.toList ++ states)
    (hends : FallsBack call o f → Ends call o (states ++ [.fallback, .idle])) :
    Returned c call o (c'.fallBack call.stats f).1 := by
  rcases fallBack_cases c' call.stats f with ⟨a, ha, heq⟩ | ⟨e, -, heq⟩
  · rw [heq] at h ⊢
    obtain rfl : _ = o := Except.ok.inj h
    refine ⟨⟨states ++ [.fallback, .idle], hends ⟨rfl, rfl, rfl, rfl, ha⟩, ?_⟩, rfl, rfl⟩
    show ((c'.history.push .fallback).push .idle).toList = _
    rw [Array.toList_push, Array.toList_push, hstates]
    simp only [List.append_assoc, List.cons_append, List.nil_append]
  · rw [heq] at h
    exact nomatch h

/-- **ONE RUN**: whatever the controller went through before, a call that returns leaves it at
    rest, with one of the three sequences behind it. -/
theorem returned_of_perform {c : Controller} {call : Call ν} {o : EnrichmentOutcome}
    (h : (c.perform call).2 = .ok o) : Returned c call o (c.perform call).1 := by
  have hcourse := run_course { c with isCancelled := call.isCancelled } call.limits call.provider
    call.outlines call.stats call.structural
  rw [perform] at h ⊢
  generalize { c with isCancelled := call.isCancelled }.run call.limits call.provider call.outlines
    call.stats call.structural = r at hcourse h ⊢
  -- The courses that are broken off return nothing, and each of the others has its sequence.
  cases hcourse with
  | unwritten => exact nomatch h
  | cutShort => exact nomatch h
  | unreadable => exact nomatch h
  | unanswered hrequest hreply =>
      refine returned_fallBack [.requesting] h ?_ fun hfalls =>
        .unanswered (isA_transport_of_ask hreply) hfalls
      rw [history_asked, Array.toList_push]
  | rejected hrequest hreply hread =>
      refine returned_fallBack [.requesting, .validating] h ?_ fun hfalls =>
        .rejected (by rw [kind_of_readAnswer hread]; rfl) hfalls
      rw [history_enter, history_asked, Array.toList_push, Array.toList_push, List.append_assoc]
      rfl
  | @accepted request answer a hrequest hreply hread =>
      obtain rfl : _ = o := Except.ok.inj h
      refine ⟨⟨_, .merged rfl rfl, ?_⟩, rfl, rfl⟩
      show ((((asked _ _ _ request).history.push .validating).push .merged).push .idle).toList = _
      rw [history_asked]
      simp only [Array.toList_push, List.append_assoc, List.cons_append, List.nil_append]

/-- Asking sends the request of the call, if anything. -/
theorem asksOnce_asked {c : Controller} {call : Call ν} {request : String}
    (hrequest : requestFor call.limits call.outlines call.stats call.structural = .ok request) :
    AsksOnce c call
      ({ c with isCancelled := call.isCancelled }.asked call.limits call.provider request) := by
  rcases (ask_frame ({ c with isCancelled := call.isCancelled }.enter .requesting) call.limits
    call.provider request).2 with hsame | ⟨hprovider, hopen, hsent⟩
  · exact Or.inl hsame
  · exact Or.inr ⟨request, hrequest, hprovider, hopen, hsent⟩

theorem AsksOnce.of_requests_eq {c c₁ c₂ : Controller} {call : Call ν} (h : AsksOnce c call c₁)
    (heq : c₂.requests = c₁.requests) : AsksOnce c call c₂ := by
  rw [AsksOnce, heq]
  exact h

/-- **ONE REQUEST**: a call asks the provider once at most, whether it returns or not. -/
theorem asksOnce_perform (c : Controller) (call : Call ν) :
    AsksOnce c call (c.perform call).1 := by
  have hcourse := run_course { c with isCancelled := call.isCancelled } call.limits call.provider
    call.outlines call.stats call.structural
  rw [perform]
  generalize { c with isCancelled := call.isCancelled }.run call.limits call.provider call.outlines
    call.stats call.structural = r at hcourse ⊢
  cases hcourse with
  | unwritten => exact Or.inl rfl
  | cutShort hrequest => exact asksOnce_asked hrequest
  | unanswered hrequest => exact (asksOnce_asked hrequest).of_requests_eq (requests_fallBack ..)
  | unreadable hrequest => exact (asksOnce_asked hrequest).of_requests_eq rfl
  | rejected hrequest => exact (asksOnce_asked hrequest).of_requests_eq (requests_fallBack ..)
  | accepted hrequest => exact (asksOnce_asked hrequest).of_requests_eq rfl

/-- Without a provider a run falls back at once. -/
theorem run_unprovided {c : Controller} {l : EnrichmentLimits} {outlines : List (Outline ν)}
    {s : ProjectStats ν} {g : Graph} {request : String}
    (hrequest : requestFor l outlines s g = .ok request) :
    c.run l none outlines s g = (c.enter .requesting).fallBack s
      (transportFailure "No enrichment provider configured") := by
  unfold run
  dsimp only
  rw [hrequest]
  rfl

/-! ## Several runs -/

/-- The sequences of several calls that return stand one after the other in the history. -/
theorem Runs.history {c c' : Controller} {runs : List (Call ν × EnrichmentOutcome)}
    (h : Runs c runs c') : ∃ blocks,
      List.Forall₂ (fun r block => Ends r.1 r.2 block) runs blocks
      ∧ c'.history.toList = c.history.toList ++ blocks.flatten := by
  -- Induction on the calls: the states of the first one come before those of the rest.
  induction h with
  | nil => exact ⟨[], .nil, (List.append_nil _).symm⟩
  | cons hrun hrest ih =>
      obtain ⟨block, hends, hblock⟩ := (returned_of_perform hrun).states
      obtain ⟨blocks, hall, hblocks⟩ := ih
      refine ⟨block :: blocks, .cons hends hall, ?_⟩
      rw [hblocks, hblock, List.append_assoc, List.flatten_cons]

/-- **THE STATES OF A CONTROLLER**: after any calls, a call that returns leaves the controller at
    rest and its states behind it, and asks the provider once at most; calls that all return put
    their states one after the other. -/
theorem returns_through_states (calls : List (Call ν)) :
    (∀ call : Call ν, AsksOnce (after calls) call ((after calls).perform call).1)
    ∧ (∀ (call : Call ν) o, ((after calls).perform call).2 = .ok o →
      Returned (after calls) call o ((after calls).perform call).1)
    ∧ ∀ (runs : List (Call ν × EnrichmentOutcome)) c', Runs (after calls) runs c' → ∃ blocks,
      List.Forall₂ (fun r block => Ends r.1 r.2 block) runs blocks
      ∧ c'.history.toList = (after calls).history.toList ++ blocks.flatten :=
  ⟨fun call => asksOnce_perform _ call, fun _ _ h => returned_of_perform h,
    fun _ _ h => h.history⟩

end

/-! ## An answer that is used, one that is refused, and none -/

/-- A call for three files with a provider that gives the same answer to every request. -/
def answeredWith (answer : String) : Call Int where
  limits := {}
  provider := some fun _ => .answers (.text answer)
  outlines := spelledFiles
  stats := spelledFigures
  structural := .empty
  isCancelled := false

/-- A call for a project without files that has no provider to ask. -/
def unprovided : Call Int where
  limits := {}
  provider := none
  outlines := []
  stats := noFigures
  structural := .empty
  isCancelled := false

/-- What is read from an answer that is not blank decides on such a call. -/
theorem perform_answeredWith {answer : String} (hblank : (Text.strip answer.toList).isEmpty = false)
    (c : Controller) : ∃ c', c.perform (answeredWith answer)
      = match readAnswer {} (spelledFiles.map (·.nodeId)) answer with
        | .error (.breakdown b) => (c', .error b)
        | .error (.failure f) => c'.fallBack spelledFigures f
        | .ok a => c'.merge spelledFiles a := by
  have htime : ({} : EnrichmentLimits).isOver = false := by decide
  exact ⟨_, run_of_reply rfl (reply_of_answers rfl htime rfl hblank)⟩

theorem exists_perform_used : ∃ o, o.phase = .merged
    ∧ ∀ c : Controller, (c.perform (answeredWith spelledAnswer)).2 = .ok o := by
  obtain ⟨a, hread, -⟩ := exists_readAnswer readAnswer_spelledAnswer_overlay
  refine ⟨⟨.merged, a, (a.overlay.filter (!·.isEmpty)).map (·.graph spelledFiles), none⟩, rfl,
    fun c => ?_⟩
  obtain ⟨c', hrun⟩ := perform_answeredWith strip_spelledAnswer c
  rw [hrun, hread]
  rfl

/-- An answer without an object is refused. -/
theorem exists_perform_refused : ∃ o, o.error.map (·.kind) = some .schemaViolation
    ∧ ∀ c : Controller, (c.perform (answeredWith "as is")).2 = .ok o := by
  obtain ⟨a, ha⟩ := localAssessment_spelledFigures
  have hread : readAnswer {} (spelledFiles.map (·.nodeId)) "as is" = .error (.failure
      (schemaViolation "No JSON object found in provider response")) := by rfl
  refine ⟨⟨.fallback, a, none, some (schemaViolation "No JSON object found in provider response")⟩,
    rfl, fun c => ?_⟩
  have hblank : (Text.strip "as is".toList).isEmpty = false := by decide
  obtain ⟨c', hrun⟩ := perform_answeredWith hblank c
  rw [hrun, hread]
  dsimp only
  rw [fallBack, ha]
  rfl

theorem exists_perform_unprovided : ∃ o, o.error.map (·.kind) = some .transport
    ∧ ∀ c : Controller, (c.perform unprovided).2 = .ok o := by
  obtain ⟨a, ha⟩ := localAssessment_noFigures
  refine ⟨⟨.fallback, a, none, some (transportFailure "No enrichment provider configured")⟩, rfl,
    fun c => ?_⟩
  have hcourse : c.perform unprovided = ({ c with isCancelled := false }.enter .requesting).fallBack
      noFigures (transportFailure "No enrichment provider configured") := run_unprovided rfl
  rw [hcourse, fallBack, ha]
  rfl

/-- After a call whose answer was refused, an answer is used, another one refused, and at last
    nobody is asked. -/
theorem returns_through_states_mixed : ∃ used refused unasked c',
    used.phase = .merged ∧ refused.error.map (·.kind) = some .schemaViolation
    ∧ unasked.error.map (·.kind) = some .transport
    ∧ ((after [answeredWith "as is"]).perform (answeredWith spelledAnswer)).2 = .ok used
    ∧ Returned (after [answeredWith "as is"]) (answeredWith spelledAnswer) used
      ((after [answeredWith "as is"]).perform (answeredWith spelledAnswer)).1
    ∧ Runs (after [answeredWith "as is"]) [(answeredWith spelledAnswer, used),
      (answeredWith "as is", refused), (unprovided, unasked)] c'
    ∧ ∃ blocks, List.Forall₂ (fun r block => Ends r.1 r.2 block)
        [(answeredWith spelledAnswer, used), (answeredWith "as is", refused),
          (unprovided, unasked)] blocks
      ∧ c'.history.toList = (after [answeredWith "as is"]).history.toList ++ blocks.flatten := by
  obtain ⟨used, hmerged, hused⟩ := exists_perform_used
  obtain ⟨refused, hviolation, hrefused⟩ := exists_perform_refused
  obtain ⟨unasked, htransport, hunasked⟩ := exists_perform_unprovided
  have hruns : Runs (after [answeredWith "as is"]) _ _ :=
    .cons (hused _) (.cons (hrefused _) (.cons (hunasked _) .nil))
  have hstates := returns_through_states [answeredWith "as is"]
  exact ⟨used, refused, unasked, _, hmerged, hviolation, htransport, hused _,
    hstates.2.1 _ _ (hused _), hruns, hstates.2.2 _ _ hruns⟩

end SourceAtlas.Controller
