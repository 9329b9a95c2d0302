import SourceAtlas.Pattern.Match

/-! # How a match begins

    From a pattern alone one can tell whether it can match without reading
    anything (`mayPass`) and which character it can read first (`mayRead`), if
    its assertions are taken to hold wherever they stand.  No match begins
    otherwise (`exists_of_run`); so a pattern that has to read something fits no
    empty text, and none whose first character it cannot read first
    (`matchHead_nil`, `matchHead_cons`). -/

namespace SourceAtlas.Pattern

/-- The pattern may match without reading anything. -/
def mayPass : Pattern → Bool
  | nothing => true
  | one _ => false
  | seq p q => p.mayPass && q.mayPass
  | alt p q => p.mayPass || q.mayPass
  | many _ => true
  | fewest _ => true
  | part _ p => p.mayPass
  | ahead _ => true
  | notAhead _ => true
  | start => true
  | finish => true
  | edge => true

/-- The pattern may read the character first. -/
def mayRead (c : Char) : Pattern → Bool
  | nothing => false
  | one cls => cls.contains c
  | seq p q => p.mayRead c || (p.mayPass && q.mayRead c)
  | alt p q => p.mayRead c || q.mayRead c
  | many p => p.mayRead c
  | fewest p => p.mayRead c
  | part _ p => p.mayRead c
  | ahead _ => false
  | notAhead _ => false
  | start => false
  | finish => false
  | edge => false

/-- How a match of the pattern can lead from one place to another: it reads nothing, or first a
    character that stands there. -/
inductive Opens (p : Pattern) (s t : Cursor) : Prop where
  | passes : p.mayPass = true → t.rest = s.rest → Opens p s t
  | reads (c : Char) (rest : List Char) : s.rest = c :: rest → p.mayRead c = true → Opens p s t

variable {p q : Pattern} {s t u : Cursor}

theorem Opens.mono (hpass : p.mayPass = true → q.mayPass = true)
    (hread : ∀ c, p.mayRead c = true → q.mayRead c = true) (h : p.Opens s t) : q.Opens s t := by
  cases h with
  | passes h hrest => exact .passes (hpass h) hrest
  | reads c rest hs h => exact .reads c rest hs (hread c h)

/-- One piece and then another. -/
theorem Opens.seq (hp : p.Opens s t) (hq : q.Opens t u) : (p.seq q).Opens s u := by
  cases hp with
  | reads c rest hs h => exact .reads c rest hs (by rw [mayRead, h, Bool.true_or])
  | passes h hrest =>
      cases hq with
      | passes h' hrest' =>
          exact .passes (by rw [mayPass, h, h', Bool.and_self]) (hrest'.trans hrest)
      | reads c rest ht h' =>
          refine .reads c rest (hrest.symm.trans ht) ?_
          rw [mayRead, h, h', Bool.true_and, Bool.or_true]

/-- A repetition that begins with a piece. -/
theorem Opens.many (hp : p.Opens s t) (hq : p.many.Opens t u) : p.many.Opens s u := by
  refine (hp.seq hq).mono (fun _ => rfl) fun c h => ?_
  rw [mayRead, Bool.or_eq_true, Bool.and_eq_true] at h
  exact h.elim id fun h => h.2

/-! ## Repetitions -/

section

variable {step : Continuation → Continuation} {k : Continuation}

/-- A step leads to a place from which the rest goes on, as the pattern opens. -/
def StepOpens (p : Pattern) (step : Continuation → Continuation) : Prop :=
  ∀ k s t, step k s = some t → ∃ u, k u = some t ∧ p.Opens s u

theorem eq_some_or_of_orElse {o o' : Option Cursor} (h : (o <|> o') = some t) :
    o = some t ∨ o' = some t := by
  rw [Option.orElse_eq_orElse, Option.orElse_eq_or, Option.or_eq_some_iff] at h
  exact h.imp_right fun h => h.2

theorem eq_some_of_guarded {n m : Nat} {o : Option Cursor}
    (h : (if n < m then o else none) = some t) : o = some t := by
  split at h
  · exact h
  · exact nomatch h

theorem exists_of_repeatMost (hstep : p.StepOpens step) {n : Nat}
    (h : repeatMost step k n s = some t) : ∃ u, k u = some t ∧ p.many.Opens s u := by
  induction n generalizing s with
  | zero => exact ⟨s, h, .passes rfl rfl⟩
  | succ n ih =>
      rcases eq_some_or_of_orElse h with h | h
      · obtain ⟨v, hv, hsv⟩ := hstep _ s t h
        obtain ⟨u, hu, hvu⟩ := ih (eq_some_of_guarded hv)
        exact ⟨u, hu, hsv.many hvu⟩
      · exact ⟨s, h, .passes rfl rfl⟩

theorem exists_of_repeatFew (hstep : p.StepOpens step) {n : Nat}
    (h : repeatFew step k n s = some t) : ∃ u, k u = some t ∧ p.many.Opens s u := by
  induction n generalizing s with
  | zero => exact ⟨s, h, .passes rfl rfl⟩
  | succ n ih =>
      rcases eq_some_or_of_orElse h with h | h
      · exact ⟨s, h, .passes rfl rfl⟩
      · obtain ⟨v, hv, hsv⟩ := hstep _ s t h
        obtain ⟨u, hu, hvu⟩ := ih (eq_some_of_guarded hv)
        exact ⟨u, hu, hsv.many hvu⟩

end

/-! ## All patterns -/

/-- **HOW A MATCH BEGINS**: if a pattern matches, then as it may open. -/
theorem exists_of_run (p : Pattern) : p.StepOpens p.run := by
  induction p with
  | nothing => exact fun k s t h => ⟨s, h, .passes rfl rfl⟩
  | one cls =>
      intro k s t h
      rw [run] at h
      split at h
      · exact nomatch h
      · next c rest hs =>
          split at h
          · next hc => exact ⟨_, h, .reads c rest hs hc⟩
          · exact nomatch h
  | seq p q ihp ihq =>
      intro k s t h
      obtain ⟨v, hv, hsv⟩ := ihp _ s t h
      obtain ⟨u, hu, hvu⟩ := ihq k v t hv
      exact ⟨u, hu, hsv.seq hvu⟩
  | alt p q ihp ihq =>
      intro k s t h
      rcases eq_some_or_of_orElse h with h | h
      · obtain ⟨u, hu, hsu⟩ := ihp k s t h
        refine ⟨u, hu, hsu.mono (fun h => ?_) fun c h => ?_⟩
        · rw [mayPass, h, Bool.true_or]
        · rw [mayRead, h, Bool.true_or]
      · obtain ⟨u, hu, hsu⟩ := ihq k s t h
        refine ⟨u, hu, hsu.mono (fun h => ?_) fun c h => ?_⟩
        · rw [mayPass, h, Bool.or_true]
        · rw [mayRead, h, Bool.or_true]
  | many p ih => exact fun k s t h => exists_of_repeatMost ih h
  | fewest p ih =>
      intro k s t h
      obtain ⟨u, hu, hsu⟩ := exists_of_repeatFew ih h
      exact ⟨u, hu, hsu.mono (fun _ => rfl) fun c (h : p.many.mayRead c) => h⟩
  | part label p ih =>
      intro k s t h
      obtain ⟨u, hu, hsu⟩ := ih _ s t h
      refine ⟨_, hu, ?_⟩
      cases hsu with
      | passes hpass hrest => exact .passes hpass hrest
      | reads c rest hs hread => exact .reads c rest hs hread
  | ahead p _ =>
      intro k s t h
      rw [run] at h
      split at h
      · exact ⟨s, h, .passes rfl rfl⟩
      · exact nomatch h
  | notAhead p _ =>
      intro k s t h
      rw [run] at h
      split at h
      · exact nomatch h
      · exact ⟨s, h, .passes rfl rfl⟩
  | start | finish | edge =>
      intro k s t h
      rw [run] at h
      split at h
      · exact ⟨s, h, .passes rfl rfl⟩
      · exact nomatch h

theorem matchHead_nil (hpass : p.mayPass = false) : p.matchHead [] = none := by
  refine Option.eq_none_iff_forall_ne_some.mpr fun t h => ?_
  obtain ⟨u, -, hopens⟩ := p.exists_of_run some _ t h
  cases hopens with
  | passes hpass' => exact Bool.false_ne_true (hpass.symm.trans hpass')
  | reads c rest hs => exact nomatch hs

theorem matchHead_cons {c : Char} (hpass : p.mayPass = false) (hread : p.mayRead c = false)
    (rest : List Char) : p.matchHead (c :: rest) = none := by
  refine Option.eq_none_iff_forall_ne_some.mpr fun t h => ?_
  obtain ⟨u, -, hopens⟩ := p.exists_of_run some _ t h
  cases hopens with
  | passes hpass' => exact Bool.false_ne_true (hpass.symm.trans hpass')
  | reads d rest' hs hread' =>
      obtain ⟨rfl, -⟩ := List.cons.inj hs
      exact Bool.false_ne_true (hread.symm.trans hread')

end SourceAtlas.Pattern
