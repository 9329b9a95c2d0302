import SourceAtlas.Proofs.Graph.Tally
import SourceAtlas.Proofs.Stats.Histogram
import SourceAtlas.Proofs.Value.Quotient

/-! # Figures of batches

    The figures of a batch are sums and counts over its files, the extremes and
    the mean of all complexities, and the imported modules (`Describes`).  So they
    do not depend on the order of the files but for the order of the modules
    (`Reordered`), and the figures of two batches put one after the other come from
    the figures of the two (`Joins`), where a batch without functions counts for
    nothing in the extremes.

    There are such figures for every batch, unless the mean is too large for a
    floating-point number; that takes a complexity of at least `2 ^ 1022`
    (`ofOutlines?_cases`). -/

namespace SourceAtlas

/-! ## Sums -/

theorem Figure.total_eq_sum (figures : List Int) : Figure.total figures = figures.sum := by
  have hfrom : ∀ start : Int, figures.foldl (· + ·) start = start + figures.sum := by
    induction figures with
    | nil => exact fun start => (Int.add_zero start).symm
    | cons i rest ih =>
        intro start
        rw [List.foldl_cons, ih, List.sum_cons, Int.add_assoc]
  exact (hfrom 0).trans (Int.zero_add _)

/-- Whole numbers always have a sum. -/
theorem Number.sum?_whole (figures : List Int) :
    sum? (figures.map .whole) = some (.whole figures.sum) := by
  have hfrom : ∀ start : Int, (figures.map Number.whole).foldlM add? (.whole start)
      = some (.whole (start + figures.sum)) := by
    induction figures with
    | nil =>
        intro start
        rw [List.sum_nil, Int.add_zero]
        rfl
    | cons i rest ih =>
        intro start
        rw [List.sum_cons, ← Int.add_assoc]
        exact ih (start + i)
  exact (hfrom 0).trans (by rw [Int.zero_add])

theorem natAbs_sum_lt {figures : List Int} {bound : Nat} (hne : figures ≠ [])
    (h : ∀ i ∈ figures, i.natAbs < bound) : figures.sum.natAbs < figures.length * bound := by
  induction figures with
  | nil => exact absurd rfl hne
  | cons i rest ih =>
      obtain ⟨hi, hrest⟩ := List.forall_mem_cons.mp h
      have hsum : rest.sum.natAbs ≤ rest.length * bound := by
        by_cases hnil : rest = []
        · rw [hnil]
          exact Nat.zero_le _
        · exact (ih hnil hrest).le
      calc (i :: rest).sum.natAbs ≤ i.natAbs + rest.sum.natAbs := by
            rw [List.sum_cons]
            exact Int.natAbs_add_le ..
        _ < bound + rest.length * bound := Nat.add_lt_add_of_lt_of_le hi hsum
        _ = (i :: rest).length * bound := by
            rw [List.length_cons, Nat.succ_mul, Nat.add_comm]

/-! ## Extremes -/

/-- One of two numbers is picked, and it is behind both in some order. -/
structure Picks (before : Int → Int → Prop) (pick : Int → Int → Int) : Prop where
  one : ∀ a b, pick a b = a ∨ pick a b = b
  left : ∀ a b, before a (pick a b)
  right : ∀ a b, before b (pick a b)
  trans : ∀ a b c, before a b → before b c → before a c
  antisymm : ∀ a b, before a b → before b a → a = b

theorem picks_max : Picks (· ≤ ·) max where
  one := max_choice
  left := le_max_left
  right := le_max_right
  trans _ _ _ := le_trans
  antisymm _ _ := le_antisymm

theorem picks_min : Picks (· ≥ ·) min where
  one := min_choice
  left := min_le_left
  right := min_le_right
  trans _ _ _ := ge_trans
  antisymm _ _ := ge_antisymm

/-- The last score in some order, or zero if there are none. -/
def IsExtreme (before : Int → Int → Prop) (scores : List Int) (c : Int) : Prop :=
  (scores = [] ∧ c = 0) ∨ (c ∈ scores ∧ ∀ d ∈ scores, before d c)

namespace IsExtreme

variable {before : Int → Int → Prop} {pick : Int → Int → Int} {scores more : List Int} {c d : Int}

theorem of_ne_nil (h : IsExtreme before scores c) (hne : scores ≠ []) :
    c ∈ scores ∧ ∀ d ∈ scores, before d c :=
  h.resolve_left fun hnil => hne hnil.1

/-- An extreme is found by picking along a list. -/
theorem foldl (h : Picks before pick) (first : Int) (rest : List Int) :
    IsExtreme before (first :: rest) (rest.foldl pick first) := by
  -- What was picked so far stands for all scores before, so the first score is any.
  induction rest generalizing first with
  | nil =>
      have hrefl : before first first := by
        have hleft := h.left first first
        rwa [(h.one first first).elim id id] at hleft
      refine Or.inr ⟨List.mem_singleton_self _, fun d hd => ?_⟩
      rw [List.mem_singleton.mp hd]
      exact hrefl
  | cons n rest ih =>
      obtain ⟨hmem, hall⟩ := (ih (pick first n)).of_ne_nil (List.cons_ne_nil _ _)
      obtain ⟨hpicked, hrest⟩ := List.forall_mem_cons.mp hall
      rw [List.foldl_cons]
      refine Or.inr ⟨?_, List.forall_mem_cons.mpr ⟨?_, List.forall_mem_cons.mpr ⟨?_, hrest⟩⟩⟩
      · rcases List.mem_cons.mp hmem with heq | hmem
        · rw [heq]
          rcases h.one first n with hone | hone
          · rw [hone]
            exact List.mem_cons_self ..
          · rw [hone]
            exact List.mem_cons_of_mem _ (List.mem_cons_self ..)
        · exact List.mem_cons_of_mem _ (List.mem_cons_of_mem _ hmem)
      · exact h.trans _ _ _ (h.left first n) hpicked
      · exact h.trans _ _ _ (h.right first n) hpicked

/-- The order of the scores does not matter. -/
theorem eq_of_perm (h : Picks before pick) (hc : IsExtreme before scores c)
    (hd : IsExtreme before more d) (hperm : scores.Perm more) : c = d := by
  rcases hc with ⟨rfl, rfl⟩ | ⟨hmem, hall⟩
  · rcases hd with ⟨-, rfl⟩ | ⟨hmem, -⟩
    · rfl
    · exact absurd (hperm.mem_iff.mpr hmem) List.not_mem_nil
  · have hne : more ≠ [] := List.ne_nil_of_mem (hperm.mem_iff.mp hmem)
    obtain ⟨hmem', hall'⟩ := hd.of_ne_nil hne
    exact h.antisymm _ _ (hall' c (hperm.mem_iff.mp hmem)) (hall d (hperm.mem_iff.mpr hmem'))

/-- The extreme of two lists is picked from the extremes of those that are not empty. -/
theorem append (h : Picks before pick) (hc : IsExtreme before scores c)
    (hd : IsExtreme before more d) :
    IsExtreme before (scores ++ more)
      (if scores = [] then d else if more = [] then c else pick c d) := by
  by_cases hscores : scores = []
  · rw [if_pos hscores, hscores]
    exact hd
  by_cases hmore : more = []
  · rw [if_neg hscores, if_pos hmore, hmore, List.append_nil]
    exact hc
  rw [if_neg hscores, if_neg hmore]
  obtain ⟨hmem, hall⟩ := hc.of_ne_nil hscores
  obtain ⟨hmem', hall'⟩ := hd.of_ne_nil hmore
  refine Or.inr ⟨?_, List.forall_mem_append.mpr ⟨fun e he => ?_, fun e he => ?_⟩⟩
  · rcases h.one c d with hone | hone
    · rw [hone]
      exact List.mem_append_left _ hmem
    · rw [hone]
      exact List.mem_append_right _ hmem'
  · exact h.trans _ _ _ (hall e he) (h.left c d)
  · exact h.trans _ _ _ (hall' e he) (h.right c d)

end IsExtreme

/-! ## Imported modules -/

/-- What is listed behind a list is what is new in it. -/
theorem eraseDups_append_eq {β : Type} [DecidableEq β] (xs ys : List β) :
    (xs ++ ys).eraseDups = xs.eraseDups ++ ys.eraseDups.filter (· ∉ xs.eraseDups) := by
  induction ys using List.reverseRecOn with
  | nil => rw [List.append_nil, List.eraseDups_nil, List.filter_nil, List.append_nil]
  | append_singleton ys y ih =>
      rw [← List.append_assoc, eraseDups_concat, eraseDups_concat, ih, List.filter_append,
        List.append_assoc]
      refine congrArg (xs.eraseDups ++ ·) (congrArg (ys.eraseDups.filter _ ++ ·) ?_)
      -- The last item is listed already, in either list, or it is new in both ways to list it.
      by_cases hys : y ∈ ys
      · rw [if_pos hys, if_pos (List.mem_append_right _ hys)]
        rfl
      by_cases hxs : y ∈ xs
      · rw [if_neg hys, if_pos (List.mem_append_left _ hxs), List.filter_cons_of_neg (by simpa)]
        rfl
      · rw [if_neg hys, if_neg (by simp [hxs, hys]), List.filter_cons_of_pos (by simpa)]
        rfl

theorem nodup_eraseDups {β : Type} [DecidableEq β] (xs : List β) : xs.eraseDups.Nodup := by
  induction xs using List.reverseRecOn with
  | nil => exact List.nodup_nil
  | append_singleton xs x ih =>
      rw [eraseDups_concat]
      by_cases h : x ∈ xs
      · rw [if_pos h, List.append_nil]
        exact ih
      · rw [if_neg h]
        refine ih.append (List.nodup_singleton x) (List.disjoint_singleton.mpr ?_)
        exact fun hmem => h (List.mem_eraseDups.mp hmem)

/-! ## Complexities -/

namespace ComplexityStats

/-- The mean of several scores, rounded to two places after the point; zero if there are none, and
    infinite if it is too large. -/
def meanOf (scores : List Int) : Float :=
  if scores = [] then 0.0
  else roundPlaces 2 ((Binary64.ofQuotient? scores.sum scores.length).getD (1.0 / 0.0))

theorem average?_eq (scores : List Int) :
    average? scores = Binary64.ofQuotient? scores.sum scores.length := by
  have hsum : Number.sum? (scores.map Figure.number) = some (.whole scores.sum) :=
    Number.sum?_whole scores
  rw [average?, hsum]
  rfl

theorem average_ofScores (scores : List Int) :
    (ofScores scores).average = .real (meanOf scores) := by
  cases scores with
  | nil => rfl
  | cons first rest =>
      rw [meanOf, if_neg (List.cons_ne_nil _ _), ← average?_eq]
      rfl

theorem highest_ofScores (scores : List Int) :
    IsExtreme (· ≤ ·) scores (ofScores scores).highest := by
  cases scores with
  | nil => exact Or.inl ⟨rfl, rfl⟩
  | cons first rest =>
      have hpick : (fun m n : Int =>
          if (Number.whole m).isBelow (.whole n) then n else m) = max := by
        funext m n
        simp only [Number.isBelow_whole, decide_eq_true_eq]
        omega
      have hfoldl := IsExtreme.foldl picks_max first rest
      rw [← hpick] at hfoldl
      exact hfoldl

theorem lowest_ofScores (scores : List Int) :
    IsExtreme (· ≥ ·) scores (ofScores scores).lowest := by
  cases scores with
  | nil => exact Or.inl ⟨rfl, rfl⟩
  | cons first rest =>
      have hpick : (fun m n : Int =>
          if (Number.whole n).isBelow (.whole m) then n else m) = min := by
        funext m n
        simp only [Number.isBelow_whole, decide_eq_true_eq]
        omega
      have hfoldl := IsExtreme.foldl picks_min first rest
      rw [← hpick] at hfoldl
      exact hfoldl

/-- The spread of complexities does not depend on their order. -/
theorem ofScores_of_perm {scores others : List Int} (h : scores.Perm others) :
    ofScores others = ofScores scores := by
  -- The mean depends on the sum and the number of scores only.
  have haverage : (ofScores others).average = (ofScores scores).average := by
    have hnil : others = [] ↔ scores = [] := by
      rw [← List.length_eq_zero_iff, ← List.length_eq_zero_iff, h.length_eq]
    rw [average_ofScores, average_ofScores, meanOf, meanOf, h.sum_eq, h.length_eq]
    simp only [hnil]
  have hhighest : (ofScores others).highest = (ofScores scores).highest :=
    (highest_ofScores others).eq_of_perm picks_max (highest_ofScores scores) h.symm
  have hlowest : (ofScores others).lowest = (ofScores scores).lowest :=
    (lowest_ofScores others).eq_of_perm picks_min (lowest_ofScores scores) h.symm
  calc ofScores others
      = ⟨(ofScores others).average, (ofScores others).highest, (ofScores others).lowest⟩ := rfl
    _ = ofScores scores := by rw [haverage, hhighest, hlowest]

end ComplexityStats

/-! ## Figures of one batch -/

namespace ProjectStats

variable {outlines others first second : List Outline} {skipped : List String}

/-- The modules that a batch imports, in order. -/
def targets (outlines : List Outline) : List String :=
  outlines.flatMap fun o => o.imports.map (·.target)

/-- Figures say what the files of a batch hold. -/
structure Describes (s : ProjectStats) (outlines : List Outline) : Prop where
  fileCount : s.fileCount = outlines.length
  lineCount : s.lineCount = (outlines.map (·.lineCount)).sum
  commentCount : s.commentCount = (outlines.map (·.commentCount)).sum
  functionCount : s.functionCount = (outlines.flatMap (·.functions)).length
  typeCount : s.typeCount = (outlines.flatMap (·.types)).length
  /-- The tags of the languages are in increasing order, with the number of files in each. -/
  increasing : s.languages.Pairwise (·.1 < ·.1)
  languages : ∀ tag, s.languages.lookup tag = if tag ∈ outlines.map (·.language.tag) then
    some ((outlines.map (·.language.tag)).count tag : Int) else none
  languages_sum : (s.languages.map (·.2)).sum = s.fileCount
  /-- Each imported module is listed where it occurs first. -/
  dependencies : s.dependencies = (targets outlines).eraseDups
  dependencies_nodup : s.dependencies.Nodup
  average : s.complexity.average = .real (ComplexityStats.meanOf (ComplexityStats.scores outlines))
  highest : IsExtreme (· ≤ ·) (ComplexityStats.scores outlines) s.complexity.highest
  lowest : IsExtreme (· ≥ ·) (ComplexityStats.scores outlines) s.complexity.lowest

/-- **FIGURES**: the figures of a batch say what its files hold. -/
theorem describes_ofOutlines (outlines : List Outline) (skipped : List String) :
    (ofOutlines outlines skipped).Describes outlines := by
  have htable := tabulates_histogram outlines
  have hlanguages : (ofOutlines outlines skipped).languages
      = (histogram outlines).map fun p => (p.1, (p.2 : Int)) := rfl
  exact {
    fileCount := rfl
    lineCount := Figure.total_eq_sum _
    commentCount := Figure.total_eq_sum _
    functionCount := rfl
    typeCount := rfl
    increasing := List.pairwise_map.mpr htable.increasing
    languages := fun tag => by
      rw [hlanguages, lookup_map, htable.lookup]
      split <;> rfl
    languages_sum := by
      rw [hlanguages, List.map_map]
      calc ((histogram outlines).map fun p => (p.2 : Int)).sum
          = (((histogram outlines).map (·.2)).sum : Nat) := by
            rw [Nat.cast_list_sum, List.map_map]
            rfl
        _ = (outlines.length : Int) := by rw [htable.sum, List.length_map]
    dependencies := rfl
    dependencies_nodup := nodup_eraseDups _
    average := ComplexityStats.average_ofScores _
    highest := ComplexityStats.highest_ofScores _
    lowest := ComplexityStats.lowest_ofScores _ }

/-! ## Whether there are figures -/

/-- The mean of all complexities is not too large, if there are any. -/
def HasMean (outlines : List Outline) : Prop :=
  ComplexityStats.scores outlines = []
    ∨ (Binary64.ofQuotient? (ComplexityStats.scores outlines).sum
      (ComplexityStats.scores outlines).length).isSome = true

instance : DecidablePred HasMean := fun _ => inferInstanceAs (Decidable (_ ∨ _))

theorem ofOutlines?_eq (outlines : List Outline) (skipped : List String) :
    ofOutlines? outlines skipped
      = if HasMean outlines then some (ofOutlines outlines skipped) else none := by
  have hsum : ∀ count : Outline → Int,
      (Number.sum? (outlines.map fun o => Figure.number (count o))).isSome = true := by
    intro count
    have hwhole := Number.sum?_whole (outlines.map count)
    rw [List.map_map] at hwhole
    exact congrArg Option.isSome hwhole
  have hmean : ((ComplexityStats.scores outlines).isEmpty
      || (ComplexityStats.average? (ComplexityStats.scores outlines)).isSome) = true
        ↔ HasMean outlines := by
    rw [ComplexityStats.average?_eq, Bool.or_eq_true, List.isEmpty_iff, HasMean]
  unfold ofOutlines?
  simp only [hsum, Bool.true_and, hmean]

theorem hasMean_of_lt (h : ∀ c ∈ ComplexityStats.scores outlines, c.natAbs < 2 ^ 1022) :
    HasMean outlines := by
  by_cases hnil : ComplexityStats.scores outlines = []
  · exact Or.inl hnil
  · exact Or.inr (Binary64.isSome_ofQuotient? (natAbs_sum_lt hnil h))

/-- There are figures for every batch, or a complexity in it is far beyond all that files have. -/
theorem ofOutlines?_cases (outlines : List Outline) (skipped : List String) :
    ofOutlines? outlines skipped = some (ofOutlines outlines skipped)
    ∨ ofOutlines? outlines skipped = none
      ∧ ∃ c ∈ ComplexityStats.scores outlines, 2 ^ 1022 ≤ c.natAbs := by
  rw [ofOutlines?_eq]
  by_cases hmean : HasMean outlines
  · exact Or.inl (if_pos hmean)
  · refine Or.inr ⟨if_neg hmean, ?_⟩
    by_contra hsmall
    refine hmean (hasMean_of_lt fun c hc => Nat.lt_of_not_le fun hle => hsmall ⟨c, hc, hle⟩)

/-! ## Files in another order -/

/-- Figures that differ in nothing but the order of the modules, each of which is listed once. -/
def Reordered (s s' : ProjectStats) : Prop :=
  s' = { s with dependencies := s'.dependencies }
    ∧ s'.dependencies.Perm s.dependencies ∧ s'.dependencies.Nodup

theorem scores_perm (h : outlines.Perm others) :
    (ComplexityStats.scores outlines).Perm (ComplexityStats.scores others) :=
  h.flatMap_right _

theorem reordered_of_perm (h : outlines.Perm others) :
    Reordered (ofOutlines outlines skipped) (ofOutlines others skipped) := by
  have htargets : (targets others).Perm (targets outlines) := h.symm.flatMap_right _
  have hlanguages : histogram others = histogram outlines :=
    (tabulates_histogram others).eq_of_perm (tabulates_histogram outlines) (h.symm.map _)
  refine ⟨?_, ?_, nodup_eraseDups _⟩
  · unfold ofOutlines
    simp only [hlanguages, ComplexityStats.ofScores_of_perm (scores_perm h), h.length_eq,
      Figure.total_eq_sum, List.length_flatMap, (h.map _).sum_eq]
  · refine (List.perm_ext_iff_of_nodup (nodup_eraseDups _) (nodup_eraseDups _)).mpr fun m => ?_
    rw [List.mem_eraseDups, List.mem_eraseDups]
    exact htargets.mem_iff

theorem hasMean_of_perm (h : outlines.Perm others) : HasMean others ↔ HasMean outlines := by
  have hscores := scores_perm h
  unfold HasMean
  rw [hscores.sum_eq, hscores.length_eq, ← List.length_eq_zero_iff, ← List.length_eq_zero_iff,
    hscores.length_eq]

/-- The order of the files matters for nothing but the order of the modules. -/
theorem rel_ofOutlines?_of_perm (h : outlines.Perm others) :
    Option.Rel Reordered (ofOutlines? outlines skipped) (ofOutlines? others skipped) := by
  rw [ofOutlines?_eq, ofOutlines?_eq]
  by_cases hmean : HasMean outlines
  · rw [if_pos hmean, if_pos ((hasMean_of_perm h).mpr hmean)]
    exact .some (reordered_of_perm h)
  · rw [if_neg hmean, if_neg fun hother => hmean ((hasMean_of_perm h).mp hother)]
    exact .none

/-! ## Two batches -/

/-- The number of files in a language. -/
def tagCount (s : ProjectStats) (tag : String) : Int :=
  (s.languages.lookup tag).getD 0

/-- The figures of two batches put one after the other come from the figures of the two. -/
structure Joins (first second both : ProjectStats) : Prop where
  fileCount : both.fileCount = first.fileCount + second.fileCount
  lineCount : both.lineCount = first.lineCount + second.lineCount
  commentCount : both.commentCount = first.commentCount + second.commentCount
  functionCount : both.functionCount = first.functionCount + second.functionCount
  typeCount : both.typeCount = first.typeCount + second.typeCount
  tagCount : ∀ tag, both.tagCount tag = first.tagCount tag + second.tagCount tag
  /-- A batch without functions has no say in the extremes. -/
  highest : both.complexity.highest =
    if first.functionCount = 0 then second.complexity.highest
    else if second.functionCount = 0 then first.complexity.highest
    else max first.complexity.highest second.complexity.highest
  lowest : both.complexity.lowest =
    if first.functionCount = 0 then second.complexity.lowest
    else if second.functionCount = 0 then first.complexity.lowest
    else min first.complexity.lowest second.complexity.lowest
  /-- The modules of the second batch follow as far as they are new. -/
  dependencies : both.dependencies
    = first.dependencies ++ second.dependencies.filter (· ∉ first.dependencies)

namespace Describes

variable {s s' both : ProjectStats}

theorem tagCount_eq (h : s.Describes outlines) (tag : String) :
    s.tagCount tag = (outlines.map (·.language.tag)).count tag := by
  rw [tagCount, h.languages]
  by_cases hmem : tag ∈ outlines.map (·.language.tag)
  · rw [if_pos hmem]
    rfl
  · rw [if_neg hmem, List.count_eq_zero_of_not_mem hmem]
    rfl

theorem functionCount_eq_zero_iff (h : s.Describes outlines) :
    s.functionCount = 0 ↔ ComplexityStats.scores outlines = [] := by
  have hscores : ComplexityStats.scores outlines
      = (outlines.flatMap (·.functions)).map (·.complexity) := List.map_flatMap.symm
  rw [h.functionCount, hscores, List.map_eq_nil_iff, ← List.length_eq_zero_iff]
  exact Int.natCast_eq_zero

theorem joins (hfirst : s.Describes first) (hsecond : s'.Describes second)
    (hboth : both.Describes (first ++ second)) : Joins s s' both := by
  have hscores : ComplexityStats.scores (first ++ second)
      = ComplexityStats.scores first ++ ComplexityStats.scores second := List.flatMap_append
  have hhighest := hboth.highest
  have hlowest := hboth.lowest
  rw [hscores] at hhighest hlowest
  exact {
    fileCount := by
      rw [hboth.fileCount, hfirst.fileCount, hsecond.fileCount, List.length_append, Nat.cast_add]
    lineCount := by
      rw [hboth.lineCount, hfirst.lineCount, hsecond.lineCount, List.map_append, List.sum_append]
    commentCount := by
      rw [hboth.commentCount, hfirst.commentCount, hsecond.commentCount, List.map_append,
        List.sum_append]
    functionCount := by
      rw [hboth.functionCount, hfirst.functionCount, hsecond.functionCount, List.flatMap_append,
        List.length_append, Nat.cast_add]
    typeCount := by
      rw [hboth.typeCount, hfirst.typeCount, hsecond.typeCount, List.flatMap_append,
        List.length_append, Nat.cast_add]
    tagCount := fun tag => by
      rw [hboth.tagCount_eq, hfirst.tagCount_eq, hsecond.tagCount_eq, List.map_append,
        List.count_append, Nat.cast_add]
    highest := by
      simp only [hfirst.functionCount_eq_zero_iff, hsecond.functionCount_eq_zero_iff]
      exact hhighest.eq_of_perm picks_max (hfirst.highest.append picks_max hsecond.highest)
        (.refl _)
    lowest := by
      simp only [hfirst.functionCount_eq_zero_iff, hsecond.functionCount_eq_zero_iff]
      exact hlowest.eq_of_perm picks_min (hfirst.lowest.append picks_min hsecond.lowest)
        (.refl _)
    dependencies := by
      rw [hboth.dependencies, hfirst.dependencies, hsecond.dependencies, targets,
        List.flatMap_append]
      exact eraseDups_append_eq _ _ }

end Describes

/-- **BATCHES**: every batch has figures that say what its files hold, unless a complexity in it is
    far beyond what files have.  In another order the same files have the same figures, but for the
    order of the modules, and the figures of two batches put one after the other come from those of
    the two. -/
theorem figures_of_batches (skipped : List String) :
    (∀ outlines : List Outline,
      (ofOutlines? outlines skipped = some (ofOutlines outlines skipped)
        ∨ ofOutlines? outlines skipped = none
          ∧ ∃ c ∈ ComplexityStats.scores outlines, 2 ^ 1022 ≤ c.natAbs)
      ∧ (ofOutlines outlines skipped).Describes outlines)
    ∧ (∀ outlines others : List Outline, outlines.Perm others →
      Option.Rel Reordered (ofOutlines? outlines skipped) (ofOutlines? others skipped))
    ∧ ∀ first second : List Outline, Joins (ofOutlines first skipped) (ofOutlines second skipped)
      (ofOutlines (first ++ second) skipped) :=
  ⟨fun outlines => ⟨ofOutlines?_cases outlines skipped, describes_ofOutlines outlines skipped⟩,
    fun _ _ => rel_ofOutlines?_of_perm,
    fun first second => (describes_ofOutlines first skipped).joins
      (describes_ofOutlines second skipped) (describes_ofOutlines (first ++ second) skipped)⟩

/-- A file with a function, and one without that imports one module of the first. -/
def mixedFiles : List Outline := [
  { path := "a.py", language := .python, lineCount := 7, commentCount := 1,
    functions := [⟨"f", 1, 2, 3⟩], imports := [⟨"x", [], 1⟩, ⟨"y", [], 2⟩] },
  { path := "b.go", language := .go, lineCount := 9, commentCount := 0,
    imports := [⟨"y", [], 1⟩, ⟨"z", [], 2⟩] }]

/-- So the two files have the same figures in either order, but for the order of the modules. -/
theorem figures_of_mixedFiles :
    mixedFiles.Perm mixedFiles.reverse
    ∧ Option.Rel Reordered (ofOutlines? mixedFiles) (ofOutlines? mixedFiles.reverse)
    ∧ (ofOutlines? mixedFiles).map (·.dependencies) = some ["x", "y", "z"]
    ∧ (ofOutlines? mixedFiles.reverse).map (·.dependencies) = some ["y", "z", "x"] := by
  have hperm : mixedFiles.Perm mixedFiles.reverse := (List.reverse_perm _).symm
  exact ⟨hperm, (figures_of_batches []).2.1 _ _ hperm, by decide +kernel, by decide +kernel⟩

end ProjectStats

end SourceAtlas
