import Mathlib.Data.List.ProdSigma
import SourceAtlas.Proofs.Resolve.Accounting
import SourceAtlas.Proofs.Text.Words

/-! # Links without imports

    After the imports, every file is compared with every other one, and a pair
    gets an edge if the one file refers to the other (`Outline.RefersTo`) and no
    edge joins them yet.  The pass reads the graph that it extends, but an edge
    only ever stops pairs with its own ends.  So `Linked` is its invariant: the
    edges that were there stay in front, and behind them stands, for all other
    ends, the edge that the first pair with these ends asks for.

    `impliedLinks_resolve` says what this comes to for the files of a project. -/

namespace SourceAtlas

/-! ## References -/

section

variable {ν : Type}

namespace Outline

/-- The name of the file without its extension. -/
def stem (o : Outline ν) : List Char :=
  (Path.splitExtensionChars (Path.baseChars o.nodeId.toList)).1

/-- Both files declare a namespace, and the keys of these are equal. -/
def SharesScope (o p : Outline ν) : Prop :=
  ∃ m n, o.scope = some m ∧ p.scope = some n ∧ m ≠ "" ∧ n ≠ "" ∧ namespaceKey m = namespaceKey n

/-- The stem of the second file, which has to be a name, is a whole word of the first file. -/
def Mentions (o p : Outline ν) : Prop :=
  Text.isIdentifier p.stem = true ∧ Text.StandsIn p.stem o.content.toList

/-- How a file refers to another one without an import. -/
inductive RefersTo (o p : Outline ν) : Link → Prop where
  /-- In a namespace, the stem is mentioned. -/
  | sameScope : p.language = o.language → o.SharesScope p → o.Mentions p → RefersTo o p .sameScope
  /-- Where there is no common namespace, a module of the directory is mentioned. -/
  | sameDirectory : p.language = o.language → ¬ o.SharesScope p → o.language = .python →
      Path.parent p.nodeId = Path.parent o.nodeId → p.stem ≠ "__init__".toList → o.Mentions p →
      RefersTo o p .sameDirectory

end Outline

variable {o p : Outline ν}

theorem stem_ofOutline (p : Outline ν) : (Candidate.ofOutline p).stem = p.stem := by
  dsimp only [Candidate.ofOutline, Outline.stem]

/-- The key of a namespace that is declared. -/
theorem scope_ofOutline_eq_some_iff {key : String} :
    (Candidate.ofOutline o).scope = some key
      ↔ ∃ m, o.scope = some m ∧ m ≠ "" ∧ namespaceKey m = key := by
  rw [Candidate.ofOutline, Option.map_eq_some_iff]
  refine exists_congr fun m => ?_
  rw [Option.filter_eq_some_iff, and_assoc]
  simp

theorem sharesScope_iff :
    (Candidate.ofOutline o).sharesScope (.ofOutline p) = true ↔ o.SharesScope p := by
  rw [Candidate.sharesScope, Bool.and_eq_true, decide_eq_true_iff, Option.isSome_iff_exists]
  constructor
  · rintro ⟨⟨key, hkey⟩, hsame⟩
    obtain ⟨m, hm, hm', hmkey⟩ := scope_ofOutline_eq_some_iff.mp hkey
    obtain ⟨n, hn, hn', hnkey⟩ := scope_ofOutline_eq_some_iff.mp (hsame.trans hkey)
    exact ⟨m, n, hm, hn, hm', hn', hmkey.trans hnkey.symm⟩
  · rintro ⟨m, n, hm, hn, hm', hn', hkeys⟩
    have hkey := scope_ofOutline_eq_some_iff.mpr ⟨m, hm, hm', hkeys⟩
    exact ⟨⟨_, hkey⟩, (scope_ofOutline_eq_some_iff.mpr ⟨n, hn, hn', rfl⟩).trans hkey.symm⟩

theorem mentions_stem_iff :
    (Candidate.ofOutline o).mentions p.stem = true ↔ o.Mentions p := by
  rw [Candidate.mentions, Bool.and_eq_true, Text.mentions_iff, Outline.Mentions]
  exact Iff.rfl

/-- The comparison of two files finds out whether the one refers to the other. -/
theorem impliedLink?_eq_some_iff {link : Link} :
    impliedLink? (.ofOutline o) (.ofOutline p) = some link ↔ o.RefersTo p link := by
  have hlanguage : ∀ q : Outline ν, (Candidate.ofOutline q).language = q.language := fun _ => rfl
  have hdirectory : ∀ q : Outline ν, (Candidate.ofOutline q).directory = Path.parent q.nodeId :=
    fun _ => rfl
  rw [impliedLink?, stem_ofOutline, hlanguage, hlanguage, hdirectory, hdirectory]
  constructor
  · intro h
    split at h
    · rename_i hsame
      split at h
      · rename_i hscope
        split at h
        · rename_i hmentions
          obtain rfl := Option.some.inj h
          exact .sameScope hsame (sharesScope_iff.mp hscope) (mentions_stem_iff.mp hmentions)
        · cases h
      · rename_i hscope
        split at h
        · rename_i hall
          simp only [Bool.and_eq_true, decide_eq_true_iff] at hall
          obtain ⟨⟨⟨hpython, hdirectory⟩, hstem⟩, hmentions⟩ := hall
          obtain rfl := Option.some.inj h
          exact .sameDirectory hsame (fun hs => hscope (sharesScope_iff.mpr hs)) hpython hdirectory
            hstem (mentions_stem_iff.mp hmentions)
        · cases h
    · cases h
  · rintro (⟨hsame, hscope, hmentions⟩ | ⟨hsame, hscope, hpython, hdirectory, hstem, hmentions⟩)
    · rw [if_pos hsame, if_pos (sharesScope_iff.mpr hscope),
        if_pos (mentions_stem_iff.mpr hmentions)]
    · have hall : (decide (o.language = .python)
          && decide (Path.parent p.nodeId = Path.parent o.nodeId)
          && decide (p.stem ≠ Candidate.packageStem)
          && (Candidate.ofOutline o).mentions p.stem) = true := by
        simp only [Bool.and_eq_true, decide_eq_true_iff]
        exact ⟨⟨⟨hpython, hdirectory⟩, hstem⟩, mentions_stem_iff.mpr hmentions⟩
      rw [if_pos hsame, if_neg (fun hs => hscope (sharesScope_iff.mp hs)), if_pos hall]

end

/-! ## The edges that pairs ask for -/

/-- The ends of the edge between two files. -/
def endsOfPair (pair : Candidate × Candidate) : String × String := (pair.1.id, pair.2.id)

/-- The edge that a pair of files asks for. -/
def impliedEdge? (pair : Candidate × Candidate) : Option Edge :=
  (impliedLink? pair.1 pair.2).map fun link =>
    ⟨pair.1.id, pair.2.id, link.word, link.impliedWeight⟩

/-- The edge that the first pair with given ends asks for, of those that ask for one. -/
def firstImplied? (pairs : List (Candidate × Candidate)) (ends : String × String) : Option Edge :=
  pairs.findSome? fun pair => if endsOfPair pair = ends then impliedEdge? pair else none

theorem ends_of_impliedEdge? {pair : Candidate × Candidate} {e : Edge}
    (h : impliedEdge? pair = some e) : e.ends = endsOfPair pair := by
  obtain ⟨link, -, rfl⟩ := Option.map_eq_some_iff.mp h
  rfl

theorem ends_of_firstImplied? {pairs : List (Candidate × Candidate)} {ends : String × String}
    {e : Edge} (h : firstImplied? pairs ends = some e) : e.ends = ends := by
  obtain ⟨pair, -, hpair⟩ := List.exists_of_findSome?_eq_some h
  by_cases hends : endsOfPair pair = ends
  · rw [if_pos hends] at hpair
    exact (ends_of_impliedEdge? hpair).trans hends
  · rw [if_neg hends] at hpair
    exact nomatch hpair

theorem firstImplied?_concat (pairs : List (Candidate × Candidate))
    (last : Candidate × Candidate) (ends : String × String) :
    firstImplied? (pairs ++ [last]) ends
      = (firstImplied? pairs ends).or
        (if endsOfPair last = ends then impliedEdge? last else none) := by
  rw [firstImplied?, List.findSome?_append, List.findSome?_singleton]
  rfl

/-- A pair does not matter for other ends, nor if an earlier one has asked for its ends. -/
theorem firstImplied?_concat_of_settled {pairs : List (Candidate × Candidate)}
    {last : Candidate × Candidate} {ends : String × String}
    (h : endsOfPair last = ends → impliedEdge? last = none ∨ (firstImplied? pairs ends).isSome) :
    firstImplied? (pairs ++ [last]) ends = firstImplied? pairs ends := by
  rw [firstImplied?_concat]
  by_cases hends : endsOfPair last = ends
  · rw [if_pos hends]
    rcases h hends with hnone | hsome
    · rw [hnone, Option.or_none]
    · obtain ⟨e, he⟩ := Option.isSome_iff_exists.mp hsome
      rw [he, Option.some_or]
  · rw [if_neg hends, Option.or_none]

/-! ## The pass over the pairs of files -/

/-- The pass as one pass over all pairs, in the order of the first and then of the second file. -/
theorem linkAllImplied_eq_foldl (batch : List Candidate) (g : Graph) :
    linkAllImplied batch g
      = (batch.product batch).foldl (fun g pair => linkImplied pair.1 g pair.2) g := by
  rw [List.product, List.foldl_flatMap]
  simp only [List.foldl_map]
  rfl

/-- An edge that is accepted and not there yet goes to the end. -/
theorem Graph.edges_addEdge_of_new (g : Graph) {source target kind : String} {weight : Int}
    (haccepts : g.accepts source target = true) (hnew : ¬ g.hasEdge source target = true) :
    (g.addEdge source target kind weight).edges
      = g.edges.push ⟨Path.normalize source, Path.normalize target, kind, weight⟩ := by
  rcases g.addEdge_cases source target kind weight with ⟨hrefused, -⟩ | ⟨-, -, heq⟩ | ⟨-, i, hi, -⟩
  · exact nomatch haccepts.symm.trans hrefused
  · rw [heq]
  · refine absurd ?_ hnew
    rw [hasEdge, ← Std.HashMap.mem_iff_contains, Std.HashMap.mem_iff_isSome_getElem?, hi]
    rfl

/-- The edges behind those of a graph `start` are what the pairs `done` ask for first, for all ends
    that differ and that no edge of `start` has. -/
structure Linked (start : Graph) (done : List (Candidate × Candidate)) (g : Graph) : Prop where
  wellFormed : g.WellFormed
  nodes : g.nodes = start.nodes ∧ g.nodeIndex = start.nodeIndex
  edges : ∃ added, g.edges.toList = start.edges.toList ++ added
    ∧ ∀ e, e ∈ added ↔ e.source ≠ e.target ∧ (∀ known ∈ start.edges, known.ends ≠ e.ends)
      ∧ firstImplied? done e.ends = some e

namespace Linked

variable {start g : Graph} {done : List (Candidate × Candidate)}

theorem nil (h : start.WellFormed) : Linked start [] start := by
  refine ⟨h, ⟨rfl, rfl⟩, [], (List.append_nil _).symm, ?_⟩
  intro e
  exact ⟨(nomatch ·), fun he => nomatch he.2.2⟩

/-- There is an edge between two different identifiers if there was one at the start or a pair asked
    for one. -/
theorem exists_edge_iff (h : Linked start done g) (ends : String × String)
    (hends : ends.1 ≠ ends.2) :
    (∃ e ∈ g.edges, e.ends = ends)
      ↔ (∃ e ∈ start.edges, e.ends = ends) ∨ (firstImplied? done ends).isSome := by
  obtain ⟨added, hadded, hiff⟩ := h.edges
  have hmem : ∀ e, e ∈ g.edges ↔ e ∈ start.edges ∨ e ∈ added := by
    intro e
    rw [← Array.mem_toList_iff, hadded, List.mem_append, Array.mem_toList_iff]
  constructor
  · rintro ⟨e, he, rfl⟩
    rcases (hmem e).mp he with hold | hnew
    · exact Or.inl ⟨e, hold, rfl⟩
    · exact Or.inr (Option.isSome_of_eq_some ((hiff e).mp hnew).2.2)
  · intro hor
    by_cases hold : ∃ e ∈ start.edges, e.ends = ends
    · obtain ⟨e, he, hee⟩ := hold
      exact ⟨e, (hmem e).mpr (Or.inl he), hee⟩
    · obtain ⟨e, he⟩ := Option.isSome_iff_exists.mp (hor.resolve_left hold)
      have hee := ends_of_firstImplied? he
      refine ⟨e, (hmem e).mpr (Or.inr ((hiff e).mpr ⟨?_, ?_, ?_⟩)), hee⟩
      · rw [← hee] at hends
        exact hends
      · intro known hknown hsame
        exact hold ⟨known, hknown, hsame.trans hee⟩
      · rw [hee]
        exact he

/-- An edge with ends that no edge had at the start is what the first pair with these asked for. -/
theorem firstImplied?_ends (h : Linked start done g) {e : Edge} (he : e ∈ g.edges)
    (hfree : ∀ known ∈ start.edges, known.ends ≠ e.ends) : firstImplied? done e.ends = some e := by
  obtain ⟨added, hadded, hiff⟩ := h.edges
  rw [← Array.mem_toList_iff, hadded, List.mem_append, Array.mem_toList_iff] at he
  exact ((hiff e).mp (he.resolve_left fun hold => hfree e hold rfl)).2.2

/-- A pair that the pass leaves alone. -/
theorem skip (h : Linked start done g) {pair : Candidate × Candidate}
    (hskip : pair.1.id ≠ pair.2.id → (∀ known ∈ start.edges, known.ends ≠ endsOfPair pair) →
      impliedEdge? pair = none ∨ (firstImplied? done (endsOfPair pair)).isSome) :
    Linked start (done ++ [pair]) g := by
  obtain ⟨added, hadded, hiff⟩ := h.edges
  refine ⟨h.wellFormed, h.nodes, added, hadded, fun e => (hiff e).trans ?_⟩
  refine and_congr_right fun hne => and_congr_right fun hfree => ?_
  rw [firstImplied?_concat_of_settled]
  rintro hends
  rw [← hends] at hfree ⊢
  refine hskip ?_ hfree
  have hpair : (pair.1.id, pair.2.id) = (e.source, e.target) := hends
  rw [(Prod.mk.inj hpair).1, (Prod.mk.inj hpair).2]
  exact hne

/-- A pair that gets an edge. -/
theorem push (h : Linked start done g) {pair : Candidate × Candidate} {edge : Edge}
    (hedge : impliedEdge? pair = some edge) (hne : pair.1.id ≠ pair.2.id)
    (hfree : ∀ e ∈ g.edges, e.ends ≠ endsOfPair pair) {g' : Graph} (hg' : g'.WellFormed)
    (hnodes : g'.nodes = g.nodes ∧ g'.nodeIndex = g.nodeIndex)
    (hedges : g'.edges = g.edges.push edge) : Linked start (done ++ [pair]) g' := by
  have hfirst : firstImplied? done (endsOfPair pair) = none := by
    refine Option.not_isSome_iff_eq_none.mp fun hsome => ?_
    obtain ⟨e, he, hee⟩ := (h.exists_edge_iff (endsOfPair pair) hne).mpr (Or.inr hsome)
    exact hfree e he hee
  obtain ⟨added, hadded, hiff⟩ := h.edges
  have hmem : ∀ e, e ∈ start.edges ∨ e ∈ added → e ∈ g.edges := by
    intro e he
    rw [← Array.mem_toList_iff, hadded, List.mem_append, Array.mem_toList_iff]
    exact he
  refine ⟨hg', ⟨hnodes.1.trans h.nodes.1, hnodes.2.trans h.nodes.2⟩, added ++ [edge], ?_, ?_⟩
  · rw [hedges, Array.toList_push, hadded, List.append_assoc]
  · intro e
    rw [List.mem_append, List.mem_singleton]
    by_cases hends : endsOfPair pair = e.ends
    · -- No edge had these ends, so the only one that has them now is the new one.
      have hold : e ∉ added := fun he => hfree e (hmem e (Or.inr he)) hends.symm
      have hstart : ∀ known ∈ start.edges, known.ends ≠ e.ends :=
        fun known hknown hsame => hfree known (hmem known (Or.inl hknown)) (hsame.trans hends.symm)
      have hdiffer : e.source ≠ e.target := by
        have hpair : (pair.1.id, pair.2.id) = (e.source, e.target) := hends
        rw [← (Prod.mk.inj hpair).1, ← (Prod.mk.inj hpair).2]
        exact hne
      rw [firstImplied?_concat, ← hends, hfirst, Option.none_or, if_pos rfl, hedge,
        or_iff_right hold, and_iff_right hdiffer, hends, and_iff_right hstart, Option.some_inj]
      exact eq_comm
    · have hother : e ≠ edge := by
        rintro rfl
        exact hends (ends_of_impliedEdge? hedge).symm
      rw [firstImplied?_concat_of_settled (fun hsame => absurd hsame hends), or_iff_left hother]
      exact hiff e

/-- One more pair of files that are nodes. -/
theorem linkImplied (h : Linked start done g) {pair : Candidate × Candidate}
    (hnormal : Path.normalize pair.1.id = pair.1.id ∧ Path.normalize pair.2.id = pair.2.id)
    (hnodes : pair.1.id ∈ start.nodeIndex ∧ pair.2.id ∈ start.nodeIndex) :
    Linked start (done ++ [pair]) (linkImplied pair.1 g pair.2) := by
  have hthere : g.hasEdge pair.1.id pair.2.id = true
      ↔ ∃ e ∈ g.edges, e.ends = endsOfPair pair := by
    rw [h.wellFormed.hasEdge_iff, hnormal.1, hnormal.2]
    rfl
  rw [SourceAtlas.linkImplied]
  split
  · rename_i hstop
    refine h.skip fun hne hstart => Or.inr ?_
    rw [Bool.or_eq_true, decide_eq_true_iff] at hstop
    rcases (h.exists_edge_iff (endsOfPair pair) hne).mp
      (hthere.mp (hstop.resolve_left (Ne.symm hne))) with ⟨e, he, hee⟩ | hasked
    · exact absurd hee (hstart e he)
    · exact hasked
  · rename_i hgo
    rw [Bool.or_eq_true, decide_eq_true_iff, not_or] at hgo
    cases hlink : impliedLink? pair.1 pair.2 with
    | none => exact h.skip fun _ _ => Or.inl (by rw [impliedEdge?, hlink, Option.map_none])
    | some link =>
        have hedge : impliedEdge? pair
            = some ⟨pair.1.id, pair.2.id, link.word, link.impliedWeight⟩ := by
          rw [impliedEdge?, hlink, Option.map_some]
        have haccepts : g.accepts pair.1.id pair.2.id = true := by
          rw [Graph.accepts, hnormal.1, hnormal.2, Graph.joins_iff, h.nodes.2]
          exact ⟨Ne.symm hgo.1, hnodes⟩
        have hfree : ∀ e ∈ g.edges, e.ends ≠ endsOfPair pair :=
          fun e he hee => hgo.2 (hthere.mpr ⟨e, he, hee⟩)
        refine h.push hedge (Ne.symm hgo.1) hfree (h.wellFormed.addEdge ..) (g.nodes_addEdge ..) ?_
        show (g.addEdge pair.1.id pair.2.id link.word link.impliedWeight).edges = _
        rw [g.edges_addEdge_of_new haccepts hgo.2, hnormal.1, hnormal.2]

/-- Any further pairs of files that are nodes. -/
theorem foldl {batch : List Candidate} (hnamed : Named batch)
    (hnodes : ∀ c ∈ batch, c.id ∈ start.nodeIndex) (rest : List (Candidate × Candidate)) :
    ∀ {done : List (Candidate × Candidate)} {g : Graph}, Linked start done g →
      (∀ pair ∈ rest, pair.1 ∈ batch ∧ pair.2 ∈ batch) →
      Linked start (done ++ rest)
        (rest.foldl (fun g pair => SourceAtlas.linkImplied pair.1 g pair.2) g) := by
  induction rest with
  | nil =>
      intro done g h _
      rw [List.append_nil]
      exact h
  | cons pair rest ih =>
      intro done g h hin
      obtain ⟨hfirst, hsecond⟩ := hin pair (List.mem_cons_self ..)
      rw [List.foldl_cons, List.append_cons]
      exact ih
        (h.linkImplied ⟨hnamed.normalize_id hfirst, hnamed.normalize_id hsecond⟩
          ⟨hnodes _ hfirst, hnodes _ hsecond⟩)
        fun pair' hpair' => hin pair' (List.mem_cons_of_mem _ hpair')

end Linked

/-- After all pairs of the batch. -/
theorem linked_linkAllImplied {batch : List Candidate} {start : Graph} (hnamed : Named batch)
    (hstart : start.WellFormed) (hnodes : ∀ c ∈ batch, c.id ∈ start.nodeIndex) :
    Linked start (batch.product batch) (linkAllImplied batch start) := by
  rw [linkAllImplied_eq_foldl]
  exact (Linked.nil hstart).foldl hnamed hnodes (batch.product batch)
    fun _ hpair => List.mem_product.mp hpair

/-! ## The links of a project -/

section

variable {ν : Type}

/-- In the order of the first and then of the second file, the first pair of files with two
    identifiers of which the one refers to the other, and how it does. -/
def FirstReference (outlines : List (Outline ν)) (source target : String) (link : Link) : Prop :=
  ∃ before o p after, outlines.product outlines = before ++ (o, p) :: after
    ∧ o.nodeId = source ∧ p.nodeId = target ∧ o.RefersTo p link
    ∧ ∀ q ∈ before, q.1.nodeId = source → q.2.nodeId = target → ∀ l, ¬ q.1.RefersTo q.2 l

/-- What files that refer to each other add to the graph of their imports. -/
structure ImpliedLinks (outlines : List (Outline ν)) (imported final : Graph) : Prop where
  nodes : final.nodes = imported.nodes
  /-- The edges for imports stay as they are, in front of the others. -/
  kept : imported.edges.toList <+: final.edges.toList
  /-- No two edges have the same ends. -/
  single : (final.edges.toList.map Edge.ends).Nodup
  /-- Where no import links them, two identifiers are linked exactly if a file with the one refers
      to a file with the other. -/
  linked_iff : ∀ source target, source ≠ target →
    (∀ e ∈ imported.edges, e.ends ≠ (source, target)) →
    ((∃ e ∈ final.edges, e.ends = (source, target))
      ↔ ∃ o ∈ outlines, ∃ p ∈ outlines, o.nodeId = source ∧ p.nodeId = target
        ∧ ∃ link, o.RefersTo p link)
  /-- The edge is of the kind and the weight that the first of these files decide. -/
  first : ∀ e ∈ final.edges, (∀ known ∈ imported.edges, known.ends ≠ e.ends) →
    (FirstReference outlines e.source e.target .sameScope
      ∧ e.kind = "package_reference" ∧ e.weight = 2)
    ∨ (FirstReference outlines e.source e.target .sameDirectory
      ∧ e.kind = "module_reference" ∧ e.weight = 1)

/-- The pairs of a project, as candidates. -/
theorem product_map_ofOutline (outlines : List (Outline ν)) :
    (outlines.map Candidate.ofOutline).product (outlines.map Candidate.ofOutline)
      = (outlines.product outlines).map (Prod.map .ofOutline .ofOutline) := by
  simp only [List.product, List.flatMap_map, List.map_flatMap, List.map_map]
  rfl

/-- A pair of files asks for an edge with given ends if it has them and refers. -/
theorem asks_iff {q : Outline ν × Outline ν} {source target : String} {e : Edge} :
    (if endsOfPair (q.map .ofOutline .ofOutline) = (source, target)
        then impliedEdge? (q.map .ofOutline .ofOutline) else none) = some e
      ↔ q.1.nodeId = source ∧ q.2.nodeId = target
        ∧ ∃ link, q.1.RefersTo q.2 link
          ∧ ⟨source, target, link.word, link.impliedWeight⟩ = e := by
  have hends : endsOfPair (q.map .ofOutline .ofOutline) = (q.1.nodeId, q.2.nodeId) := rfl
  rw [Option.ite_none_right_eq_some, hends, Prod.mk.injEq, and_assoc]
  refine and_congr_right fun hsource => and_congr_right fun htarget => ?_
  rw [← hsource, ← htarget, impliedEdge?, Option.map_eq_some_iff]
  exact exists_congr fun link => and_congr_left' impliedLink?_eq_some_iff

/-- Some pair asks for an edge exactly if a file refers to another one. -/
theorem firstImplied?_isSome_iff {outlines : List (Outline ν)} {source target : String} :
    (firstImplied? ((outlines.product outlines).map (Prod.map .ofOutline .ofOutline))
        (source, target)).isSome = true
      ↔ ∃ o ∈ outlines, ∃ p ∈ outlines, o.nodeId = source ∧ p.nodeId = target
        ∧ ∃ link, o.RefersTo p link := by
  rw [firstImplied?, List.findSome?_map, List.findSome?_isSome_iff]
  constructor
  · rintro ⟨q, hq, hsome⟩
    obtain ⟨e, he⟩ := Option.isSome_iff_exists.mp hsome
    obtain ⟨hsource, htarget, link, hlink, -⟩ := asks_iff.mp he
    obtain ⟨ho, hp⟩ := List.mem_product.mp hq
    exact ⟨q.1, ho, q.2, hp, hsource, htarget, link, hlink⟩
  · rintro ⟨o, ho, p, hp, hsource, htarget, link, hlink⟩
    exact ⟨(o, p), List.mem_product.mpr ⟨ho, hp⟩,
      Option.isSome_of_eq_some (asks_iff.mpr ⟨hsource, htarget, link, hlink, rfl⟩)⟩

/-- The first edge that is asked for is that of the first reference. -/
theorem firstReference_of_firstImplied? {outlines : List (Outline ν)} {source target : String}
    {e : Edge}
    (h : firstImplied? ((outlines.product outlines).map (Prod.map .ofOutline .ofOutline))
      (source, target) = some e) :
    ∃ link, FirstReference outlines source target link
      ∧ ⟨source, target, link.word, link.impliedWeight⟩ = e := by
  rw [firstImplied?, List.findSome?_map, List.findSome?_eq_some_iff] at h
  obtain ⟨before, q, after, hpairs, he, hbefore⟩ := h
  obtain ⟨hsource, htarget, link, hlink, hedge⟩ := asks_iff.mp he
  refine ⟨link, ⟨before, q.1, q.2, after, hpairs, hsource, htarget, hlink, ?_⟩, hedge⟩
  intro q' hq' hsource' htarget' l hl
  have hsome := asks_iff.mpr ⟨hsource', htarget', l, hl, rfl⟩
  exact nomatch (hbefore q' hq').symm.trans hsome

/-- **IMPLIED LINKS**: files that refer to each other are linked beside the imports, each pair of
    identifiers once and as their first reference has it; what the imports link stays as it is. -/
theorem impliedLinks_resolve (outlines : List (Outline ν)) :
    ImpliedLinks outlines (Resolution.ofImports (outlines.map .ofOutline)).graph
      (resolve outlines).graph := by
  have hnamed := named_ofOutline outlines
  have hcounted := counted_ofImports hnamed
  have hlinked : Linked _ _ (resolve outlines).graph :=
    linked_linkAllImplied hnamed hcounted.wellFormed hcounted.nodes
  rw [product_map_ofOutline] at hlinked
  generalize (Resolution.ofImports (outlines.map .ofOutline)).graph = imported at hlinked ⊢
  generalize (resolve outlines).graph = final at hlinked ⊢
  refine ⟨hlinked.nodes.1, ?_, hlinked.wellFormed.edgeIndex.nodup, ?_, ?_⟩
  · obtain ⟨added, hadded, -⟩ := hlinked.edges
    exact ⟨added, hadded.symm⟩
  · intro source target hne hfree
    rw [hlinked.exists_edge_iff _ hne, firstImplied?_isSome_iff, or_iff_right]
    rintro ⟨e, he, hends⟩
    exact hfree e he hends
  · intro e he hfree
    obtain ⟨link, hfirst, hedge⟩ :=
      firstReference_of_firstImplied? (hlinked.firstImplied?_ends he hfree)
    rw [← hedge]
    obtain ⟨o, p, hrefers⟩ : ∃ o p : Outline ν, o.RefersTo p link := by
      obtain ⟨_, o, p, _, -, -, -, hrefers, -⟩ := hfirst
      exact ⟨o, p, hrefers⟩
    cases hrefers with
    | sameScope => exact Or.inl ⟨hfirst, rfl, rfl⟩
    | sameDirectory => exact Or.inr ⟨hfirst, rfl, rfl⟩

end

end SourceAtlas
