import SourceAtlas.Proofs.Resolve.Implied
import SourceAtlas.Proofs.Text.Marks

/-! # Why there is an edge

    An edge may stand for many imports and references, and only the first of
    them gives it its kind.  But whichever it was, it joined two files with the
    identifiers of the edge, and it was found by the means that the kind names.
    So `Explained` is kept by every edge that is added, in the pass over the
    imports as in the one over the pairs of files.

    What each means finds is said in terms of the two files
    (`Outline.Justifies`): apart from paths, none of them leads to another
    language, and a namespace is only reached from a file that names or shares
    it. -/

namespace SourceAtlas

open Text

/-! ## What the tiers look for -/

/-- The module of an import as a namespace, without the star of a wildcard. -/
def Import.moduleScope (i : Import) : List Char :=
  dropSuffix ['.', '*'] (namespaceKeyChars (bareModule i.target.toList))

/-- An import names a namespace: that of its module, or the one right around it. -/
inductive Import.NamesScope (i : Import) (key : String) : Prop where
  | whole : key ≠ "" → i.moduleScope = key.toList → NamesScope i key
  | parent (last : List Char) : key ≠ "" → i.moduleScope = key.toList ++ '.' :: last →
      '.' ∉ last → NamesScope i key

/-- The namespaces that the second tier looks for are those that the import names. -/
theorem mem_wantedScopes {i : Import} {key : String} (h : key ∈ wantedScopes i) :
    i.NamesScope key := by
  obtain ⟨cs, hcs, rfl⟩ := List.mem_map.mp h
  obtain ⟨hmem, hne⟩ := List.mem_filter.mp hcs
  have hkey : String.ofList cs ≠ "" := by
    rw [ne_eq, String.ofList_eq_empty_iff, ← List.isEmpty_iff]
    simpa using hne
  rcases List.mem_pair.mp hmem with hfull | hparent
  · refine .whole hkey ?_
    rw [String.toList_ofList]
    exact hfull.symm
  · cases hsplit : splitLast '.' i.moduleScope with
    | none =>
        rw [Import.moduleScope] at hsplit
        rw [hsplit] at hparent
        exact absurd (String.ofList_eq_empty_iff.mpr hparent) hkey
    | some parts =>
        obtain ⟨before, last⟩ := parts
        obtain ⟨hmodule, hlast⟩ := splitLast_eq_some_iff.mp hsplit
        rw [Import.moduleScope] at hsplit
        rw [hsplit] at hparent
        obtain rfl : cs = before := hparent
        exact .parent last hkey (by rw [hmodule, String.toList_ofList]) hlast

/-! ## What an edge is added for -/

/-- Between files of a batch with these identifiers there is an import or a reference of this
    kind. -/
def Explained (batch : List Candidate) (ends : String × String) (kind : String) : Prop :=
  ∃ c ∈ batch, ∃ d ∈ batch, (c.id, d.id) = ends ∧ ∃ link : Link, kind = link.word
    ∧ ((∃ i ∈ c.imports, matchImport c i batch = some (d, link)) ∨ impliedLink? c d = some link)

section

variable {batch : List Candidate}

/-- A well-formed graph all of whose edges are explained. -/
def AllExplained (batch : List Candidate) (g : Graph) : Prop :=
  g.WellFormed ∧ ∀ e ∈ g.edges, Explained batch e.ends e.kind

/-- An edge that is explained may be added. -/
theorem AllExplained.addEdge {g : Graph} (h : AllExplained batch g) (hnamed : Named batch)
    {c d : Candidate} (hc : c ∈ batch) (hd : d ∈ batch) {kind : String}
    (hkind : Explained batch (c.id, d.id) kind) (weight : Int) :
    AllExplained batch (g.addEdge c.id d.id kind weight) := by
  refine ⟨h.1.addEdge .., fun e he => ?_⟩
  cases ha : g.accepts c.id d.id with
  | false =>
      rcases g.addEdge_cases c.id d.id kind weight with ⟨-, heq⟩ | ⟨hyes, -⟩ | ⟨hyes, -⟩
      · rw [heq] at he
        exact h.2 e he
      · exact nomatch ha.symm.trans hyes
      · exact nomatch ha.symm.trans hyes
  | true =>
      rcases h.1.origin_addEdge ha kind weight he with ⟨hends, hk⟩ | ⟨known, hknown, hends, hk⟩
      · rw [hends, hk, hnamed.normalize_id hc, hnamed.normalize_id hd]
        exact hkind
      · rw [hends, hk]
        exact h.2 known hknown

/-- Every edge of the first pass stands for an import. -/
theorem allExplained_ofImports (hnamed : Named batch) :
    AllExplained batch (Resolution.ofImports batch).graph := by
  have hstart : AllExplained batch (Resolution.start batch).graph := by
    refine ⟨(counted_start hnamed).wellFormed, fun e he => ?_⟩
    rw [Resolution.start, edges_foldl_addNode] at he
    exact nomatch he
  refine List.foldlRecOn (motive := fun r : Resolution => AllExplained batch r.graph)
    batch _ hstart ?_
  intro r hr importer himporter
  refine List.foldlRecOn (motive := fun r : Resolution => AllExplained batch r.graph)
    importer.imports _ hr ?_
  intro r hr i hi
  rw [Resolution.addImport]
  cases hm : matchImport importer i batch with
  | none => exact hr
  | some m =>
      obtain ⟨found, link⟩ := m
      have hfound := (mem_others.mp (mem_others_of_matchImport hm)).1
      exact hr.addEdge hnamed himporter hfound
        ⟨importer, himporter, found, hfound, rfl, link, rfl, Or.inl ⟨i, hi, hm⟩⟩ _

/-- Every other edge stands for a reference without an import. -/
theorem allExplained_linkAllImplied (hnamed : Named batch) {g : Graph}
    (hg : AllExplained batch g) : AllExplained batch (linkAllImplied batch g) := by
  refine List.foldlRecOn (motive := AllExplained batch) batch _ hg ?_
  intro g hg source hsource
  refine List.foldlRecOn (motive := AllExplained batch) batch _ hg ?_
  intro g hg sibling hsibling
  rcases linkImplied_cases source sibling g with heq | ⟨link, hlink, -, heq⟩
  · rw [heq]
    exact hg
  · rw [heq]
    exact hg.addEdge hnamed hsource hsibling
      ⟨source, hsource, sibling, hsibling, rfl, link, rfl, Or.inr hlink⟩ _

end

/-! ## What two files have to do with each other -/

section

variable {ν : Type}

namespace Outline

/-- The file declares a namespace with this key. -/
def DeclaresScope (o : Outline ν) (key : String) : Prop :=
  ∃ m, o.scope = some m ∧ m ≠ "" ∧ namespaceKey m = key

/-- What there is about two files that justifies an edge of a kind from the one to the other. -/
inductive Justifies (o p : Outline ν) : Link → Prop where
  /-- The file has an import. -/
  | path {i : Import} : i ∈ o.imports → Justifies o p .path
  /-- The file has an import of the other one's namespace. -/
  | scope {i : Import} {key : String} : p.language = o.language → i ∈ o.imports →
      i.NamesScope key → p.DeclaresScope key → Justifies o p .scope
  /-- The file imports a name that the other one, of its namespace, mentions. -/
  | mention {i : Import} : p.language = o.language → o.SharesScope p → i ∈ o.imports →
      isIdentifier i.bareName.toList = true → StandsIn i.bareName.toList p.content.toList →
      Justifies o p .mention
  /-- The file refers to the other one without an import. -/
  | implied {link : Link} : o.RefersTo p link → Justifies o p link

end Outline

variable {o p : Outline ν} {link : Link}

/-- What a tier finds is justified. -/
theorem justifies_of_matchImport {outlines : List (Outline ν)} {i : Import} (hi : i ∈ o.imports)
    (h : matchImport (.ofOutline o) i (outlines.map .ofOutline) = some (.ofOutline p, link)) :
    o.Justifies p link := by
  rcases matchImport_cases h with ⟨rfl, -⟩ | ⟨rfl, -, hscope⟩ | ⟨rfl, -, -, hmention⟩
  · exact .path hi
  · obtain ⟨hlanguage, key, hkey, hdeclared⟩ := fits_of_matchScope hscope
    exact .scope hlanguage hi (mem_wantedScopes hkey) (scope_ofOutline_eq_some_iff.mp hdeclared)
  · obtain ⟨hshares, hlanguage, hmentions⟩ := fits_of_matchMention hmention
    rw [Candidate.mentions, Bool.and_eq_true, mentions_iff] at hmentions
    exact .mention hlanguage (sharesScope_iff.mp hshares) hi hmentions.1 hmentions.2

/-- Every edge of a graph has two files that justify it. -/
structure EdgesJustified (outlines : List (Outline ν)) (g : Graph) : Prop where
  justified : ∀ e ∈ g.edges, ∃ o ∈ outlines, ∃ p ∈ outlines,
    o.nodeId = e.source ∧ p.nodeId = e.target
      ∧ ∃ link : Link, e.kind = link.word ∧ o.Justifies p link
  /-- Where no file declares a namespace, no edge refers within one. -/
  unscoped : ∀ id, (∀ o ∈ outlines, o.nodeId = id → o.scope = none ∨ o.scope = some "") →
    ∀ e ∈ g.edges, e.kind = "reference" ∨ e.kind = "package_reference" →
      e.source ≠ id ∧ e.target ≠ id

/-- A reference within a namespace takes a namespace on both sides. -/
theorem Outline.Justifies.sharesScope (h : o.Justifies p link)
    (hlink : link.word = "reference" ∨ link.word = "package_reference") : o.SharesScope p := by
  cases h with
  | path => exact absurd hlink (by decide)
  | scope => exact absurd hlink (by decide)
  | mention _ hshares => exact hshares
  | implied hrefers =>
      cases hrefers with
      | sameScope _ hshares => exact hshares
      | sameDirectory => exact absurd hlink (by decide)

/-- **JUSTIFIED EDGES**: every edge of a project joins two files that its kind is true of. -/
theorem edgesJustified_resolve (outlines : List (Outline ν)) :
    EdgesJustified outlines (resolve outlines).graph := by
  have hnamed := named_ofOutline outlines
  have hall := allExplained_linkAllImplied hnamed (allExplained_ofImports hnamed)
  have hjustified : ∀ e ∈ (resolve outlines).graph.edges, ∃ o ∈ outlines, ∃ p ∈ outlines,
      o.nodeId = e.source ∧ p.nodeId = e.target
        ∧ ∃ link : Link, e.kind = link.word ∧ o.Justifies p link := by
    intro e he
    obtain ⟨c, hc, d, hd, hends, link, hkind, hwhy⟩ := hall.2 e he
    obtain ⟨o, ho, rfl⟩ := List.mem_map.mp hc
    obtain ⟨p, hp, rfl⟩ := List.mem_map.mp hd
    obtain ⟨hsource, htarget⟩ := Prod.mk.inj hends
    refine ⟨o, ho, p, hp, hsource, htarget, link, hkind, ?_⟩
    rcases hwhy with ⟨i, hi, hm⟩ | hlink
    · exact justifies_of_matchImport hi hm
    · exact .implied (impliedLink?_eq_some_iff.mp hlink)
  refine ⟨hjustified, fun id hid e he hkind => ?_⟩
  obtain ⟨o, ho, p, hp, hsource, htarget, link, hword, hwhy⟩ := hjustified e he
  rw [hword] at hkind
  obtain ⟨m, n, hm, hn, hm', hn', -⟩ := hwhy.sharesScope hkind
  constructor
  · rintro rfl
    rcases hid o ho hsource with hnone | hempty
    · exact nomatch hm.symm.trans hnone
    · exact hm' (Option.some.inj (hm.symm.trans hempty))
  · rintro rfl
    rcases hid p hp htarget with hnone | hempty
    · exact nomatch hn.symm.trans hnone
    · exact hn' (Option.some.inj (hn.symm.trans hempty))

end

end SourceAtlas
