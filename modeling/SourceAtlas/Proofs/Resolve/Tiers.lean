import SourceAtlas.Resolve.Tiers

/-! # What the tiers find

    An import is matched with the files of a batch that have another identifier
    than its importer.  `matchImport_cases` is all that matching can find, tier
    by tier, and `matchImport_eq_none_iff` is when it finds nothing; from there
    on no proof opens `matchImport`.  Whatever is found is one of the files that
    were tried (`mem_others_of_matchImport`), and it has what the tier looks for
    (`fits_of_matchScope`, `fits_of_matchMention`). -/

namespace SourceAtlas

/-- The files of a batch that an import of a file is matched with. -/
def others (batch : List Candidate) (importer : Candidate) : List Candidate :=
  batch.filter (·.id ≠ importer.id)

theorem mem_others {batch : List Candidate} {importer c : Candidate} :
    c ∈ others batch importer ↔ c ∈ batch ∧ c.id ≠ importer.id := by
  rw [others, List.mem_filter, decide_eq_true_iff]

/-- No tier finds a file of the batch for an import. -/
def Unmatched (batch : List Candidate) (importer : Candidate) (i : Import) : Prop :=
  matchPath importer.language i (others batch importer) = none
    ∧ matchScope importer.language i (others batch importer) = none
    ∧ matchMention importer i (others batch importer) = none

instance (batch : List Candidate) (importer : Candidate) (i : Import) :
    Decidable (Unmatched batch importer i) :=
  inferInstanceAs (Decidable (_ ∧ _ ∧ _))

variable {batch : List Candidate} {importer found : Candidate} {i : Import} {link : Link}

/-- All that matching can find: what the first tier with a result finds. -/
theorem matchImport_cases (h : matchImport importer i batch = some (found, link)) :
    (link = .path ∧ matchPath importer.language i (others batch importer) = some found)
    ∨ (link = .scope ∧ matchPath importer.language i (others batch importer) = none
      ∧ matchScope importer.language i (others batch importer) = some found)
    ∨ (link = .mention ∧ matchPath importer.language i (others batch importer) = none
      ∧ matchScope importer.language i (others batch importer) = none
      ∧ matchMention importer i (others batch importer) = some found) := by
  simp only [matchImport, Option.orElse_eq_orElse, Option.orElse_eq_or, Option.or_eq_some_iff,
    Option.map_eq_some_iff, Option.map_eq_none_iff, Prod.mk.injEq] at h
  rcases h with ⟨c, hc, rfl, rfl⟩ | ⟨hpath, ⟨c, hc, rfl, rfl⟩ | ⟨hscope, c, hc, rfl, rfl⟩⟩
  · exact Or.inl ⟨rfl, hc⟩
  · exact Or.inr (Or.inl ⟨rfl, hpath, hc⟩)
  · exact Or.inr (Or.inr ⟨rfl, hpath, hscope, hc⟩)

/-- Matching finds nothing when no tier does. -/
theorem matchImport_eq_none_iff :
    matchImport importer i batch = none ↔ Unmatched batch importer i := by
  simp only [matchImport, Option.orElse_eq_orElse, Option.orElse_eq_or, Option.or_eq_none_iff,
    Option.map_eq_none_iff]
  rfl

/-! ## Where a found file comes from -/

section Found

variable {l : Language} {tried : List Candidate} {c : Candidate}

/-- A search that is not always made finds what is there all the same. -/
theorem mem_of_find?_unless {p : Prop} [Decidable p] {fits : Candidate → Bool}
    (h : (if p then none else tried.find? fits) = some c) : c ∈ tried := by
  by_cases hp : p
  · rw [if_pos hp] at h
    exact nomatch h
  · rw [if_neg hp] at h
    exact List.mem_of_find?_eq_some h

theorem mem_of_matchFullPath (h : matchFullPath l i tried = some c) : c ∈ tried :=
  mem_of_find?_unless h

theorem mem_of_matchKey (h : matchKey l i tried = some c) : c ∈ tried :=
  mem_of_find?_unless h

theorem mem_of_matchType (h : matchType l i tried = some c) : c ∈ tried := by
  rw [matchType] at h
  by_cases hl : l.importsTypes = true
  · rw [if_pos hl] at h
    cases hs : i.symbols with
    | nil =>
        rw [hs] at h
        exact nomatch h
    | cons symbol rest =>
        rw [hs] at h
        exact mem_of_find?_unless h
  · rw [if_neg hl] at h
    exact nomatch h

theorem mem_of_matchPath (h : matchPath l i tried = some c) : c ∈ tried := by
  simp only [matchPath, Option.orElse_eq_orElse, Option.orElse_eq_or, Option.or_eq_some_iff] at h
  rcases h with h | ⟨-, h | ⟨-, h⟩⟩
  · exact mem_of_matchFullPath h
  · exact mem_of_matchKey h
  · exact mem_of_matchType h

theorem mem_of_matchScope (h : matchScope l i tried = some c) : c ∈ tried := by
  simp only [matchScope, Option.orElse_eq_orElse, Option.orElse_eq_or, Option.or_eq_some_iff] at h
  rcases h with h | ⟨-, h⟩
  · exact (List.mem_filter.mp (List.mem_of_find?_eq_some h)).1
  · exact (List.mem_filter.mp (List.mem_of_mem_head? h)).1

theorem mem_of_matchMention (h : matchMention importer i tried = some c) : c ∈ tried :=
  List.mem_of_find?_eq_some h

/-! ## What a found file fits -/

/-- The second tier finds files of the language with a namespace that the import names. -/
theorem fits_of_matchScope (h : matchScope l i tried = some c) :
    c.language = l ∧ ∃ key ∈ wantedScopes i, c.scope = some key := by
  have hfound : c ∈ tried.filter fun c =>
      c.scope.any (wantedScopes i).contains && c.language = l := by
    simp only [matchScope, Option.orElse_eq_orElse, Option.orElse_eq_or, Option.or_eq_some_iff] at h
    rcases h with h | ⟨-, h⟩
    · exact List.mem_of_find?_eq_some h
    · exact List.mem_of_mem_head? h
  obtain ⟨-, hfits⟩ := List.mem_filter.mp hfound
  rw [Bool.and_eq_true, decide_eq_true_iff, Option.any_eq_true] at hfits
  obtain ⟨⟨key, hscope, hkey⟩, hlanguage⟩ := hfits
  exact ⟨hlanguage, key, List.contains_iff_mem.mp hkey, hscope⟩

/-- The third tier finds files of the language and the namespace that mention the imported name. -/
theorem fits_of_matchMention (h : matchMention importer i tried = some c) :
    importer.sharesScope c = true ∧ c.language = importer.language
      ∧ c.mentions i.bareName.toList = true := by
  have hfits := List.find?_some h
  rw [Bool.and_eq_true, Bool.and_eq_true, decide_eq_true_iff, and_assoc] at hfits
  exact hfits

end Found

/-- A found file is one of the batch with another identifier than the importer's. -/
theorem mem_others_of_matchImport (h : matchImport importer i batch = some (found, link)) :
    found ∈ others batch importer := by
  rcases matchImport_cases h with ⟨-, h⟩ | ⟨-, -, h⟩ | ⟨-, -, -, h⟩
  · exact mem_of_matchPath h
  · exact mem_of_matchScope h
  · exact mem_of_matchMention h

end SourceAtlas
