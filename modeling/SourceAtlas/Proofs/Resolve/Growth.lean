import SourceAtlas.Proofs.Resolve.Accounting

/-! # More files never lose an import

    When files are added to a batch, an import may come to mean another file than
    before, since the first one that fits is taken.  But it does not stop meaning
    one: every search of every tier that finds something in a list of files finds
    something in a longer list (`Growing`), and the files that an import is
    matched with only become more.  So the tier that matched before still
    matches, or an earlier one does (`matchImport_grows`), and the imports of a
    file that are left unresolved can only become fewer (`unresolvedOf_grows`). -/

namespace SourceAtlas

/-- The place of a tier, the strongest first. Links without an import come after all tiers. -/
def Link.tier : Link → Nat
  | path => 0
  | scope => 1
  | mention => 2
  | sameScope | sameDirectory => 3

/-! ## Searches in longer lists -/

/-- A search that finds something in a list finds something in every list that contains it. -/
def Growing (search : List Candidate → Option Candidate) : Prop :=
  ∀ ⦃tried tried' : List Candidate⦄, tried.Sublist tried' →
    (search tried).isSome = true → (search tried').isSome = true

namespace Growing

theorem nothing : Growing fun _ => none :=
  fun _ _ _ h => h

theorem find (fits : Candidate → Bool) : Growing fun tried => tried.find? fits :=
  fun _ _ hsub h => hsub.find?_isSome h

/-- A search that is not always made. -/
theorem guarded {p : Prop} [Decidable p] {search : List Candidate → Option Candidate}
    (h : Growing search) : Growing fun tried => if p then none else search tried := by
  by_cases hp : p
  · simp only [if_pos hp]
    exact nothing
  · simp only [if_neg hp]
    exact h

/-- A search, and another one if it finds nothing. -/
theorem orElse {first second : List Candidate → Option Candidate} (hfirst : Growing first)
    (hsecond : Growing second) : Growing fun tried => first tried <|> second tried := by
  intro tried tried' hsub h
  simp only [Option.orElse_eq_orElse, Option.orElse_eq_or, Option.isSome_or, Bool.or_eq_true]
    at h ⊢
  exact h.imp (hfirst hsub) (hsecond hsub)

variable (l : Language) (i : Import) (importer : Candidate)

theorem matchType : Growing (matchType l i) := by
  unfold SourceAtlas.matchType
  by_cases hl : l.importsTypes = true
  · simp only [if_pos hl]
    cases i.symbols with
    | nil => exact nothing
    | cons symbol rest => exact (find _).guarded
  · simp only [if_neg hl]
    exact nothing

/-- The first tier. -/
theorem matchPath : Growing (matchPath l i) := by
  have hfull : Growing (matchFullPath l i) := (find _).guarded
  have hkey : Growing (matchKey l i) := (find _).guarded
  exact hfull.orElse (hkey.orElse (matchType l i))

/-- The second tier. The preference for one name decides which file is found, not whether. -/
theorem matchScope : Growing (matchScope l i) := by
  intro tried tried' hsub h
  unfold SourceAtlas.matchScope at h ⊢
  have hfound := hsub.filter fun c => c.scope.any (wantedScopes i).contains && c.language = l
  simp only [Option.orElse_eq_orElse, Option.orElse_eq_or, Option.isSome_or, Bool.or_eq_true]
    at h ⊢
  refine h.imp hfound.find?_isSome ?_
  rw [List.isSome_head?, List.isSome_head?]
  intro hsome hnone
  rw [hnone] at hfound
  exact hsome (List.sublist_nil.mp hfound)

/-- The third tier. -/
theorem matchMention : Growing (matchMention importer i) :=
  find _

end Growing

section

variable {batch batch' : List Candidate} {importer found : Candidate} {i : Import} {link : Link}

theorem others_sublist (h : batch.Sublist batch') (importer : Candidate) :
    (others batch importer).Sublist (others batch' importer) :=
  h.filter _

/-- A tier that finds nothing in more files has found nothing before. -/
theorem Growing.ne_some {search : List Candidate → Option Candidate} (hsearch : Growing search)
    (h : batch.Sublist batch') (importer found : Candidate)
    (hnone : search (others batch' importer) = none) :
    search (others batch importer) ≠ some found := by
  intro hsome
  have hstill := hsearch (others_sublist h importer) (Option.isSome_of_eq_some hsome)
  rw [hnone] at hstill
  exact Bool.false_ne_true hstill

/-- **MORE FILES**: an import that means a file of a batch means a file of every larger batch, in
    the same tier or in an earlier one. -/
theorem matchImport_grows (h : batch.Sublist batch')
    (hm : matchImport importer i batch = some (found, link)) :
    ∃ found' link', matchImport importer i batch' = some (found', link')
      ∧ found' ∈ others batch' importer ∧ link'.tier ≤ link.tier := by
  have hpath := (Growing.matchPath importer.language i).ne_some h importer found
  have hscope := (Growing.matchScope importer.language i).ne_some h importer found
  have hmention := (Growing.matchMention i importer).ne_some h importer found
  have hcases := matchImport_cases hm
  cases hm' : matchImport importer i batch' with
  | none =>
      obtain ⟨hpath', hscope', hmention'⟩ := matchImport_eq_none_iff.mp hm'
      rcases hcases with ⟨-, hc⟩ | ⟨-, -, hc⟩ | ⟨-, -, -, hc⟩
      · exact absurd hc (hpath hpath')
      · exact absurd hc (hscope hscope')
      · exact absurd hc (hmention hmention')
  | some m =>
      obtain ⟨found', link'⟩ := m
      refine ⟨found', link', rfl, mem_others_of_matchImport hm', ?_⟩
      -- A later tier is only reached if the earlier ones find nothing among more files.
      rcases matchImport_cases hm' with ⟨rfl, -⟩ | ⟨rfl, hpath', -⟩ | ⟨rfl, hpath', hscope', -⟩
      · exact Nat.zero_le _
      · rcases hcases with ⟨-, hc⟩ | ⟨rfl, -⟩ | ⟨rfl, -⟩
        · exact absurd hc (hpath hpath')
        · decide
        · decide
      · rcases hcases with ⟨-, hc⟩ | ⟨-, -, hc⟩ | ⟨rfl, -⟩
        · exact absurd hc (hpath hpath')
        · exact absurd hc (hscope hscope')
        · decide

/-- An import that means no file of a batch means no file of any part of it. -/
theorem Unmatched.of_sublist (h : batch.Sublist batch') (hno : Unmatched batch' importer i) :
    Unmatched batch importer i := by
  refine matchImport_eq_none_iff.mp (Option.eq_none_iff_forall_ne_some.mpr ?_)
  rintro ⟨found, link⟩ hm
  obtain ⟨found', link', hm', -⟩ := matchImport_grows h hm
  exact nomatch (matchImport_eq_none_iff.mpr hno).symm.trans hm'

end

/-! ## The lists of what is unresolved -/

section

variable {ν : Type}

/-- The entries for the imports of a file that mean no file among several. -/
def unresolvedOf (outlines : List (Outline ν)) (o : Outline ν) : List Unresolved :=
  (o.imports.filter fun i => Unmatched (outlines.map .ofOutline) (.ofOutline o) i).map fun i =>
    { target := i.target, file := o.path }

/-- The list of a resolution, file by file. -/
theorem unresolved_resolve (outlines : List (Outline ν)) :
    (resolve outlines).unresolved.toList = outlines.flatMap (unresolvedOf outlines) :=
  (counted_ofImports (named_ofOutline outlines)).unresolved.trans
    (unmatchedIn_declared (outlines.map .ofOutline) outlines)

/-- Among more files, fewer imports of a file are unresolved. -/
theorem unresolvedOf_grows {outlines outlines' : List (Outline ν)} (h : outlines.Sublist outlines')
    (o : Outline ν) : (unresolvedOf outlines' o).Sublist (unresolvedOf outlines o) := by
  refine List.Sublist.map _ (List.monotone_filter_right o.imports fun i hno => ?_)
  exact decide_eq_true ((of_decide_eq_true hno).of_sublist (h.map _))

/-- What is resolved among some files stays resolved among more of them. -/
structure StaysResolved (outlines outlines' : List (Outline ν)) : Prop where
  /-- An import that means one of the files still means a file, in its tier or in an earlier one. -/
  matched : ∀ o ∈ outlines, ∀ i ∈ o.imports, ∀ found link,
    matchImport (.ofOutline o) i (outlines.map .ofOutline) = some (found, link) →
    ∃ found' link', matchImport (.ofOutline o) i (outlines'.map .ofOutline) = some (found', link')
      ∧ found' ∈ outlines'.map .ofOutline ∧ link'.tier ≤ link.tier
  /-- The new list has an entry for every import of every file that means none of them. -/
  listed : (resolve outlines').unresolved.toList = outlines'.flatMap (unresolvedOf outlines')
  /-- Its entries that stem from the old files are entries of the old list, in the same order. -/
  fewer : (outlines.flatMap (unresolvedOf outlines')).Sublist (resolve outlines).unresolved.toList

/-- **GROWTH**: files that are added to others, wherever they are put in, leave none of their
    imports unresolved that was resolved before. -/
theorem staysResolved_of_sublist {outlines outlines' : List (Outline ν)}
    (h : outlines.Sublist outlines') : StaysResolved outlines outlines' := by
  refine ⟨?_, unresolved_resolve outlines', ?_⟩
  · intro o _ i _ found link hm
    obtain ⟨found', link', hm', hfound', htier⟩ := matchImport_grows (h.map _) hm
    exact ⟨found', link', hm', (mem_others.mp hfound').1, htier⟩
  · rw [unresolved_resolve]
    exact List.Sublist.flatMap_right outlines fun o _ => unresolvedOf_grows h o

end

/-- A file with three imports. -/
def importingFile : Outline Int :=
  { path := "a/Main.java", language := .java, lineCount := 3, commentCount := 0
    imports := [{ target := "lib.util" }, { target := "gone" }, { target := "late" }] }

/-- The file and another one, in the namespace that the first of the imports names. -/
def fewFiles : List (Outline Int) := [importingFile,
  { path := "b/Other.java", language := .java, lineCount := 1, commentCount := 0
    scope := some "lib.util" }]

/-- The same files among others, one of which has the path that the first import names. -/
def moreFiles : List (Outline Int) :=
  [{ path := "lib/util.java", language := .java, lineCount := 1, commentCount := 0 }]
    ++ fewFiles.take 1
    ++ [{ path := "late.java", language := .java, lineCount := 1, commentCount := 0 }]
    ++ fewFiles.drop 1

/-- The path of the file that the first of the imports means among several, and the tier. -/
def firstImportMeans (outlines : List (Outline Int)) : Option (String × Link) :=
  (matchImport (.ofOutline importingFile) { target := "lib.util" } (outlines.map .ofOutline)).map
    fun m => (m.1.path, m.2)

/-- The first import comes to mean another file in an earlier tier, and the last one is resolved. -/
theorem staysResolved_moreFiles :
    fewFiles.Sublist moreFiles
    ∧ firstImportMeans fewFiles = some ("b/Other.java", .scope)
    ∧ firstImportMeans moreFiles = some ("lib/util.java", .path)
    ∧ fewFiles.flatMap (unresolvedOf fewFiles)
      = [⟨"gone", "a/Main.java"⟩, ⟨"late", "a/Main.java"⟩]
    ∧ fewFiles.flatMap (unresolvedOf moreFiles) = [⟨"gone", "a/Main.java"⟩]
    ∧ StaysResolved fewFiles moreFiles := by
  have hsub : fewFiles.Sublist moreFiles := by decide +kernel
  exact ⟨hsub, by decide +kernel, by decide +kernel, by decide +kernel, by decide +kernel,
    staysResolved_of_sublist hsub⟩

end SourceAtlas
