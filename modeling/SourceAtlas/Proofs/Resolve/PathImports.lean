import SourceAtlas.Proofs.Path.Plain
import SourceAtlas.Proofs.Resolve.Tiers

/-! # Imports that name paths

    The first tier compares an import with the paths of the files, and what it
    finds is a file that the import names (`exists_matchPath_of_names`).  An import
    that is written as a plain path is taken as it is, but for `./` in front and
    the roots of a Rust crate (`fullModuleKey_plain`), so it names every file
    whose path it ends, with or without the extension, and nothing else decides
    (`matchImport_of_namedPath`).

    Only where the extension is left out is there a condition: the import must
    not end in what is the extension of a source file itself, as that is dropped
    from it. -/

namespace SourceAtlas

open SourceAtlas.Path Text

/-! ## What is cleaned off -/

theorem Text.dropWhile_eq_self {p : Char → Bool} {cs : List Char} (h : ∀ c ∈ cs, p c = false) :
    cs.dropWhile p = cs := by
  cases cs with
  | nil => rfl
  | cons c rest =>
      exact List.dropWhile_cons_of_neg (ne_true_of_eq_false (h c (List.mem_cons_self ..)))

theorem Text.trim_eq_self {p : Char → Bool} {cs : List Char} (h : ∀ c ∈ cs, p c = false) :
    trim p cs = cs := by
  have hback : cs.reverse.dropWhile p = cs.reverse :=
    dropWhile_eq_self fun c hc => h c (List.mem_reverse.mp hc)
  rw [trim, dropEnd, dropWhile_eq_self h, hback, List.reverse_reverse]

theorem Text.replaceColons_of_not_mem {new : Char} {cs : List Char} (h : ':' ∉ cs) :
    replaceColons new cs = cs := by
  fun_induction replaceColons new cs with
  | case1 rest _ => exact absurd (List.mem_cons_self ..) h
  | case2 c rest _ ih => rw [ih fun hrest => h (List.mem_cons_of_mem _ hrest)]
  | case3 => rfl

/-- No mark that is cleaned off stands in a plain path. -/
theorem avoids_of_isPlainChar {c : Char} (h : c = '/' ∨ isPlainChar c = true) :
    isBlank c = false ∧ isModuleQuote c = false ∧ c ≠ '\\' ∧ c ≠ ':' := by
  refine ⟨Bool.eq_false_iff.mpr fun hblank => ?_, Bool.eq_false_iff.mpr fun hquote => ?_,
    fun hc => ?_, fun hc => ?_⟩
  · simp only [isPlainChar, isWord_of_isBlank hblank, Bool.false_or, Bool.or_eq_true,
      decide_eq_true_eq] at h
    rcases h with rfl | rfl | rfl <;> exact absurd hblank (by decide)
  · simp only [isModuleQuote, Bool.or_eq_true, decide_eq_true_eq] at hquote
    rcases hquote with ((rfl | rfl) | rfl) | rfl <;> exact absurd h (by decide)
  · exact absurd (hc ▸ h) (by decide)
  · exact absurd (hc ▸ h) (by decide)

theorem dropRelative_of_isWord {c : Char} (hc : isWord c = true) (rest : List Char) :
    dropRelative (c :: rest) = c :: rest := by
  have hne : ∀ d, isWord d = false → c ≠ d := by
    rintro d hd rfl
    exact nomatch hc.symm.trans hd
  rw [dropRelative.eq_def]
  split
  · next heq => exact absurd (List.cons.inj heq).1 (hne '.' (by decide))
  · next heq => exact absurd (List.cons.inj heq).1 (hne '.' (by decide))
  · next heq => exact absurd (List.cons.inj heq).1 (hne '@' (by decide))
  · next heq => exact absurd (List.cons.inj heq).1 (hne '~' (by decide))
  · rfl

/-- What is left of a path behind the roots of a crate is one of its tails. -/
theorem isTail_dropCrateRoots (cs : List Char) : IsTail (dropCrateRoots cs) cs := by
  fun_induction dropCrateRoots cs with
  | case1 rest ih => exact ih.trans (.behind ['c', 'r', 'a', 't', 'e'] rest)
  | case2 rest ih => exact ih.trans (.behind ['s', 'e', 'l', 'f'] rest)
  | case3 rest ih => exact ih.trans (.behind ['s', 'u', 'p', 'e', 'r'] rest)
  | case4 cs => exact .refl cs

theorem dropKnownExtension_of_known {cs : List Char}
    (h : Language.isKnownExtension (splitExtensionChars cs).2 = true) :
    dropKnownExtension cs = (splitExtensionChars cs).1 := by
  simp only [dropKnownExtension, h, if_true]

theorem dropKnownExtension_of_unknown {cs : List Char}
    (h : Language.isKnownExtension (splitExtensionChars cs).2 = false) :
    dropKnownExtension cs = cs := by
  simp only [dropKnownExtension, h, Bool.false_eq_true, if_false]

/-! ## The keys of a plain path -/

section

variable {target : String} {l : Language} {cs : List Char}

/-- An import that is written as a plain path, perhaps with `./` in front, is compared as it is. -/
theorem fullModuleKey_plain (hdots : l.matchers.dottedImports = false) (hplain : IsPlain cs)
    (htarget : target.toList = cs ∨ target.toList = '.' :: '/' :: cs) :
    fullModuleKey target l = if l = .rust then dropCrateRoots cs else cs := by
  obtain ⟨c, rest, rfl, hword, -⟩ := hplain.exists_start
  have hchars : ∀ d ∈ target.toList, d = '/' ∨ isPlainChar d = true := by
    rcases htarget with htarget | htarget <;> rw [htarget]
    · exact hplain.eq_slash_or
    · rintro d hd
      rcases List.mem_cons.mp hd with rfl | hd
      · exact Or.inr rfl
      · rcases List.mem_cons.mp hd with rfl | hd
        · exact Or.inl rfl
        · exact hplain.eq_slash_or d hd
  -- None of what is cleaned off occurs, and only `./` in front is dropped.
  have hbare : bareModule target.toList = target.toList := by
    rw [bareModule, strip, trim_eq_self fun d hd => (avoids_of_isPlainChar (hchars d hd)).1,
      trim_eq_self fun d hd => (avoids_of_isPlainChar (hchars d hd)).2.1]
  have hbackslash : '\\' ∉ target.toList := fun hmem =>
    (avoids_of_isPlainChar (hchars _ hmem)).2.2.1 rfl
  have hcolon : ':' ∉ target.toList := fun hmem =>
    (avoids_of_isPlainChar (hchars _ hmem)).2.2.2 rfl
  have hrelative : dropRelative target.toList = c :: rest := by
    rcases htarget with htarget | htarget <;> rw [htarget]
    · exact dropRelative_of_isWord hword rest
    · exact dropRelative_of_isWord hword rest
  have hslash : c ≠ '/' := by
    rintro rfl
    exact absurd hword (by decide)
  rw [fullModuleKey, hbare, replaceChar_of_not_mem hbackslash, hdots]
  simp only [Bool.false_eq_true, if_false]
  rw [replaceColons_of_not_mem hcolon, hrelative,
    List.dropWhile_cons_of_neg (by rwa [decide_eq_true_eq])]

theorem isTail_fullModuleKey (hdots : l.matchers.dottedImports = false) (hplain : IsPlain cs)
    (htarget : target.toList = cs ∨ target.toList = '.' :: '/' :: cs) :
    IsTail (fullModuleKey target l) cs := by
  rw [fullModuleKey_plain hdots hplain htarget]
  split
  · exact isTail_dropCrateRoots cs
  · exact .refl cs

end

/-! ## Paths that meet -/

section

variable {file wanted : List Char}

theorem pathsMeet_of_isTail (h : IsTail wanted file) : pathsMeet file wanted = true := by
  rw [pathsMeet, Bool.or_eq_true, Bool.or_eq_true, decide_eq_true_eq]
  rcases h with rfl | h
  · exact Or.inl (Or.inl rfl)
  · exact Or.inl (Or.inr (List.isSuffixOf_iff_suffix.mpr h))

/-- Paths that meet have one last component. -/
theorem baseChars_of_pathsMeet (h : pathsMeet file wanted = true) :
    baseChars file = baseChars wanted := by
  rw [pathsMeet, Bool.or_eq_true, Bool.or_eq_true, decide_eq_true_eq] at h
  rcases h with (rfl | h) | h
  · rfl
  · exact (baseChars_of_isTail (Or.inr (List.isSuffixOf_iff_suffix.mp h))).symm
  · exact baseChars_of_isTail (Or.inr (List.isSuffixOf_iff_suffix.mp h))

end

/-! ## Files that an import names -/

/-- The import names the path of a file, with its extension or without. -/
def NamesPath (i : Import) (l : Language) (c : Candidate) : Prop :=
  (fullModuleKey i.target l ≠ [] ∧ pathsMeet c.id.toList (fullModuleKey i.target l) = true)
  ∨ (moduleKey i.target l ≠ [] ∧ pathsMeet c.key (moduleKey i.target l) = true)

/-- A search that is made where something is wanted. -/
theorem exists_find?_wanted_iff {wanted : List Char} {tried : List Candidate}
    {fits : Candidate → Bool} :
    (∃ found, (if wanted.isEmpty then none else tried.find? fits) = some found)
      ↔ ∃ c ∈ tried, wanted ≠ [] ∧ fits c = true := by
  by_cases hwanted : wanted = []
  · subst hwanted
    exact iff_of_false (fun ⟨_, h⟩ => nomatch h) fun ⟨_, _, hne, _⟩ => hne rfl
  · rw [if_neg (mt List.isEmpty_iff.mp hwanted), ← Option.isSome_iff_exists, List.find?_isSome]
    exact exists_congr fun c => and_congr_right fun _ => (and_iff_right hwanted).symm

/-- What such a search finds fits what is wanted. -/
theorem fits_of_find?_wanted {wanted : List Char} {tried : List Candidate}
    {fits : Candidate → Bool} {c : Candidate}
    (h : (if wanted.isEmpty then none else tried.find? fits) = some c) :
    wanted ≠ [] ∧ fits c = true := by
  by_cases hwanted : wanted.isEmpty = true
  · rw [if_pos hwanted] at h
    exact nomatch h
  · rw [if_neg hwanted] at h
    exact ⟨fun hnil => hwanted (List.isEmpty_iff.mpr hnil), List.find?_some h⟩

/-- The file that is found by its path, with the extension or without. -/
def matchNamedPath (l : Language) (i : Import) (tried : List Candidate) : Option Candidate :=
  matchFullPath l i tried <|> matchKey l i tried

section

variable {i : Import} {l : Language} {tried : List Candidate} {c : Candidate}

theorem matchPath_of_matchFullPath (h : matchFullPath l i tried = some c) :
    matchPath l i tried = some c := by
  rw [matchPath, h]
  rfl

theorem matchPath_of_matchNamedPath (h : matchNamedPath l i tried = some c) :
    matchPath l i tried = some c := by
  simp only [matchNamedPath, matchPath, Option.orElse_eq_orElse, Option.orElse_eq_or] at h ⊢
  rw [← Option.or_assoc, h, Option.some_or]

/-- What is found by its path is named by the import. -/
theorem namesPath_of_matchNamedPath (h : matchNamedPath l i tried = some c) :
    NamesPath i l c := by
  simp only [matchNamedPath, Option.orElse_eq_orElse, Option.orElse_eq_or,
    Option.or_eq_some_iff] at h
  rcases h with h | ⟨-, h⟩
  · exact Or.inl (fits_of_find?_wanted h)
  · exact Or.inr (fits_of_find?_wanted h)

/-- Where the import names a file, one is found by its path. -/
theorem exists_matchNamedPath_of_names (hc : c ∈ tried) (h : NamesPath i l c) :
    ∃ found, matchNamedPath l i tried = some found := by
  rw [matchNamedPath]
  cases hfull : matchFullPath l i tried with
  | some found => exact ⟨found, rfl⟩
  | none =>
      rcases h with ⟨hwanted, hmeet⟩ | ⟨hwanted, hmeet⟩
      · obtain ⟨found, hfound⟩ : ∃ found, matchFullPath l i tried = some found :=
          exists_find?_wanted_iff.mpr ⟨c, hc, hwanted, hmeet⟩
        exact nomatch hfull.symm.trans hfound
      · obtain ⟨found, hfound⟩ : ∃ found, matchKey l i tried = some found :=
          exists_find?_wanted_iff.mpr ⟨c, hc, hwanted, hmeet⟩
        exact ⟨found, by rw [hfound]; rfl⟩

theorem exists_matchPath_of_names (hc : c ∈ tried) (h : NamesPath i l c) :
    ∃ found, matchPath l i tried = some found := by
  obtain ⟨found, hfound⟩ := exists_matchNamedPath_of_names hc h
  exact ⟨found, matchPath_of_matchNamedPath hfound⟩

/-- Where the import names no file and no type is looked for, the first tier finds nothing. -/
theorem matchPath_eq_none (h : ∀ c ∈ tried, ¬ NamesPath i l c)
    (htype : matchType l i tried = none) : matchPath l i tried = none := by
  simp only [matchPath, Option.orElse_eq_orElse, Option.orElse_eq_or, Option.or_eq_none_iff]
  refine ⟨Option.eq_none_iff_forall_ne_some.mpr fun c hc => ?_,
    Option.eq_none_iff_forall_ne_some.mpr fun c hc => ?_, htype⟩
  · exact h c (mem_of_matchFullPath hc) (Or.inl (fits_of_find?_wanted hc))
  · exact h c (mem_of_matchKey hc) (Or.inr (fits_of_find?_wanted hc))

end

/-- What the first tier finds is what the import means. -/
theorem matchImport_of_matchPath {batch : List Candidate} {importer found : Candidate} {i : Import}
    (h : matchPath importer.language i (others batch importer) = some found) :
    matchImport importer i batch = some (found, .path) := by
  unfold others at h
  rw [matchImport, h]
  rfl

section

variable {ν : Type} {file : Outline ν} {i : Import} {l : Language} {cs : List Char}

theorem id_ofOutline (o : Outline ν) : (Candidate.ofOutline o).id = o.nodeId := rfl

theorem key_ofOutline (o : Outline ν) :
    (Candidate.ofOutline o).key = Candidate.keyOf o.nodeId.toList := by
  dsimp only [Candidate.ofOutline]

/-- The key of a file, unless it stands for its package. -/
theorem keyOf_of_isPlain {id : List Char} (hplain : IsPlain cs)
    (htail : IsTail cs (splitExtensionChars id).1) :
    Candidate.keyOf id = (splitExtensionChars id).1 := by
  -- A package's file starts with a low line, and the last segment of a plain path does not.
  have hsegment := hplain.isPlainSegment_baseChars
  rw [baseChars_of_isTail htail] at hsegment
  refine if_neg fun hpackage => ?_
  rw [hpackage] at hsegment
  exact absurd hsegment (by decide)

/-- The end of a file's path names the file. -/
theorem namesPath_of_isTail (hdots : l.matchers.dottedImports = false) (hplain : IsPlain cs)
    (htarget : i.target.toList = cs ∨ i.target.toList = '.' :: '/' :: cs)
    (htail : IsTail cs file.nodeId.toList) : NamesPath i l (.ofOutline file) := by
  have hkey := isTail_fullModuleKey hdots hplain htarget
  obtain ⟨c, rest, hcons, -⟩ := (hplain.of_isTail hkey).exists_start
  exact Or.inl ⟨hcons ▸ List.cons_ne_nil c rest, pathsMeet_of_isTail (hkey.trans htail)⟩

/-- So does the end of its path without extension, if it does not end in what is dropped from an
    import. -/
theorem namesPath_of_isTail_key (hdots : l.matchers.dottedImports = false) (hplain : IsPlain cs)
    (htarget : i.target.toList = cs ∨ i.target.toList = '.' :: '/' :: cs)
    (htail : IsTail cs (splitExtensionChars file.nodeId.toList).1)
    (hunknown : Language.isKnownExtension (splitExtensionChars cs).2 = false) :
    NamesPath i l (.ofOutline file) := by
  have hkey := isTail_fullModuleKey hdots hplain htarget
  obtain ⟨c, rest, hcons, -⟩ := (hplain.of_isTail hkey).exists_start
  have hmodule : moduleKey i.target l = fullModuleKey i.target l :=
    dropKnownExtension_of_unknown (by rw [extension_of_isTail hkey]; exact hunknown)
  refine Or.inr ⟨?_, ?_⟩
  · rw [hmodule]
    exact hcons ▸ List.cons_ne_nil c rest
  · rw [hmodule, key_ofOutline, keyOf_of_isPlain hplain htail]
    exact pathsMeet_of_isTail (hkey.trans htail)

/-- Otherwise it does not, as the last components differ. -/
theorem not_namesPath_of_known (hdots : l.matchers.dottedImports = false) (hplain : IsPlain cs)
    (htarget : i.target.toList = cs ∨ i.target.toList = '.' :: '/' :: cs)
    (htail : IsTail cs (splitExtensionChars file.nodeId.toList).1)
    (hwhole : ¬ IsTail cs file.nodeId.toList)
    (hknown : Language.isKnownExtension (splitExtensionChars cs).2 = true) :
    ¬ NamesPath i l (.ofOutline file) := by
  have hkey := isTail_fullModuleKey hdots hplain htarget
  have hbase := baseChars_of_isTail (hkey.trans htail)
  rintro (⟨-, hmeet⟩ | ⟨-, hmeet⟩)
  · -- The file would have no extension, so the import would be the end of its whole path.
    have hfile := baseChars_splitExtension file.nodeId.toList
    rw [id_ofOutline] at hmeet
    rw [← hbase, baseChars_of_pathsMeet hmeet] at hfile
    have hnone := List.self_eq_append_right.mp hfile
    have hid := append_splitExtension file.nodeId.toList
    rw [hnone, List.append_nil] at hid
    exact hwhole (hid ▸ htail)
  · -- The import would have no extension either.
    have hmodule : moduleKey i.target l = (splitExtensionChars (fullModuleKey i.target l)).1 :=
      dropKnownExtension_of_known (by rw [extension_of_isTail hkey]; exact hknown)
    rw [hmodule, key_ofOutline, keyOf_of_isPlain hplain htail] at hmeet
    have himport := baseChars_splitExtension (fullModuleKey i.target l)
    rw [hbase, ← baseChars_of_pathsMeet hmeet] at himport
    rw [← extension_of_isTail hkey, List.self_eq_append_right.mp himport] at hknown
    exact absurd hknown (by decide)

end

/-- **IMPORTS BY PATH**: an import that is the end of a file's path, written as a plain path, names
    that file with its extension, and without it exactly if what is written does not end in an
    extension of source files. Then the import is matched by path, whatever else is in the
    batch. -/
theorem matchImport_of_namedPath {ν : Type} {outlines : List (Outline ν)}
    {importer file : Outline ν} (hfile : file ∈ outlines) (hother : file.nodeId ≠ importer.nodeId)
    (hdots : importer.language.matchers.dottedImports = false) {path : String}
    (hplain : IsPlain path.toList)
    (htail : IsTail path.toList file.nodeId.toList
      ∨ IsTail path.toList (withoutExtension file.nodeId).toList)
    {i : Import} (htarget : i.target = path ∨ i.target = "./" ++ path) :
    (NamesPath i importer.language (.ofOutline file)
      ↔ IsTail path.toList file.nodeId.toList
        ∨ Language.isKnownExtension (extension path).toList = false)
    ∧ (IsTail path.toList file.nodeId.toList
        ∨ Language.isKnownExtension (extension path).toList = false →
      ∃ found, matchImport (.ofOutline importer) i (outlines.map .ofOutline)
        = some (found, .path)) := by
  have hwritten : i.target.toList = path.toList ∨ i.target.toList = '.' :: '/' :: path.toList := by
    rcases htarget with htarget | htarget
    · exact Or.inl (congrArg String.toList htarget)
    · exact Or.inr ((congrArg String.toList htarget).trans (String.toList_append ..))
  rw [extension, String.toList_ofList]
  rw [withoutExtension, String.toList_ofList] at htail
  have hnames : IsTail path.toList file.nodeId.toList
      ∨ Language.isKnownExtension (splitExtensionChars path.toList).2 = false →
      NamesPath i importer.language (.ofOutline file) := by
    intro h
    by_cases hwhole : IsTail path.toList file.nodeId.toList
    · exact namesPath_of_isTail hdots hplain hwritten hwhole
    · exact namesPath_of_isTail_key hdots hplain hwritten (htail.resolve_left hwhole)
        (h.resolve_left hwhole)
  refine ⟨⟨fun h => ?_, hnames⟩, fun h => ?_⟩
  · by_contra hneither
    obtain ⟨hwhole, hknown⟩ := not_or.mp hneither
    exact not_namesPath_of_known hdots hplain hwritten (htail.resolve_left hwhole) hwhole
      (Bool.not_eq_false _ ▸ hknown) h
  · have hmem : Candidate.ofOutline file ∈ others (outlines.map .ofOutline) (.ofOutline importer) :=
      mem_others.mpr ⟨List.mem_map_of_mem hfile, hother⟩
    obtain ⟨found, hfound⟩ := exists_matchPath_of_names hmem (hnames h)
    exact ⟨found, matchImport_of_matchPath hfound⟩

/-! ## Style sheets that are programs -/

/-- A page that imports its styles. -/
def styledPage : Outline where
  path := "web/page.ts"
  language := .typescript
  lineCount := 1
  commentCount := 0

/-- Its theme. -/
def themeFile : Outline where
  path := "web/theme.dark.ts"
  language := .typescript
  lineCount := 1
  commentCount := 0

/-- Its style sheet. -/
def sheetFile : Outline where
  path := "web/styles.css.ts"
  language := .typescript
  lineCount := 1
  commentCount := 0

/-- The theme is found without its extension, as no source file ends in `.dark`. -/
theorem matchImport_theme :
    themeFile ∈ [styledPage, themeFile] ∧ themeFile.nodeId ≠ styledPage.nodeId
    ∧ styledPage.language.matchers.dottedImports = false ∧ IsPlain "theme.dark".toList
    ∧ IsTail "theme.dark".toList (withoutExtension themeFile.nodeId).toList
    ∧ Language.isKnownExtension (extension "theme.dark").toList = false
    ∧ ∃ found, matchImport (.ofOutline styledPage) { target := "./theme.dark" }
        ([styledPage, themeFile].map .ofOutline) = some (found, .path) := by
  have hmem : themeFile ∈ [styledPage, themeFile] := by decide
  have hother : themeFile.nodeId ≠ styledPage.nodeId := by decide +kernel
  have hplain : IsPlain "theme.dark".toList := .last (by decide +kernel)
  have htail : IsTail "theme.dark".toList (withoutExtension themeFile.nodeId).toList :=
    Or.inr (List.isSuffixOf_iff_suffix.mp (by decide +kernel))
  have hunknown : Language.isKnownExtension (extension "theme.dark").toList = false := by
    decide +kernel
  exact ⟨hmem, hother, rfl, hplain, htail, hunknown,
    (matchImport_of_namedPath hmem hother rfl hplain (Or.inr htail) (Or.inr rfl)).2
      (Or.inr hunknown)⟩

/-- The style sheet is not, though the import is the end of its path. -/
theorem matchImport_sheet_eq_none :
    sheetFile ∈ [styledPage, sheetFile] ∧ sheetFile.nodeId ≠ styledPage.nodeId
    ∧ styledPage.language.matchers.dottedImports = false ∧ IsPlain "styles.css".toList
    ∧ IsTail "styles.css".toList (withoutExtension sheetFile.nodeId).toList
    ∧ (Candidate.ofOutline sheetFile).stem ≠ Candidate.packageStem
    ∧ matchImport (.ofOutline styledPage) { target := "./styles.css" }
        ([styledPage, sheetFile].map .ofOutline) = none :=
  ⟨by decide, by decide +kernel, rfl, .last (by decide +kernel),
    Or.inr (List.isSuffixOf_iff_suffix.mp (by decide +kernel)), by decide +kernel,
    matchImport_eq_none_iff.mpr (by decide +kernel)⟩

end SourceAtlas
