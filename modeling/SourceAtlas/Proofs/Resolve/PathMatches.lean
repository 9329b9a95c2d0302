import SourceAtlas.Proofs.Path.Name
import SourceAtlas.Proofs.Resolve.PathImports

/-! # Files that are found by their paths

    The first tier compares the path of an import with the whole path of a file,
    then, without its extension, with the file's path without extension, and only
    then goes by the name of a type.  What it finds by a path ends in the same
    segment as the import (`baseChars_of_pathsMeet`), so the two have a segment in
    common unless that last one is empty.  It is so exactly if the import ends in
    a slash, and the file is then one that stands for the package of the root,
    since its path without its name is empty (`path_matches_share_segments`).

    The whole paths come first, and all files are tried before anything else is,
    so a file that alone has a path that fits is found in every order of the
    files (`matchImport_of_onlyPath`). -/

namespace SourceAtlas

open SourceAtlas.Path Text

/-- The path of an import ends in a slash. -/
def Import.EndsInSlash (i : Import) (l : Language) : Prop :=
  (fullModuleKey i.target l).getLast? = some '/'

instance (i : Import) (l : Language) : Decidable (i.EndsInSlash l) :=
  inferInstanceAs (Decidable (_ = _))

namespace Candidate

/-- The paths of an import and of a file, each with its extension or without, end in the same
    segment, which is not empty. -/
def SharesSegment (c : Candidate) (i : Import) (l : Language) : Prop :=
  ∃ wanted ∈ [fullModuleKey i.target l, moduleKey i.target l], ∃ path ∈ [c.id.toList, c.key],
    baseChars wanted = baseChars path ∧ baseChars wanted ≠ []

instance (c : Candidate) (i : Import) (l : Language) : Decidable (c.SharesSegment i l) :=
  inferInstanceAs (Decidable (∃ wanted ∈ [_, _], ∃ path ∈ [_, _], _))

/-- The file stands for its package, and that is the root. -/
def IsRootPackage (c : Candidate) : Prop :=
  c.stem = packageStem ∧ ∀ d ∈ c.directory.toList, d = '/'

end Candidate

variable {l : Language} {i : Import} {c : Candidate}

/-! ## Last segments -/

/-- Without its extension an import ends in a slash if it does so with it. -/
theorem baseChars_moduleKey_eq_nil_iff :
    baseChars (moduleKey i.target l) = [] ↔ baseChars (fullModuleKey i.target l) = [] := by
  unfold moduleKey
  cases hknown : Language.isKnownExtension (splitExtensionChars (fullModuleKey i.target l)).2 with
  | true => rw [dropKnownExtension_of_known hknown, baseChars_withoutExtension_eq_nil_iff]
  | false => rw [dropKnownExtension_of_unknown hknown]

/-- An import that names a file has a last segment unless it ends in a slash. -/
theorem endsInSlash_iff (h : NamesPath i l c) :
    i.EndsInSlash l ↔ baseChars (fullModuleKey i.target l) = [] := by
  rw [baseChars_eq_nil_iff, Import.EndsInSlash]
  refine (or_iff_right fun hnil => ?_).symm
  rcases h with ⟨hwanted, -⟩ | ⟨hwanted, -⟩
  · exact hwanted hnil
  · refine hwanted ?_
    rw [moduleKey, hnil]
    rfl

/-- The last segments of an import and of a file that it names agree, so they share one unless it
    is empty. -/
theorem sharesSegment_iff (h : NamesPath i l c) : c.SharesSegment i l ↔ ¬ i.EndsInSlash l := by
  rw [endsInSlash_iff h]
  constructor
  · rintro ⟨wanted, hwanted, -, -, -, hne⟩ hnil
    rcases List.mem_pair.mp hwanted with rfl | rfl
    · exact hne hnil
    · exact hne (baseChars_moduleKey_eq_nil_iff.mpr hnil)
  · intro hne
    rcases h with ⟨-, hmeet⟩ | ⟨-, hmeet⟩
    · exact ⟨_, List.mem_pair.mpr (Or.inl rfl), _, List.mem_pair.mpr (Or.inl rfl),
        (baseChars_of_pathsMeet hmeet).symm, hne⟩
    · exact ⟨_, List.mem_pair.mpr (Or.inr rfl), _, List.mem_pair.mpr (Or.inr rfl),
        (baseChars_of_pathsMeet hmeet).symm,
        fun hnil => hne (baseChars_moduleKey_eq_nil_iff.mp hnil)⟩

/-! ## Files without a last segment -/

section

variable {ν : Type} {o : Outline ν}

theorem stem_eq_baseChars (o : Outline ν) :
    (Candidate.ofOutline o).stem = baseChars (splitExtensionChars o.nodeId.toList).1 := by
  dsimp only [Candidate.ofOutline]
  exact withoutExtension_baseChars _

theorem directory_eq_parentChars (o : Outline ν) :
    (Candidate.ofOutline o).directory.toList = parentChars o.nodeId.toList :=
  String.toList_ofList

/-- The key of a file is its directory if it stands for its package, and else its path without
    extension. -/
theorem key_eq_ite (o : Outline ν) :
    (Candidate.ofOutline o).key
      = if (Candidate.ofOutline o).stem = Candidate.packageStem
        then (Candidate.ofOutline o).directory.toList
        else (splitExtensionChars o.nodeId.toList).1 := by
  rw [stem_eq_baseChars, directory_eq_parentChars, ← parentChars_withoutExtension, key_ofOutline]
  rfl

/-- A key without a last segment is that of a path without one, or of the package of the root. -/
theorem isRootPackage_of_key (h : baseChars (Candidate.ofOutline o).key = []) :
    baseChars o.nodeId.toList = [] ∨ (Candidate.ofOutline o).IsRootPackage := by
  rw [key_eq_ite] at h
  by_cases hstem : (Candidate.ofOutline o).stem = Candidate.packageStem
  · rw [if_pos hstem, directory_eq_parentChars] at h
    refine Or.inr ⟨hstem, ?_⟩
    rw [directory_eq_parentChars]
    exact eq_slash_of_mem_parentChars h
  · rw [if_neg hstem, baseChars_withoutExtension_eq_nil_iff] at h
    exact Or.inl h

/-- Only such a file is named by an import that ends in a slash. -/
theorem isRootPackage_of_names (h : NamesPath i l (.ofOutline o)) (hslash : i.EndsInSlash l) :
    baseChars o.nodeId.toList = [] ∨ (Candidate.ofOutline o).IsRootPackage := by
  have hnil := (endsInSlash_iff h).mp hslash
  rcases h with ⟨-, hmeet⟩ | ⟨-, hmeet⟩
  · exact Or.inl ((baseChars_of_pathsMeet hmeet).trans hnil)
  · refine isRootPackage_of_key ?_
    rw [baseChars_of_pathsMeet hmeet, baseChars_moduleKey_eq_nil_iff, hnil]

/-- The package of the root is named by every import that ends in a slash. -/
theorem namesPath_of_endsInSlash (hstem : (Candidate.ofOutline o).stem = Candidate.packageStem)
    (hroot : (Candidate.ofOutline o).directory = "") (hslash : i.EndsInSlash l) :
    NamesPath i l (.ofOutline o) := by
  have hkey : (Candidate.ofOutline o).key = [] := by
    rw [key_eq_ite, if_pos hstem, hroot]
    rfl
  have hbase : baseChars (fullModuleKey i.target l) = [] := baseChars_eq_nil_iff.mpr (Or.inr hslash)
  have hmodule : moduleKey i.target l = fullModuleKey i.target l := by
    refine dropKnownExtension_of_unknown ?_
    have hparts := baseChars_splitExtension (fullModuleKey i.target l)
    rw [hbase] at hparts
    rw [(List.append_eq_nil_iff.mp hparts.symm).2]
    decide
  obtain ⟨front, hfront⟩ := List.getLast?_eq_some_iff.mp hslash
  refine Or.inr ⟨?_, ?_⟩
  · rw [hmodule, hfront]
    exact List.concat_ne_nil _ _
  · -- The key is what follows the slash at the end.
    rw [hmodule, hkey, hfront, pathsMeet, Bool.or_eq_true]
    exact Or.inr (List.isSuffixOf_iff_suffix.mpr (List.suffix_append ..))

end

/-- **PATH MATCHES SHARE A SEGMENT**: a file that is found by its path has its last segment in
    common with the import, unless the import ends in a slash. Then the file's own path ends in a
    slash, or the file stands for the package of the root; and wherever there is another file that
    stands for the package of the root, such an import is matched by path with a file that it shares
    no segment with. -/
theorem path_matches_share_segments {ν : Type} (outlines : List (Outline ν))
    (importer : Outline ν) (i : Import) :
    (∀ found, matchNamedPath importer.language i
        (others (outlines.map .ofOutline) (.ofOutline importer)) = some found →
      matchImport (.ofOutline importer) i (outlines.map .ofOutline) = some (found, .path)
      ∧ (found.SharesSegment i importer.language ↔ ¬ i.EndsInSlash importer.language)
      ∧ (i.EndsInSlash importer.language →
        baseChars found.id.toList = [] ∨ found.IsRootPackage))
    ∧ ∀ file ∈ outlines, file.nodeId ≠ importer.nodeId →
      (Candidate.ofOutline file).stem = Candidate.packageStem →
      (Candidate.ofOutline file).directory = "" → i.EndsInSlash importer.language →
      ∃ found, matchImport (.ofOutline importer) i (outlines.map .ofOutline) = some (found, .path)
        ∧ ¬ found.SharesSegment i importer.language := by
  constructor
  · intro found h
    have hpath := matchPath_of_matchNamedPath h
    have hnames := namesPath_of_matchNamedPath h
    refine ⟨matchImport_of_matchPath hpath, sharesSegment_iff hnames, fun hslash => ?_⟩
    obtain ⟨o, -, rfl⟩ := List.mem_map.mp (mem_others.mp (mem_of_matchPath hpath)).1
    exact isRootPackage_of_names hnames hslash
  · intro file hfile hother hstem hroot hslash
    have hmem : Candidate.ofOutline file ∈ others (outlines.map .ofOutline) (.ofOutline importer) :=
      mem_others.mpr ⟨List.mem_map_of_mem hfile, hother⟩
    obtain ⟨found, hfound⟩ :=
      exists_matchNamedPath_of_names hmem (namesPath_of_endsInSlash hstem hroot hslash)
    refine ⟨found, matchImport_of_matchPath (matchPath_of_matchNamedPath hfound), fun hshares => ?_⟩
    exact (sharesSegment_iff (namesPath_of_matchNamedPath hfound)).mp hshares hslash

/-! ## A directory taken for a package -/

/-- A page that imports a module and the directory in which it lies. -/
def libraryPage : Outline where
  path := "web/page.ts"
  language := .typescript
  imports := [{ target := "./lib/util" }, { target := "./lib/" }]
  lineCount := 2
  commentCount := 0

/-- The module. -/
def utilModule : Outline where
  path := "web/lib/util.ts"
  language := .typescript
  lineCount := 1
  commentCount := 0

/-- The package of the root, of another language. -/
def rootPackage : Outline where
  path := "__init__.py"
  language := .python
  lineCount := 1
  commentCount := 0

/-- The import of the module shares its last segment, and that of the directory shares none with the
    file that it is matched with. -/
theorem path_matches_share_segments_util :
    (∃ found, matchNamedPath .typescript { target := "./lib/util" }
        (others ([libraryPage, utilModule, rootPackage].map .ofOutline) (.ofOutline libraryPage))
          = some found
      ∧ found.SharesSegment { target := "./lib/util" } .typescript)
    ∧ rootPackage ∈ [libraryPage, utilModule, rootPackage]
    ∧ rootPackage.nodeId ≠ libraryPage.nodeId
    ∧ (Candidate.ofOutline rootPackage).stem = Candidate.packageStem
    ∧ (Candidate.ofOutline rootPackage).directory = ""
    ∧ Import.EndsInSlash { target := "./lib/" } .typescript
    ∧ ∃ found, matchImport (.ofOutline libraryPage) { target := "./lib/" }
        ([libraryPage, utilModule, rootPackage].map .ofOutline) = some (found, .path)
      ∧ ¬ found.SharesSegment { target := "./lib/" } .typescript := by
  have hmem : rootPackage ∈ [libraryPage, utilModule, rootPackage] := by decide
  have hother : rootPackage.nodeId ≠ libraryPage.nodeId := by decide +kernel
  have hstem : (Candidate.ofOutline rootPackage).stem = Candidate.packageStem := by decide +kernel
  have hroot : (Candidate.ofOutline rootPackage).directory = "" := by decide +kernel
  have hslash : Import.EndsInSlash { target := "./lib/" } .typescript := by decide +kernel
  obtain ⟨found, hfound⟩ := Option.isSome_iff_exists.mp (show (matchNamedPath .typescript
    { target := "./lib/util" } (others ([libraryPage, utilModule, rootPackage].map .ofOutline)
      (.ofOutline libraryPage))).isSome = true by decide +kernel)
  refine ⟨⟨found, hfound, ?_⟩, hmem, hother, hstem, hroot, hslash, ?_⟩
  · have hall := (path_matches_share_segments [libraryPage, utilModule, rootPackage] libraryPage
      { target := "./lib/util" }).1 found hfound
    exact hall.2.1.mpr (by decide +kernel)
  · exact (path_matches_share_segments [libraryPage, utilModule, rootPackage] libraryPage
      { target := "./lib/" }).2 rootPackage hmem hother hstem hroot hslash

/-- The page and the package have no segment in common, but the import of a directory is matched
    with the package by its path. -/
theorem not_sharesSegment_rootPackage :
    ∃ found, matchNamedPath .typescript { target := "./lib/" }
        (others ([libraryPage, rootPackage].map .ofOutline) (.ofOutline libraryPage)) = some found
      ∧ found.id = "__init__.py" ∧ ¬ found.SharesSegment { target := "./lib/" } .typescript := by
  have hfound : (matchNamedPath .typescript { target := "./lib/" }
      (others ([libraryPage, rootPackage].map .ofOutline) (.ofOutline libraryPage))).any
        (fun c => decide (c.id = "__init__.py"
          ∧ ¬ c.SharesSegment { target := "./lib/" } .typescript)) = true := by decide +kernel
  obtain ⟨found, hfound, hwrong⟩ := (Option.any_eq_true _ _).mp hfound
  exact ⟨found, hfound, of_decide_eq_true hwrong⟩

/-! ## Files that alone fit -/

/-- **ONE FILE IS FOUND IN ANY ORDER**: where the whole path of an import fits the paths of files
    with one identifier only, such a file is what the import means, matched by path, whatever the
    order of the files is and whatever else fits them. -/
theorem matchImport_of_onlyPath {ν : Type} {outlines outlines' : List (Outline ν)}
    {importer file : Outline ν} {i : Import}
    (hwanted : fullModuleKey i.target importer.language ≠ []) (hfile : file ∈ outlines)
    (hother : file.nodeId ≠ importer.nodeId)
    (hfits : pathsMeet file.nodeId.toList (fullModuleKey i.target importer.language) = true)
    (honly : ∀ o ∈ outlines, o.nodeId ≠ importer.nodeId →
      pathsMeet o.nodeId.toList (fullModuleKey i.target importer.language) = true →
      o.nodeId = file.nodeId)
    (hperm : outlines'.Perm outlines) :
    ∃ o ∈ outlines, o.nodeId = file.nodeId
      ∧ matchImport (.ofOutline importer) i (outlines'.map .ofOutline)
        = some (.ofOutline o, .path) := by
  have hmem : Candidate.ofOutline file ∈ others (outlines'.map .ofOutline) (.ofOutline importer) :=
    mem_others.mpr ⟨List.mem_map_of_mem (hperm.mem_iff.mpr hfile), hother⟩
  obtain ⟨found, hfound⟩ : ∃ found, matchFullPath importer.language i
      (others (outlines'.map .ofOutline) (.ofOutline importer)) = some found :=
    exists_find?_wanted_iff.mpr ⟨_, hmem, hwanted, hfits⟩
  -- Whatever is found is one of the files and fits as well.
  obtain ⟨hin, hne⟩ := mem_others.mp (mem_of_matchFullPath hfound)
  obtain ⟨o, ho, rfl⟩ := List.mem_map.mp hin
  exact ⟨o, hperm.mem_iff.mp ho,
    honly o (hperm.mem_iff.mp ho) hne (fits_of_find?_wanted hfound).2,
    matchImport_of_matchPath (matchPath_of_matchFullPath hfound)⟩

/-- A program that includes a header. -/
def headerUser : Outline where
  path := "src/main.c"
  language := .c
  imports := [{ target := "util.h" }]
  lineCount := 1
  commentCount := 0

/-- The source file of the header, which fits the import without its extension. -/
def utilSource : Outline where
  path := "src/util.c"
  language := .c
  lineCount := 1
  commentCount := 0

/-- The header. -/
def utilHeader : Outline where
  path := "src/util.h"
  language := .c
  lineCount := 1
  commentCount := 0

/-- The header is found though its source file comes first. -/
theorem matchImport_of_onlyPath_header :
    fullModuleKey "util.h" .c ≠ [] ∧ utilHeader ∈ [utilHeader, utilSource, headerUser]
    ∧ utilHeader.nodeId ≠ headerUser.nodeId
    ∧ pathsMeet utilHeader.nodeId.toList (fullModuleKey "util.h" .c) = true
    ∧ (∀ o ∈ [utilHeader, utilSource, headerUser], o.nodeId ≠ headerUser.nodeId →
      pathsMeet o.nodeId.toList (fullModuleKey "util.h" .c) = true → o.nodeId = utilHeader.nodeId)
    ∧ [utilSource, headerUser, utilHeader].Perm [utilHeader, utilSource, headerUser]
    ∧ ∃ o ∈ [utilHeader, utilSource, headerUser], o.nodeId = utilHeader.nodeId
      ∧ matchImport (.ofOutline headerUser) { target := "util.h" }
        ([utilSource, headerUser, utilHeader].map .ofOutline) = some (.ofOutline o, .path) := by
  have hwanted : fullModuleKey "util.h" .c ≠ [] := by decide +kernel
  have hfile : utilHeader ∈ [utilHeader, utilSource, headerUser] := by decide
  have hother : utilHeader.nodeId ≠ headerUser.nodeId := by decide +kernel
  have hfits : pathsMeet utilHeader.nodeId.toList (fullModuleKey "util.h" .c) = true := by
    decide +kernel
  have honly : ∀ o ∈ [utilHeader, utilSource, headerUser], o.nodeId ≠ headerUser.nodeId →
      pathsMeet o.nodeId.toList (fullModuleKey "util.h" .c) = true →
      o.nodeId = utilHeader.nodeId := by decide +kernel
  have hperm : [utilSource, headerUser, utilHeader].Perm [utilHeader, utilSource, headerUser] := by
    decide
  exact ⟨hwanted, hfile, hother, hfits, honly, hperm,
    matchImport_of_onlyPath hwanted hfile hother hfits honly hperm⟩

end SourceAtlas
