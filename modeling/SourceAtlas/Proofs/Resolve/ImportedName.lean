import SourceAtlas.Proofs.Path.Name
import SourceAtlas.Proofs.Resolve.Justified
import SourceAtlas.Proofs.Resolve.PathImports
import SourceAtlas.Proofs.Text.Case
import SourceAtlas.Proofs.Text.Strip

/-! # Imports that name files by their extensions

    An import without symbols goes by the last segment of its module, and a dot
    separates segments as well as a slash does.  So where the module is the path
    of a file, what is taken for the imported name is the file's extension
    (`Import.bareName_of_extension`): the third tier looks for files that mention
    the extension, and the second one prefers a file that is named after it.

    Files that mention it need not mention the name of the imported file, since
    nothing else about them matters when neither their paths nor their namespaces
    are named by the import (`matchImport_farSibling`). -/

namespace SourceAtlas

open SourceAtlas.Path Text

/-! ## Known extensions -/

/-- What separates names from each other, or lines. -/
def nameMarks : List Char := ['.', ':', '/', '\n']

/-- A dot, and behind it something without further marks. -/
def Language.IsDotted (ext : List Char) : Prop :=
  ext.head? = some '.' ∧ ext.tail ≠ [] ∧ ∀ mark ∈ nameMarks, mark ∉ ext.tail

instance : DecidablePred Language.IsDotted := fun ext =>
  decidable_of_iff ((ext.head? == some '.' && !ext.tail.isEmpty
      && nameMarks.all fun mark => !ext.tail.contains mark) = true)
    (by simp only [Language.IsDotted, Bool.and_eq_true, beq_iff_eq, Bool.not_eq_true',
      List.isEmpty_eq_false_iff, List.all_eq_true, List.contains_eq_mem, decide_eq_false_iff_not,
      and_assoc, ne_eq])

theorem isMark_of_mem_nameMarks {mark : Char} (h : mark ∈ nameMarks) : IsMark mark := by
  simp only [nameMarks, List.mem_cons, List.not_mem_nil, or_false] at h
  rcases h with rfl | rfl | rfl | rfl <;> decide

/-- A known extension is a dot and a word. -/
theorem Language.exists_word {ext : List Char} (h : isKnownExtension ext = true) :
    ∃ word, ext = '.' :: word ∧ word ≠ [] ∧ ∀ mark ∈ nameMarks, mark ∉ word := by
  have hall : (extensions.all fun p => IsDotted p.1.toList) = true := by decide +kernel
  obtain ⟨p, hp, hext⟩ := List.lookup_isSome_iff.mp h
  -- It is so in small letters, and marks are the same there.
  obtain ⟨hdot, hne, hmarks⟩ := of_decide_eq_true (List.all_eq_true.mp hall p hp)
  rw [← beq_iff_eq.mp hext, String.toList_ofList] at hdot hne hmarks
  obtain ⟨small, hsmall⟩ := List.head?_eq_some_iff.mp hdot
  rw [hsmall, List.tail_cons] at hne hmarks
  obtain ⟨word, rfl, hword⟩ := exists_of_lowerAfter_eq_cons (by decide) hsmall
  refine ⟨word, rfl, ?_, fun mark hmark hmem => hmarks mark hmark ?_⟩
  · rintro rfl
    exact hne hword.symm
  · rw [← hword]
    exact (mem_lowerAfter_iff (isMark_of_mem_nameMarks hmark)).mpr hmem

/-! ## The name of an import -/

theorem Text.dropEnd_eq_self {p : Char → Bool} {cs : List Char}
    (h : ∀ c ∈ cs.getLast?, p c = false) : dropEnd p cs = cs := by
  refine List.rdropWhile_eq_self_iff.mpr fun hne => ?_
  rw [h _ (List.getLast?_eq_getLast_of_ne_nil hne)]
  exact Bool.false_ne_true

theorem afterLast_slash (cs : List Char) : afterLast ['/'] cs = baseChars cs := by
  rw [afterLast, afterLast?_singleton, baseChars]
  cases splitLast '/' cs <;> rfl

/-- **THE EXTENSION IS THE NAME**: an import without symbols whose module is the path of a file with
    a known extension goes by that extension. -/
theorem Import.bareName_of_extension {i : Import} (hsymbols : i.symbols = [])
    {stem ext : List Char} (hpath : baseChars (replaceChar '\\' '/' i.target.toList) = stem ++ ext)
    (hext : Language.isKnownExtension ext = true) : ext = '.' :: i.bareName.toList := by
  obtain ⟨word, rfl, -, hmarks⟩ := Language.exists_word hext
  have hdot : '.' ∉ word := hmarks '.' (by decide)
  have hcolon : ':' ∉ word := hmarks ':' (by decide)
  have hkept : dropEnd (· = '/') (replaceChar '\\' '/' i.target.toList)
      = replaceChar '\\' '/' i.target.toList := by
    refine dropEnd_eq_self fun c hc => decide_eq_false ?_
    rintro rfl
    rw [baseChars_eq_nil_iff.mpr (Or.inr hc)] at hpath
    exact List.cons_ne_nil _ _ (List.append_eq_nil_iff.mp hpath.symm).2
  -- The cuts at slashes and pairs of colons leave the extension, and that at the last dot only it.
  have hpair : afterLast [':', ':'] (stem ++ '.' :: word)
      = afterLast [':', ':'] stem ++ '.' :: word := by
    refine afterLast_append (List.cons_ne_nil _ _) (fun c hc hmem => ?_) stem
    obtain rfl : c = ':' := by simpa using hmem
    rcases List.mem_cons.mp hc with hc | hc
    · exact absurd hc (by decide)
    · exact hcolon hc
  have hlast : afterLast [':'] word = word :=
    afterLast_of_avoids (List.cons_ne_nil _ _) fun c hc hmem =>
      hcolon (List.mem_singleton.mp hmem ▸ hc)
  have hname : i.bareName = .ofList word := by
    rw [bareName, hsymbols]
    dsimp only
    rw [bareName.lastSegment, hkept]
    simp only [List.foldl_cons, List.foldl_nil]
    rw [afterLast_slash, hpath, hpair, afterLast_singleton hdot, hlast]
  rw [hname, String.toList_ofList]

/-! ## What is found by the name -/

/-- The files of a language in the namespaces that an import names, in order. -/
def inNamedScopes (l : Language) (i : Import) (tried : List Candidate) : List Candidate :=
  tried.filter fun c => c.scope.any (wantedScopes i).contains && c.language = l

/-- The second tier passes over the first of these files only for one that has the imported name. -/
theorem stem_of_matchScope {l : Language} {i : Import} {tried : List Candidate} {c : Candidate}
    (h : matchScope l i tried = some c) (hlater : (inNamedScopes l i tried).head? ≠ some c) :
    c.stem = i.bareName.toList := by
  simp only [matchScope, Option.orElse_eq_orElse, Option.orElse_eq_or, Option.or_eq_some_iff] at h
  rcases h with h | ⟨-, h⟩
  · have hfits := List.find?_some h
    exact of_decide_eq_true hfits
  · exact absurd h hlater

theorem matchScope_of_matchImport {batch : List Candidate} {importer found : Candidate} {i : Import}
    (h : matchImport importer i batch = some (found, .scope)) :
    matchScope importer.language i (others batch importer) = some found := by
  rcases matchImport_cases h with ⟨hlink, -⟩ | ⟨-, -, hfound⟩ | ⟨hlink, -⟩
  · exact Link.noConfusion hlink
  · exact hfound
  · exact Link.noConfusion hlink

theorem matchMention_of_matchImport {batch : List Candidate} {importer found : Candidate}
    {i : Import} (h : matchImport importer i batch = some (found, .mention)) :
    matchMention importer i (others batch importer) = some found := by
  rcases matchImport_cases h with ⟨hlink, -⟩ | ⟨hlink, -⟩ | ⟨-, -, -, hfound⟩
  · exact Link.noConfusion hlink
  · exact Link.noConfusion hlink
  · exact hfound

theorem matchImport_of_matchMention {batch : List Candidate} {importer found : Candidate}
    {i : Import} (hpath : matchPath importer.language i (others batch importer) = none)
    (hscope : matchScope importer.language i (others batch importer) = none)
    (h : matchMention importer i (others batch importer) = some found) :
    matchImport importer i batch = some (found, .mention) := by
  unfold others at hpath hscope h
  rw [matchImport, hpath, hscope, h]
  rfl

/-! ## Names too long to be named -/

theorem length_trim_le (p : Char → Bool) (cs : List Char) : (trim p cs).length ≤ cs.length :=
  (infix_of_trim p cs).length_le

theorem length_replaceChar (old new : Char) (cs : List Char) :
    (replaceChar old new cs).length = cs.length :=
  List.length_map _

theorem length_replaceColons_le (new : Char) (cs : List Char) :
    (replaceColons new cs).length ≤ cs.length := by
  fun_induction replaceColons new cs with
  | case1 rest ih =>
      simp only [List.length_cons]
      omega
  | case2 c rest _ ih => exact Nat.succ_le_succ ih
  | case3 => exact Nat.le_refl 0

theorem length_dropSuffix_le (mark cs : List Char) : (dropSuffix mark cs).length ≤ cs.length := by
  unfold dropSuffix
  split
  · exact List.length_take_le' ..
  · exact Nat.le_refl _

theorem length_undot_le (cs : List Char) : (undot cs).length ≤ cs.length := by
  rw [undot, length_replaceChar]
  exact length_dropSuffix_le ..

theorem length_dropRelative_le (cs : List Char) : (dropRelative cs).length ≤ cs.length := by
  fun_induction dropRelative cs with
  | case1 rest ih | case2 rest ih | case3 rest ih | case4 rest ih =>
      simp only [List.length_cons]
      omega
  | case5 cs => exact Nat.le_refl _

theorem length_bareModule_le (cs : List Char) : (bareModule cs).length ≤ cs.length :=
  (length_trim_le ..).trans (length_trim_le ..)

/-- No key is longer than the module that it is made from. -/
theorem length_fullModuleKey_le (target : String) (l : Language) :
    (fullModuleKey target l).length ≤ target.toList.length := by
  have hbare : (replaceChar '\\' '/' (bareModule target.toList)).length ≤ target.toList.length := by
    rw [length_replaceChar]
    exact length_bareModule_le _
  have hkey : ∀ cs : List Char, cs.length ≤ target.toList.length →
      ((dropRelative (replaceColons '/' cs)).dropWhile (· = '/')).length
        ≤ target.toList.length := fun cs hcs =>
    (List.length_dropWhile_le ..).trans <| (length_dropRelative_le _).trans <|
      (length_replaceColons_le ..).trans hcs
  have hdotted : (if l.matchers.dottedImports
      then undot (replaceChar '\\' '/' (bareModule target.toList))
      else replaceChar '\\' '/' (bareModule target.toList)).length ≤ target.toList.length := by
    split
    · exact (length_undot_le _).trans hbare
    · exact hbare
  unfold fullModuleKey
  dsimp only
  split
  · exact (isTail_dropCrateRoots _).suffix.length_le.trans (hkey _ hdotted)
  · exact hkey _ hdotted

theorem length_moduleKey_le (target : String) (l : Language) :
    (moduleKey target l).length ≤ target.toList.length := by
  refine Nat.le_trans ?_ (length_fullModuleKey_le target l)
  unfold moduleKey
  cases hknown : Language.isKnownExtension (splitExtensionChars (fullModuleKey target l)).2 with
  | true =>
      have hparts := congrArg List.length (append_splitExtension (fullModuleKey target l))
      rw [List.length_append] at hparts
      rw [dropKnownExtension_of_known hknown]
      omega
  | false =>
      rw [dropKnownExtension_of_unknown hknown]

/-- Nor is a namespace that an import names. -/
theorem length_le_of_mem_wantedScopes {i : Import} {key : String} (h : key ∈ wantedScopes i) :
    key.toList.length ≤ i.target.toList.length := by
  have hmodule : i.moduleScope.length ≤ i.target.toList.length := by
    refine (length_dropSuffix_le ..).trans ((length_trim_le ..).trans ?_)
    rw [length_replaceChar]
    refine (length_replaceColons_le ..).trans ?_
    rw [length_replaceChar]
    exact length_bareModule_le _
  cases mem_wantedScopes h with
  | whole _ hwhole => exact hwhole ▸ hmodule
  | parent last _ hparent _ =>
      rw [hparent, List.length_append] at hmodule
      omega

/-- A path is not that of a long name. -/
theorem not_pathsMeet_of_length_lt {file wanted : List Char} (hslash : '/' ∉ file)
    (hlength : wanted.length < file.length) : pathsMeet file wanted = false := by
  rw [Bool.eq_false_iff]
  intro hmeet
  rw [pathsMeet, Bool.or_eq_true, Bool.or_eq_true, decide_eq_true_eq] at hmeet
  rcases hmeet with (rfl | hmeet) | hmeet
  · exact Nat.lt_irrefl _ hlength
  · exact hslash ((List.isSuffixOf_iff_suffix.mp hmeet).subset (List.mem_cons_self ..))
  · have hle := (List.isSuffixOf_iff_suffix.mp hmeet).length_le
    rw [List.length_cons] at hle
    omega

/-! ## A file that only the name leads to -/

/-- A name that is longer than the module of an import. -/
def Import.longName (i : Import) : List Char :=
  'x' :: List.replicate (i.target.toList.length + Candidate.packageStem.length) 'x'

section

variable {i : Import}

theorem not_mem_longName {c : Char} (hc : c ≠ 'x') : c ∉ i.longName := by
  intro hmem
  rcases List.mem_cons.mp hmem with h | h
  · exact hc h
  · exact hc (List.eq_of_mem_replicate h)

theorem length_longName (i : Import) : i.target.toList.length < i.longName.length := by
  rw [Import.longName, List.length_cons, List.length_replicate]
  omega

variable {ν : Type}

theorem scope_of_longName {o : Outline ν} (h : o.scope = some (.ofList i.longName)) :
    (Candidate.ofOutline o).scope = some (.ofList i.longName) := by
  have hne : String.ofList i.longName ≠ "" := fun hnil =>
    List.cons_ne_nil _ _ (String.ofList_eq_empty_iff.mp hnil)
  refine scope_ofOutline_eq_some_iff.mpr ⟨_, h, hne, ?_⟩
  have havoids : ∀ c, c ≠ 'x' → c ∉ i.longName := fun c => not_mem_longName
  rw [namespaceKey, String.toList_ofList, namespaceKeyChars,
    replaceChar_of_not_mem (havoids _ (by decide)),
    replaceColons_of_not_mem (havoids _ (by decide)),
    replaceChar_of_not_mem (havoids _ (by decide)), trim_eq_self]
  intro c hc
  refine decide_eq_false ?_
  rintro rfl
  exact havoids _ (by decide) hc

variable [Inhabited ν]

/-- A program with an import, in a namespace that the import does not name. -/
def farImporter (i : Import) : Outline ν where
  path := "index.php"
  language := .php
  imports := [i]
  scope := some (.ofList i.longName)
  lineCount := default
  commentCount := default

/-- A file of the same namespace with a text, at a path that the import does not name. -/
def farSibling (i : Import) (text : List Char) : Outline ν where
  path := .ofList i.longName
  language := .php
  scope := some (.ofList i.longName)
  content := .ofList text
  lineCount := default
  commentCount := default

variable {text : List Char}

theorem nodeId_farSibling : (farSibling i text : Outline ν).nodeId.toList = i.longName := by
  show (Path.normalize (.ofList i.longName)).toList = i.longName
  rw [Path.normalize, String.toList_ofList, String.toList_ofList, normalizeChars,
    replaceChar_of_not_mem (not_mem_longName (by decide))]
  rfl

theorem key_farSibling :
    (Candidate.ofOutline (farSibling i text : Outline ν)).key = i.longName := by
  have hbase : baseChars i.longName = i.longName :=
    baseChars_of_not_mem (not_mem_longName (by decide))
  have hwhole : i.longName = [] ++ baseChars i.longName := hbase.symm
  have hdots : splitExtensionChars i.longName = (i.longName, []) := by
    rw [splitExtensionChars_eq hwhole, hbase, splitName_of_not_mem (not_mem_longName (by decide))]
    rfl
  have hpackage : i.longName ≠ Candidate.packageStem := by
    intro h
    have hlength := congrArg List.length h
    rw [Import.longName, List.length_cons, List.length_replicate] at hlength
    omega
  rw [key_ofOutline, nodeId_farSibling, Candidate.keyOf, hdots]
  exact if_neg (hbase.symm ▸ hpackage)

/-- Its path is not named by the import. -/
theorem matchPath_farSibling :
    matchPath .php i [Candidate.ofOutline (farSibling i text : Outline ν)] = none := by
  have hslash : '/' ∉ i.longName := not_mem_longName (by decide)
  refine matchPath_eq_none (fun c hc => ?_) ?_
  · rw [List.mem_singleton.mp hc, NamesPath, id_ofOutline, nodeId_farSibling, key_farSibling]
    rintro (⟨-, hmeet⟩ | ⟨-, hmeet⟩)
    · exact nomatch hmeet.symm.trans (not_pathsMeet_of_length_lt hslash
        ((length_fullModuleKey_le ..).trans_lt (length_longName i)))
    · exact nomatch hmeet.symm.trans (not_pathsMeet_of_length_lt hslash
        ((length_moduleKey_le ..).trans_lt (length_longName i)))
  · rw [matchType]
    exact if_neg (by decide)

/-- Nor is its namespace. -/
theorem matchScope_farSibling :
    matchScope .php i [Candidate.ofOutline (farSibling i text : Outline ν)] = none := by
  cases h : matchScope .php i [Candidate.ofOutline (farSibling i text : Outline ν)] with
  | none => rfl
  | some c =>
      obtain ⟨-, key, hkey, hscope⟩ := fits_of_matchScope h
      rw [List.mem_singleton.mp (mem_of_matchScope h), scope_of_longName rfl] at hscope
      have hlength := length_le_of_mem_wantedScopes hkey
      rw [← Option.some.inj hscope, String.toList_ofList] at hlength
      exact absurd (length_longName i) (Nat.not_lt_of_le hlength)

/-- It is all that the import is matched with. -/
theorem others_farSibling :
    others ([farImporter i, farSibling i text].map (.ofOutline : Outline ν → Candidate))
      (.ofOutline (farImporter i : Outline ν)) = [.ofOutline (farSibling i text : Outline ν)] := by
  have hother : (Candidate.ofOutline (farSibling i text : Outline ν)).id
      ≠ (Candidate.ofOutline (farImporter i : Outline ν)).id := by
    intro h
    have hid : 'i' ∈ (farImporter i : Outline ν).nodeId.toList := by
      show 'i' ∈ (Path.normalize "index.php").toList
      decide +kernel
    rw [id_ofOutline, id_ofOutline] at h
    rw [← h, nodeId_farSibling] at hid
    exact not_mem_longName (by decide) hid
  rw [others, List.map_cons, List.map_cons, List.map_nil, List.filter_cons_of_neg (by simp),
    List.filter_cons, if_pos (decide_eq_true hother), List.filter_nil]

/-- The import is matched with it if it mentions the imported name. -/
theorem matchImport_farSibling (hname : isIdentifier i.bareName.toList = true)
    (htext : StandsIn i.bareName.toList text) :
    matchImport (.ofOutline (farImporter i : Outline ν)) i
        ([farImporter i, farSibling i text].map (.ofOutline : Outline ν → Candidate))
      = some (.ofOutline (farSibling i text : Outline ν), .mention) := by
  have hshares : (Candidate.ofOutline (farImporter i : Outline ν)).sharesScope
      (.ofOutline (farSibling i text : Outline ν)) = true := by
    rw [Candidate.sharesScope, scope_of_longName rfl, scope_of_longName rfl]
    simp
  have hmentions : (Candidate.ofOutline (farSibling i text : Outline ν)).mentions
      i.bareName.toList = true := by
    rw [Candidate.mentions, hname, Bool.true_and, mentions_iff]
    show StandsIn i.bareName.toList (String.ofList text).toList
    rwa [String.toList_ofList]
  refine matchImport_of_matchMention ?_ ?_ ?_ <;> rw [others_farSibling]
  · exact matchPath_farSibling
  · exact matchScope_farSibling
  · refine List.find?_cons_of_pos ?_
    rw [hshares, hmentions]
    rfl

end

/-! ## What the extension leads to -/

/-- An extension that is a name has only characters that continue names. -/
theorem Import.isNameChar_bareName {i : Import} {ext : List Char}
    (hext : Language.isKnownExtension ext = true) (hname : ext = '.' :: i.bareName.toList)
    (hidentifier : isIdentifier i.bareName.toList = true) :
    ∀ c ∈ i.bareName.toList, isNameChar c = true := by
  obtain ⟨word, hword, -, hmarks⟩ := Language.exists_word hext
  obtain rfl : i.bareName.toList = word := List.cons.inj (hname.symm.trans hword) |>.2
  exact isNameChar_of_mem_identifier hidentifier (hmarks '\n' (by decide))

/-- **NAMED AFTER AN EXTENSION**: an import without symbols whose module is the path of a file with
    a known extension is taken for the import of a name, which is the extension. What the third tier
    finds mentions the extension, and what the second one prefers to the first file of a namespace
    is named after it. So all files that the third tier finds mention the imported file exactly if
    the extension is not a name or the file is named after its extension. -/
theorem extension_names_import {ν : Type} [Inhabited ν] {i : Import} (hsymbols : i.symbols = [])
    {stem ext : List Char}
    (hpath : baseChars (replaceChar '\\' '/' i.target.toList) = stem ++ ext)
    (hext : Language.isKnownExtension ext = true) :
    ext = '.' :: i.bareName.toList
    ∧ (∀ (outlines : List (Outline ν)) (importer : Outline ν) (found : Candidate),
      matchImport (.ofOutline importer) i (outlines.map .ofOutline) = some (found, .mention) →
      isIdentifier i.bareName.toList = true ∧ StandsIn i.bareName.toList found.content.toList)
    ∧ (∀ (outlines : List (Outline ν)) (importer : Outline ν) (found : Candidate),
      matchImport (.ofOutline importer) i (outlines.map .ofOutline) = some (found, .scope) →
      (inNamedScopes importer.language i
        (others (outlines.map .ofOutline) (.ofOutline importer))).head? ≠ some found →
      '.' :: found.stem = ext)
    ∧ ((∀ outlines : List (Outline ν), ∀ importer ∈ outlines, i ∈ importer.imports →
        ∀ found : Candidate,
        matchImport (.ofOutline importer) i (outlines.map .ofOutline) = some (found, .mention) →
        StandsIn stem found.content.toList)
      ↔ (isIdentifier i.bareName.toList = true → stem = i.bareName.toList)) := by
  have hname : ext = '.' :: i.bareName.toList := Import.bareName_of_extension hsymbols hpath hext
  have hmention : ∀ (outlines : List (Outline ν)) (importer : Outline ν) (found : Candidate),
      matchImport (.ofOutline importer) i (outlines.map .ofOutline) = some (found, .mention) →
      isIdentifier i.bareName.toList = true
        ∧ StandsIn i.bareName.toList found.content.toList := by
    intro outlines importer found h
    have hmentions := (fits_of_matchMention (matchMention_of_matchImport h)).2.2
    rwa [Candidate.mentions, Bool.and_eq_true, mentions_iff] at hmentions
  refine ⟨hname, hmention, ?_, ?_⟩
  · intro outlines importer found h hlater
    rw [hname, stem_of_matchScope (matchScope_of_matchImport h) hlater]
  · constructor
    · intro hall hidentifier
      -- A sibling whose text is the extension alone is found, and nothing else stands in its text.
      have hfound := matchImport_farSibling (ν := ν) hidentifier (standsIn_self _)
      have hstem := hall _ (farImporter i) (List.mem_cons_self ..)
        (List.mem_singleton_self i) _ hfound
      have htext : (Candidate.ofOutline
          (farSibling i i.bareName.toList : Outline ν)).content.toList = i.bareName.toList :=
        String.toList_ofList
      rw [htext] at hstem
      exact eq_of_standsIn (Import.isNameChar_bareName hext hname hidentifier) hstem
    · intro hsame outlines importer _ _ found h
      obtain ⟨hidentifier, hstands⟩ := hmention outlines importer found h
      rwa [hsame hidentifier]

/-- A page of a namespace that imports a file of a library. -/
def scopedPage : Outline where
  path := "src/page.php"
  language := .php
  scope := some "App"
  imports := [{ target := "lib/util.php" }]
  lineCount := 3
  commentCount := 0

/-- A view of the same namespace, which starts like every program of its language. -/
def scopedView : Outline where
  path := "src/view.php"
  language := .php
  scope := some "App"
  content := "<?php\nnamespace App;\n"
  lineCount := 2
  commentCount := 0

/-- The library is looked for as `php`, which is a name and not that of the library, so there are
    files that are found and do not mention it. -/
theorem extension_names_import_php :
    Import.symbols { target := "lib/util.php" } = []
    ∧ baseChars (replaceChar '\\' '/' "lib/util.php".toList) = "util".toList ++ ".php".toList
    ∧ Language.isKnownExtension ".php".toList = true
    ∧ ".php".toList = '.' :: (Import.bareName { target := "lib/util.php" }).toList
    ∧ ¬ ∀ outlines : List Outline, ∀ importer ∈ outlines,
      { target := "lib/util.php" } ∈ importer.imports → ∀ found : Candidate,
      matchImport (.ofOutline importer) { target := "lib/util.php" } (outlines.map .ofOutline)
        = some (found, .mention) →
      StandsIn "util".toList found.content.toList := by
  have hsymbols : Import.symbols { target := "lib/util.php" } = [] := rfl
  have hpath : baseChars (replaceChar '\\' '/' "lib/util.php".toList)
      = "util".toList ++ ".php".toList := by decide +kernel
  have hext : Language.isKnownExtension ".php".toList = true := by decide +kernel
  obtain ⟨hname, -, -, hiff⟩ := extension_names_import (ν := Int) hsymbols hpath hext
  refine ⟨hsymbols, hpath, hext, hname, fun hall => ?_⟩
  exact absurd (hiff.mp hall (by decide +kernel)) (by decide +kernel)

/-- The view is what the page's import means, and it does not mention the imported file. -/
theorem not_standsIn_scopedView :
    ∃ found, matchImport (.ofOutline scopedPage) { target := "lib/util.php" }
        ([scopedPage, scopedView].map .ofOutline) = some (found, .mention)
      ∧ found.id = "src/view.php" ∧ ¬ StandsIn "util".toList found.content.toList := by
  have hfound : (matchImport (.ofOutline scopedPage) { target := "lib/util.php" }
      ([scopedPage, scopedView].map .ofOutline)).any (fun m => decide (m.2 = .mention
        ∧ m.1.id = "src/view.php"
        ∧ mentions m.1.content.toList "util".toList = false)) = true := by decide +kernel
  obtain ⟨⟨found, link⟩, hfound, hwrong⟩ := (Option.any_eq_true _ _).mp hfound
  obtain ⟨rfl, hid, hmentions⟩ := of_decide_eq_true hwrong
  refine ⟨found, hfound, hid, fun hstands => ?_⟩
  exact nomatch hmentions.symm.trans (mentions_iff.mpr hstands)

end SourceAtlas
