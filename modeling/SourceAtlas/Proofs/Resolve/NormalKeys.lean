import SourceAtlas.Proofs.Resolve.ImportedName

/-! # Normal forms of module keys

    The key of a module is made in passes, each of which drops marks of one kind
    from the front as long as there are any: marks that only say "from here", then
    slashes, then the roots of a crate.  What a pass leaves is determined by that:
    it comes from dropping marks, and it begins with none (`IsPass.eq_iff`).

    No pass is made twice.  So a key is in normal form, with no marks of any kind in
    front, exactly if no pass uncovers marks of an earlier one
    (`normal_moduleKey_iff`).  Two slashes behind a dot can hide such a mark
    (`not_isNormalKey_stacked`). -/

namespace SourceAtlas

open SourceAtlas.Path Text

/-! ## Marks in front -/

/-- A text begins with one of some marks. -/
def StartsWith (marks : List (List Char)) (cs : List Char) : Prop :=
  ∃ mark ∈ marks, mark <+: cs

/-- A text becomes another one when some marks, one after the other, are dropped from its front. -/
inductive Sheds (marks : List (List Char)) : List Char → List Char → Prop where
  | done (cs : List Char) : Sheds marks cs cs
  | drop {mark cs rest : List Char} : mark ∈ marks → Sheds marks cs rest →
      Sheds marks (mark ++ cs) rest

/-- A pass drops marks from the front of a text as long as there are any. -/
structure IsPass (marks : List (List Char)) (pass : List Char → List Char) : Prop where
  ne_nil : ∀ mark ∈ marks, mark ≠ []
  drop : ∀ mark ∈ marks, ∀ cs, pass (mark ++ cs) = pass cs
  stop : ∀ cs, ¬ StartsWith marks cs → pass cs = cs

variable {marks others : List (List Char)} {cs rest : List Char}

theorem Sheds.eq_or_startsWith (h : Sheds marks cs rest) : rest = cs ∨ StartsWith marks cs := by
  cases h with
  | done => exact Or.inl rfl
  | drop hmark _ => exact Or.inr ⟨_, hmark, List.prefix_append ..⟩

/-- A text does not begin with marks of two kinds if no mark of one kind begins one of the other. -/
theorem StartsWith.not_of_apart (h : StartsWith marks cs)
    (hapart : ∀ a ∈ marks, ∀ b ∈ others, ¬ a <+: b ∧ ¬ b <+: a) : ¬ StartsWith others cs := by
  rintro ⟨b, hb, hbcs⟩
  obtain ⟨a, ha, hacs⟩ := h
  obtain ⟨hab, hba⟩ := hapart a ha b hb
  exact (List.prefix_or_prefix_of_prefix hacs hbcs).elim hab hba

namespace IsPass

variable {pass : List Char → List Char}

theorem eq_of_sheds (h : IsPass marks pass) (hsheds : Sheds marks cs rest) :
    pass cs = pass rest := by
  induction hsheds with
  | done => rfl
  | drop hmark _ ih => rw [h.drop _ hmark, ih]

/-- What a pass leaves comes from dropping marks, and it begins with none. -/
theorem sheds (h : IsPass marks pass) (cs : List Char) :
    Sheds marks cs (pass cs) ∧ ¬ StartsWith marks (pass cs) := by
  -- No mark is empty, so a text gets shorter with each that is dropped.
  by_cases hstart : StartsWith marks cs
  · obtain ⟨mark, hmark, rest, hcs⟩ := hstart
    have hshorter : rest.length < cs.length := by
      rw [← hcs, List.length_append]
      exact Nat.lt_add_of_pos_left (List.length_pos_of_ne_nil (h.ne_nil mark hmark))
    obtain ⟨hsheds, hstop⟩ := h.sheds rest
    rw [← hcs, h.drop mark hmark]
    exact ⟨.drop hmark hsheds, hstop⟩
  · rw [h.stop cs hstart]
    exact ⟨.done cs, hstart⟩
termination_by cs.length

/-- **PASSES**: a pass leaves what comes from dropping marks until there are none in front. -/
theorem eq_iff (h : IsPass marks pass) :
    pass cs = rest ↔ Sheds marks cs rest ∧ ¬ StartsWith marks rest := by
  constructor
  · rintro rfl
    exact h.sheds cs
  · rintro ⟨hsheds, hstop⟩
    rw [h.eq_of_sheds hsheds, h.stop rest hstop]

end IsPass

/-! ## The three passes -/

/-- The marks that only say "from here", or name an alias of the root. -/
def relativeMarks : List (List Char) :=
  [['.', '/'], ['.', '.', '/'], ['@', '/'], ['~', '/']]

/-- The slash in front of an absolute path. -/
def rootMarks : List (List Char) := [['/']]

/-- The roots of a path in a crate, for the language that has them. -/
def crateMarks (l : Language) : List (List Char) :=
  if l = .rust then ["crate/".toList, "self/".toList, "super/".toList] else []

theorem isPass_dropRelative : IsPass relativeMarks dropRelative where
  ne_nil := by decide
  drop := by
    simp only [relativeMarks, List.forall_mem_cons]
    exact ⟨fun _ => rfl, fun _ => rfl, fun _ => rfl, fun _ => rfl, nofun⟩
  stop cs h := by
    fun_cases dropRelative cs with
    | case1 rest => exact absurd ⟨['.', '/'], by decide, rest, rfl⟩ h
    | case2 rest => exact absurd ⟨['.', '.', '/'], by decide, rest, rfl⟩ h
    | case3 rest => exact absurd ⟨['@', '/'], by decide, rest, rfl⟩ h
    | case4 rest => exact absurd ⟨['~', '/'], by decide, rest, rfl⟩ h
    | case5 => rfl

theorem isPass_dropSlashes : IsPass rootMarks (List.dropWhile (· = '/')) where
  ne_nil := by decide
  drop := List.forall_mem_singleton.mpr fun _ => rfl
  stop cs h := by
    cases cs with
    | nil => rfl
    | cons c rest =>
        refine List.dropWhile_cons_of_neg fun hslash => h ?_
        obtain rfl : c = '/' := of_decide_eq_true hslash
        exact ⟨['/'], List.mem_singleton_self _, rest, rfl⟩

theorem isPass_dropCrateRoots : IsPass (crateMarks .rust) dropCrateRoots where
  ne_nil := by decide
  drop := by
    rw [crateMarks, if_pos rfl, List.forall_mem_cons, List.forall_mem_cons,
      List.forall_mem_singleton]
    exact ⟨fun _ => rfl, fun _ => rfl, fun _ => rfl⟩
  stop cs h := by
    fun_cases dropCrateRoots cs with
    | case1 rest => exact absurd ⟨"crate/".toList, by decide, rest, rfl⟩ h
    | case2 rest => exact absurd ⟨"self/".toList, by decide, rest, rfl⟩ h
    | case3 rest => exact absurd ⟨"super/".toList, by decide, rest, rfl⟩ h
    | case4 => rfl

theorem isPass_crateMarks (l : Language) :
    IsPass (crateMarks l) fun cs => if l = .rust then dropCrateRoots cs else cs := by
  by_cases hl : l = .rust
  · subst hl
    exact isPass_dropCrateRoots
  · rw [crateMarks, if_neg hl]
    exact ⟨nofun, nofun, fun _ _ => if_neg hl⟩

/-! ## Keys -/

/-- The module of an import with slashes between its segments, before anything is dropped from its
    front. -/
def slashedModule (target : String) (l : Language) : List Char :=
  let cs := replaceChar '\\' '/' (bareModule target.toList)
  replaceColons '/' (if l.matchers.dottedImports then undot cs else cs)

/-- A key is in normal form: it begins neither with a slash nor with a mark that says where it is
    relative to. -/
def IsNormalKey (l : Language) (key : List Char) : Prop :=
  ¬ StartsWith (rootMarks ++ relativeMarks ++ crateMarks l) key

/-- A later pass uncovers a mark of an earlier one: behind slashes or roots of a crate that are
    dropped stands a relative mark, or behind such roots a slash. -/
def Uncovers (l : Language) (cs : List Char) : Prop :=
  ∃ inner named rest, Sheds relativeMarks cs inner ∧ Sheds rootMarks inner named
    ∧ Sheds (crateMarks l) named rest
    ∧ (rest ≠ inner ∧ StartsWith relativeMarks rest ∨ rest ≠ named ∧ StartsWith rootMarks rest)

theorem fullModuleKey_eq (target : String) (l : Language) :
    fullModuleKey target l
      = (fun cs => if l = .rust then dropCrateRoots cs else cs)
        ((dropRelative (slashedModule target l)).dropWhile (· = '/')) := rfl

/-- The three passes, one after the other. -/
theorem fullModuleKey_eq_iff {target : String} {l : Language} {key : List Char} :
    fullModuleKey target l = key ↔ ∃ inner named,
      (Sheds relativeMarks (slashedModule target l) inner ∧ ¬ StartsWith relativeMarks inner)
      ∧ (Sheds rootMarks inner named ∧ ¬ StartsWith rootMarks named)
      ∧ Sheds (crateMarks l) named key ∧ ¬ StartsWith (crateMarks l) key := by
  simp only [← isPass_dropRelative.eq_iff, ← isPass_dropSlashes.eq_iff,
    ← (isPass_crateMarks l).eq_iff, exists_and_left, exists_eq_left', fullModuleKey_eq]

theorem startsWith_append_iff :
    StartsWith (marks ++ others) cs ↔ StartsWith marks cs ∨ StartsWith others cs := by
  simp only [StartsWith, List.mem_append, or_and_right, exists_or]

theorem StartsWith.not_relative (h : StartsWith rootMarks cs) : ¬ StartsWith relativeMarks cs :=
  h.not_of_apart (by decide)

/-- No root of a crate begins with a mark of an earlier pass. -/
theorem StartsWith.not_earlier {l : Language} (h : StartsWith (crateMarks l) cs) :
    ¬ StartsWith (rootMarks ++ relativeMarks) cs := by
  refine h.not_of_apart ?_
  unfold crateMarks
  split
  · decide
  · exact nofun

variable {target : String} {l : Language}

/-- What is uncovered by a later pass is left there. -/
theorem fullModuleKey_of_uncovered {inner named rest : List Char}
    (hinner : Sheds relativeMarks (slashedModule target l) inner)
    (hnamed : Sheds rootMarks inner named) (hrest : Sheds (crateMarks l) named rest)
    (h : rest ≠ inner ∧ StartsWith relativeMarks rest ∨ rest ≠ named ∧ StartsWith rootMarks rest) :
    fullModuleKey target l = rest := by
  have hcrate : rest = named ∨ ¬ StartsWith (rootMarks ++ relativeMarks) named :=
    hrest.eq_or_startsWith.imp_right (·.not_earlier)
  refine fullModuleKey_eq_iff.mpr ⟨inner, named, ⟨hinner, fun hstart => ?_⟩,
    ⟨hnamed, fun hstart => ?_⟩, hrest, fun hstart => ?_⟩
  · rcases hnamed.eq_or_startsWith with rfl | hroot
    · -- Something is dropped behind the relative marks, and that is a root of a crate.
      have hdropped : rest ≠ named := h.elim And.left And.left
      exact (hcrate.resolve_left hdropped) (startsWith_append_iff.mpr (Or.inr hstart))
    · exact hroot.not_relative hstart
  · rcases hcrate with rfl | hcrate
    · rcases h with ⟨-, hrelative⟩ | ⟨hdropped, -⟩
      · exact hstart.not_relative hrelative
      · exact hdropped rfl
    · exact hcrate (startsWith_append_iff.mpr (Or.inl hstart))
  · exact hstart.not_earlier (startsWith_append_iff.mpr (h.symm.imp And.right And.right))

theorem isNormalKey_iff :
    IsNormalKey l (fullModuleKey target l) ↔ ¬ Uncovers l (slashedModule target l) := by
  rw [IsNormalKey, startsWith_append_iff, startsWith_append_iff, not_iff_not]
  constructor
  · obtain ⟨inner, named, ⟨hinner, hrelative⟩, ⟨hnamed, hroot⟩, hrest, hcrate⟩ :=
      fullModuleKey_eq_iff.mp (rfl : fullModuleKey target l = _)
    rintro ((hstart | hstart) | hstart)
    · exact ⟨inner, named, _, hinner, hnamed, hrest,
        Or.inr ⟨fun heq => hroot (heq ▸ hstart), hstart⟩⟩
    · exact ⟨inner, named, _, hinner, hnamed, hrest,
        Or.inl ⟨fun heq => hrelative (heq ▸ hstart), hstart⟩⟩
    · exact absurd hstart hcrate
  · rintro ⟨inner, named, rest, hinner, hnamed, hrest, h⟩
    rw [fullModuleKey_of_uncovered hinner hnamed hrest h]
    exact Or.inl (h.symm.imp And.right And.right)

/-! ## Extensions -/

/-- A path ends in the extension of a source file, behind a name that is more than dots. -/
def HasExtension (cs stem ext : List Char) : Prop :=
  cs = stem ++ ext ∧ Language.isKnownExtension ext = true ∧ ∃ c ∈ baseChars stem, c ≠ '.'

/-- The extension of a source file is dropped if there is one, and otherwise nothing is. -/
theorem dropKnownExtension_cases (cs : List Char) :
    (∃ ext, HasExtension cs (dropKnownExtension cs) ext)
    ∨ dropKnownExtension cs = cs ∧ ∀ stem ext, ¬ HasExtension cs stem ext := by
  cases hknown : Language.isKnownExtension (splitExtensionChars cs).2 with
  | true =>
      rw [dropKnownExtension_of_known hknown]
      obtain ⟨word, hword, -⟩ := Language.exists_word hknown
      refine Or.inl ⟨_, (append_splitExtension cs).symm, hknown,
        exists_ne_dot_of_splitExtension ?_⟩
      rw [hword]
      exact List.cons_ne_nil _ _
  | false =>
      refine Or.inr ⟨dropKnownExtension_of_unknown hknown, ?_⟩
      rintro stem ext ⟨rfl, hext, hstem⟩
      obtain ⟨word, rfl, -, hmarks⟩ := Language.exists_word hext
      rw [splitExtensionChars_append hstem (hmarks _ (by decide)) (hmarks _ (by decide)), hext]
        at hknown
      exact Bool.noConfusion hknown

/-- A key never begins with a root of a crate, and with a slash only behind such a root. -/
theorem not_startsWith_fullModuleKey (target : String) (l : Language) :
    ¬ StartsWith (crateMarks l) (fullModuleKey target l)
    ∧ (l ≠ .rust → ¬ StartsWith rootMarks (fullModuleKey target l)) := by
  obtain ⟨inner, named, -, ⟨-, hroot⟩, hrest, hcrate⟩ :=
    fullModuleKey_eq_iff.mp (rfl : fullModuleKey target l = _)
  refine ⟨hcrate, fun hl => ?_⟩
  rw [crateMarks, if_neg hl] at hrest
  rcases hrest.eq_or_startsWith with hkey | ⟨mark, hmark, -⟩
  · rw [hkey]
    exact hroot
  · exact nomatch hmark

/-- **KEYS OF MODULES**: the key of a module is in normal form exactly if no pass uncovers what an
    earlier one drops.  It never begins with a root of a crate, and with a slash only in the
    language that has such roots.  Without its extension it is the key up to the extension of a
    source file, or the same key if it has none. -/
theorem normal_moduleKey_iff (target : String) (l : Language) :
    (IsNormalKey l (fullModuleKey target l) ↔ ¬ Uncovers l (slashedModule target l))
    ∧ (¬ StartsWith (crateMarks l) (fullModuleKey target l)
      ∧ (l ≠ .rust → ¬ StartsWith rootMarks (fullModuleKey target l)))
    ∧ ((∃ ext, HasExtension (fullModuleKey target l) (moduleKey target l) ext)
      ∨ moduleKey target l = fullModuleKey target l
        ∧ ∀ stem ext, ¬ HasExtension (fullModuleKey target l) stem ext) :=
  ⟨isNormalKey_iff, not_startsWith_fullModuleKey target l, dropKnownExtension_cases _⟩

/-- Behind `.` and two slashes, a relative mark is left; behind a root and two slashes, a slash. -/
theorem not_isNormalKey_stacked :
    fullModuleKey ".//./a" .javascript = "./a".toList
    ∧ ¬ IsNormalKey .javascript (fullModuleKey ".//./a" .javascript)
    ∧ fullModuleKey "crate//x" .rust = "/x".toList
    ∧ ¬ IsNormalKey .rust (fullModuleKey "crate//x" .rust) := by
  have hrelative : fullModuleKey ".//./a" .javascript = "./a".toList := by decide +kernel
  have hroot : fullModuleKey "crate//x" .rust = "/x".toList := by decide +kernel
  refine ⟨hrelative, ?_, hroot, ?_⟩
  · rw [hrelative]
    exact not_not_intro ⟨['.', '/'], by decide, ['a'], rfl⟩
  · rw [hroot]
    exact not_not_intro ⟨['/'], by decide, ['x'], rfl⟩

end SourceAtlas
