import Mathlib.Data.List.Forall2
import SourceAtlas.Analysis.Input
import SourceAtlas.Proofs.Text.Strip

/-! # What is taken for a list of files

    An item of the input has to hold a path and a content in one of four forms
    (`Value.parts?`); whether they are accepted is a matter of the two alone
    (`sourceOf_eq_ok_iff`), and not of the form or of the place of the item.  So a
    list is taken exactly if each of its items is a file, and for the files that
    these are (`sourcesFrom_eq_ok_iff`).

    Anything else is refused, with one kind of failure.  The items are looked at
    in order, so the first one that is no file is to blame, and its number opens
    the message (`exists_first_of_sourcesFrom`); no other number does
    (`Failure.Names.unique`).  Both halves make `sourcesOf_exact`. -/

namespace SourceAtlas

/-! ## One item -/

/-- The path and the content of an item of the input, if it has one of the forms in which a file may
    be given. -/
def Value.parts? : Value → Option (Value × Value)
  | .file path content => some (path, content)
  | .record entries =>
    (entries.lookup "path").bind fun path => (entries.lookup "content").map (path, ·)
  | .list [path, content] => some (path, content)
  | .tuple [path, content] => some (path, content)
  | _ => none

/-- An item of the input gives a file: this is what it stands for if the path is accepted. -/
def Value.Gives (v : Value) (f : SourceFile) : Prop :=
  ∃ content, v.parts? = some (.text f.path, content) ∧ Content.ofValue? content = some f.content

/-- The path of a file is blank. -/
def SourceFile.IsUnnamed (f : SourceFile) : Prop :=
  Text.strip f.path.toList = []

/-- An item of the input is a file: in one of the forms, with a text for its path in which not all
    is blank, and with a text or bytes for its content. -/
structure Value.IsFile (v : Value) (f : SourceFile) : Prop where
  parts : v.parts? = some (.text f.path, f.content.value)
  named : ∃ c ∈ f.path.toList, Text.isBlank c = false

section

variable {i : Nat} {v path content : Value} {f : SourceFile}

theorem sourceOf_of_parts? (h : v.parts? = some (path, content)) :
    sourceOf i v = sourceOfParts i path content := by
  unfold Value.parts? at h
  split at h
  · obtain ⟨rfl, rfl⟩ := Prod.mk.inj (Option.some.inj h)
    rfl
  · rename_i entries
    obtain ⟨path', hpath, hrest⟩ := Option.bind_eq_some_iff.mp h
    obtain ⟨content', hcontent, hparts⟩ := Option.map_eq_some_iff.mp hrest
    obtain ⟨rfl, rfl⟩ := Prod.mk.inj hparts
    rw [sourceOf, hpath, hcontent]
  · obtain ⟨rfl, rfl⟩ := Prod.mk.inj (Option.some.inj h)
    rfl
  · obtain ⟨rfl, rfl⟩ := Prod.mk.inj (Option.some.inj h)
    rfl
  · cases h

theorem exists_parts_of_sourceOf (h : sourceOf i v = .ok f) :
    ∃ path content, v.parts? = some (path, content) := by
  unfold sourceOf at h
  split at h
  · exact ⟨_, _, rfl⟩
  · rename_i entries
    split at h
    · rename_i path content hpath hcontent
      refine ⟨path, content, ?_⟩
      rw [Value.parts?, hpath, hcontent]
      rfl
    · cases h
  · exact ⟨_, _, rfl⟩
  · exact ⟨_, _, rfl⟩
  · cases h

theorem sourceOfParts_eq_ok_iff :
    sourceOfParts i path content = .ok f
      ↔ path = .text f.path ∧ Content.ofValue? content = some f.content ∧ ¬ f.IsUnnamed := by
  constructor
  · intro h
    unfold sourceOfParts at h
    split at h
    · split at h
      · exact nomatch h
      · rename_i hblank
        split at h
        · rename_i hcontent
          obtain rfl := Except.ok.inj h
          exact ⟨rfl, hcontent, fun hunnamed => hblank (List.isEmpty_iff.mpr hunnamed)⟩
        · exact nomatch h
    · exact nomatch h
  · rintro ⟨rfl, hcontent, hnamed⟩
    unfold sourceOfParts
    dsimp only
    rw [if_neg fun hblank => hnamed (List.isEmpty_iff.mp hblank), hcontent]

/-- An item is accepted exactly if it gives a file and the path of that is not blank. -/
theorem sourceOf_eq_ok_iff : sourceOf i v = .ok f ↔ v.Gives f ∧ ¬ f.IsUnnamed := by
  constructor
  · intro h
    obtain ⟨path, content, hparts⟩ := exists_parts_of_sourceOf h
    rw [sourceOf_of_parts? hparts] at h
    obtain ⟨rfl, hcontent, hnamed⟩ := sourceOfParts_eq_ok_iff.mp h
    exact ⟨⟨content, hparts, hcontent⟩, hnamed⟩
  · rintro ⟨⟨content, hparts, hcontent⟩, hnamed⟩
    rw [sourceOf_of_parts? hparts]
    exact sourceOfParts_eq_ok_iff.mpr ⟨rfl, hcontent, hnamed⟩

/-- What a value stands for does not depend on its number. -/
theorem sourceOf_renumbered {j : Nat} (h : sourceOf i v = .ok f) : sourceOf j v = .ok f :=
  sourceOf_eq_ok_iff.mpr (sourceOf_eq_ok_iff.mp h)

theorem SourceFile.not_isUnnamed_iff :
    ¬ f.IsUnnamed ↔ ∃ c ∈ f.path.toList, Text.isBlank c = false := by
  simp only [IsUnnamed, Text.strip_eq_nil_iff, not_forall, Bool.not_eq_true, exists_prop]

/-- An item is accepted exactly if it is a file. -/
theorem sourceOf_eq_ok_iff_isFile : sourceOf i v = .ok f ↔ v.IsFile f := by
  rw [sourceOf_eq_ok_iff, SourceFile.not_isUnnamed_iff]
  constructor
  · rintro ⟨⟨content, hparts, hcontent⟩, hnamed⟩
    obtain rfl := Content.ofValue?_eq_some_iff.mp hcontent
    exact ⟨hparts, hnamed⟩
  · rintro ⟨hparts, hnamed⟩
    exact ⟨⟨_, hparts, Content.ofValue?_eq_some_iff.mpr rfl⟩, hnamed⟩

end

/-! ## The items of a list -/

/-- A list is taken for files exactly if each of its items is taken for one. -/
theorem sourcesFrom_eq_ok_iff {n : Nat} {items : List Value} {sources : List SourceFile} :
    sourcesFrom n items = .ok sources
      ↔ List.Forall₂ (fun v f => sourceOf 0 v = .ok f) items sources := by
  induction items generalizing n sources with
  | nil =>
      constructor
      · intro h
        obtain rfl := Except.ok.inj h
        exact List.Forall₂.nil
      · rintro ⟨⟩
        rfl
  | cons v rest ih =>
      constructor
      · intro h
        unfold sourcesFrom at h
        split at h
        · exact nomatch h
        · rename_i f hf
          cases hrest : sourcesFrom (n + 1) rest with
          | error failure =>
              rw [hrest] at h
              exact nomatch h
          | ok files =>
              rw [hrest] at h
              obtain rfl := Except.ok.inj h
              exact List.Forall₂.cons (sourceOf_renumbered hf) (ih.mp hrest)
      · rintro (_ | ⟨hf, hrest⟩)
        rw [sourcesFrom, sourceOf_renumbered hf, ih.mpr hrest]
        rfl

/-- A list that gives files is accepted exactly if no path is blank. -/
theorem sourcesOf_eq_ok_iff {mk : List Value → Value} {items : List Value}
    {sources : List SourceFile} (hmk : mk = .list ∨ mk = .tuple)
    (hitems : List.Forall₂ Value.Gives items sources) :
    sourcesOf (mk items) = .ok sources ↔ ∀ f ∈ sources, ¬ f.IsUnnamed := by
  have hlist : sourcesOf (mk items) = sourcesFrom 0 items := by
    rcases hmk with rfl | rfl <;> rfl
  rw [hlist, sourcesFrom_eq_ok_iff]
  clear hlist
  induction hitems with
  | nil => exact ⟨fun _ _ h => absurd h List.not_mem_nil, fun _ => .nil⟩
  | cons hgives _ ih =>
      rw [List.forall₂_cons, List.forall_mem_cons, sourceOf_eq_ok_iff]
      exact and_congr (and_iff_right hgives) ih

/-! ## Numbers in messages -/

/-- The message of a failure opens with the number of an item. -/
def Failure.Names (failure : Failure) (index : Nat) : Prop :=
  (fileNumber index).toList <+: failure.message.toList

instance (failure : Failure) (index : Nat) : Decidable (failure.Names index) :=
  inferInstanceAs (Decidable (_ <+: _))

theorem toList_fileNumber (index : Nat) :
    (fileNumber index).toList = "File #".toList ++ (decimalChars index ++ ": ".toList) := by
  simp only [fileNumber, decimalText, String.toList_append, String.toList_ofList,
    List.append_assoc]

/-- A number ends where the first character that is no digit stands. -/
theorem takeWhile_decimalChars (n : Nat) (rest : List Char) :
    (decimalChars n ++ (": ".toList ++ rest)).takeWhile Char.isDigit = decimalChars n := by
  rw [List.takeWhile_append_of_pos]
  · exact List.append_nil _
  · exact fun c hc => Nat.isDigit_of_mem_toDigits (by decide) (by decide) hc

/-- A message opens with one number only. -/
theorem Failure.Names.unique {failure : Failure} {i j : Nat} (hi : failure.Names i)
    (hj : failure.Names j) : i = j := by
  obtain ⟨rest, hrest⟩ := hi
  obtain ⟨rest', hrest'⟩ := hj
  rw [← hrest'] at hrest
  simp only [toList_fileNumber, List.append_assoc] at hrest
  have hdigits := congrArg (List.takeWhile Char.isDigit) (List.append_cancel_left hrest)
  rw [takeWhile_decimalChars, takeWhile_decimalChars] at hdigits
  have hvalue := congrArg (Nat.ofDigitChars 10 · 0) hdigits
  simpa only [decimalChars, Nat.ofDigitChars_ten_toDigits] using hvalue

theorem names_fatalInput (index : Nat) (rest : String) (file : Option String) :
    (fatalInput (fileNumber index ++ rest) file).Names index :=
  ⟨rest.toList, String.toList_append.symm⟩

/-- An item is refused by its number. -/
theorem names_of_sourceOf {index : Nat} {v : Value} {failure : Failure}
    (h : sourceOf index v = .error failure) :
    failure.kind = .fatalInput ∧ failure.Names index := by
  have hrefused : ∀ (front back : String) (file : Option String),
      .error (fatalInput (fileNumber index ++ front ++ back) file)
        = (.error failure : Except Failure SourceFile) →
      failure.kind = .fatalInput ∧ failure.Names index := by
    intro front back file heq
    obtain rfl := Except.error.inj heq
    rw [String.append_assoc]
    exact ⟨rfl, names_fatalInput ..⟩
  have hparts : ∀ path content, sourceOfParts index path content = .error failure →
      failure.kind = .fatalInput ∧ failure.Names index := by
    intro path content hpart
    unfold sourceOfParts at hpart
    split at hpart
    · split at hpart
      · exact hrefused _ _ _ hpart
      · split at hpart
        · exact nomatch hpart
        · exact hrefused _ _ _ hpart
    · exact hrefused _ _ _ hpart
  unfold sourceOf at h
  split at h
  · exact hparts _ _ h
  · split at h
    · exact hparts _ _ h
    · obtain rfl := Except.error.inj h
      exact ⟨rfl, names_fatalInput ..⟩
  · exact hparts _ _ h
  · exact hparts _ _ h
  · exact hrefused _ _ _ h

/-! ## The first item that is no file -/

/-- The item at an index is no file, and all items before it are. -/
structure IsFirstBad (items : List Value) (index : Nat) : Prop where
  bad : ∃ v, items[index]? = some v ∧ ∀ f, ¬ v.IsFile f
  before : ∀ i < index, ∃ v f, items[i]? = some v ∧ v.IsFile f

theorem IsFirstBad.unique {items : List Value} {i j : Nat} (hi : IsFirstBad items i)
    (hj : IsFirstBad items j) : i = j := by
  have hle : ∀ {i j : Nat}, IsFirstBad items i → IsFirstBad items j → ¬ i < j := by
    intro i j hi hj hlt
    obtain ⟨v, hv, hbad⟩ := hi.bad
    obtain ⟨w, f, hw, hfile⟩ := hj.before i hlt
    exact hbad f (Option.some.inj (hw.symm.trans hv) ▸ hfile)
  exact Nat.le_antisymm (Nat.le_of_not_lt (hle hj hi)) (Nat.le_of_not_lt (hle hi hj))

/-- A list that is refused has a first item that is no file, and that one is named. -/
theorem exists_first_of_sourcesFrom {n : Nat} {items : List Value} {failure : Failure}
    (h : sourcesFrom n items = .error failure) :
    failure.kind = .fatalInput ∧ ∃ k, failure.Names (n + k) ∧ IsFirstBad items k := by
  induction items generalizing n with
  | nil => exact nomatch h
  | cons v rest ih =>
      unfold sourcesFrom at h
      split at h
      · rename_i failure' hv
        obtain rfl := Except.error.inj h
        obtain ⟨hkind, hnames⟩ := names_of_sourceOf hv
        refine ⟨hkind, 0, hnames, ⟨v, rfl, fun f hf => ?_⟩,
          fun i hi => absurd hi (Nat.not_lt_zero i)⟩
        rw [sourceOf_eq_ok_iff_isFile.mpr hf] at hv
        exact nomatch hv
      · rename_i f hv
        cases hrest : sourcesFrom (n + 1) rest with
        | ok sources =>
            rw [hrest] at h
            exact nomatch h
        | error failure' =>
            rw [hrest] at h
            obtain rfl := Except.error.inj h
            obtain ⟨hkind, k, hnames, hbad, hbefore⟩ := ih hrest
            refine ⟨hkind, k + 1, ?_, hbad, fun i hi => ?_⟩
            · rwa [Nat.add_right_comm, Nat.add_assoc] at hnames
            · cases i with
              | zero => exact ⟨v, f, rfl, sourceOf_eq_ok_iff_isFile.mp hv⟩
              | succ i => exact hbefore i (Nat.lt_of_succ_lt_succ hi)

/-! ## The whole input -/

/-- The items of a list or tuple. -/
def Value.listed? : Value → Option (List Value)
  | .list items | .tuple items => some items
  | _ => none

/-- The value is a list of these files, one item for each of them in their order. -/
def Value.ListsFiles (v : Value) (sources : List SourceFile) : Prop :=
  ∃ items, v.listed? = some items ∧ List.Forall₂ Value.IsFile items sources

theorem sourcesOf_of_listed? {v : Value} {items : List Value} (h : v.listed? = some items) :
    sourcesOf v = sourcesFrom 0 items := by
  unfold Value.listed? at h
  split at h
  · exact congrArg _ (Option.some.inj h)
  · exact congrArg _ (Option.some.inj h)
  · exact nomatch h

theorem sourcesOf_of_not_listed {v : Value} (h : v.listed? = none) :
    sourcesOf v = .error (fatalInput ("Expected a list of files, got " ++ v.kind)) := by
  unfold Value.listed? at h
  split at h
  · exact nomatch h
  · exact nomatch h
  · rename_i hlist htuple
    unfold sourcesOf
    split
    · exact absurd rfl (hlist _)
    · exact absurd rfl (htuple _)
    · rfl

theorem sourcesOf_eq_ok_iff_listsFiles {v : Value} {sources : List SourceFile} :
    sourcesOf v = .ok sources ↔ v.ListsFiles sources := by
  have hitem : (fun w f => sourceOf 0 w = .ok f) = Value.IsFile :=
    funext fun _ => funext fun _ => propext sourceOf_eq_ok_iff_isFile
  cases hlist : v.listed? with
  | none =>
      rw [sourcesOf_of_not_listed hlist, Value.ListsFiles, hlist]
      exact iff_of_false nofun fun ⟨_, h, _⟩ => nomatch h
  | some items =>
      rw [sourcesOf_of_listed? hlist, sourcesFrom_eq_ok_iff, hitem, Value.ListsFiles, hlist]
      exact ⟨fun h => ⟨items, rfl, h⟩, fun ⟨_, h, hall⟩ => Option.some.inj h ▸ hall⟩

/-- **VALIDATION**: a value is taken for files exactly if it is a list or tuple of files, in any mix
    of forms, and then for these files in their order. Everything else is refused, with a failure
    of one kind. Where the value is a list or tuple, the message opens with the number of the first
    item that is no file, and with no other number. -/
theorem sourcesOf_exact (v : Value) :
    (∀ sources, sourcesOf v = .ok sources ↔ v.ListsFiles sources)
    ∧ ((∀ sources, ¬ v.ListsFiles sources) →
      ∃ failure, sourcesOf v = .error failure ∧ failure.kind = .fatalInput
        ∧ ∀ items, v.listed? = some items →
          ∀ index, failure.Names index ↔ IsFirstBad items index) := by
  refine ⟨fun _ => sourcesOf_eq_ok_iff_listsFiles, fun hnone => ?_⟩
  cases hlist : v.listed? with
  | none => exact ⟨_, sourcesOf_of_not_listed hlist, rfl, fun _ h => nomatch h⟩
  | some items =>
      cases hsources : sourcesOf v with
      | ok sources => exact absurd (sourcesOf_eq_ok_iff_listsFiles.mp hsources) (hnone sources)
      | error failure =>
          rw [sourcesOf_of_listed? hlist] at hsources
          obtain ⟨hkind, k, hnames, hfirst⟩ := exists_first_of_sourcesFrom hsources
          rw [Nat.zero_add] at hnames
          refine ⟨failure, rfl, hkind, fun items' hitems index => ?_⟩
          obtain rfl := Option.some.inj hitems
          exact ⟨fun h => h.unique hnames ▸ hfirst, fun h => h.unique hfirst ▸ hnames⟩

/-- Files in three forms, of which the last one has no content, and something else. -/
def raggedInput : List Value :=
  [.file (.text "a.py") (.text ""),
    .record [("mode", .int 420), ("content", .bytes [97]), ("path", .text "b.py")],
    .tuple [.text "c.py", .null], .null]

theorem sourcesOf_exact_ragged :
    (∀ sources, ¬ (Value.tuple raggedInput).ListsFiles sources)
    ∧ (Value.tuple raggedInput).listed? = some raggedInput
    ∧ ∃ failure, sourcesOf (.tuple raggedInput) = .error failure ∧ failure.kind = .fatalInput
      ∧ failure.Names 2 ∧ (failure.Names 2 ↔ IsFirstBad raggedInput 2) := by
  have hnone : ∀ sources, ¬ (Value.tuple raggedInput).ListsFiles sources := fun sources h =>
    nomatch ((sourcesOf_exact (.tuple raggedInput)).1 sources).mpr h
  obtain ⟨failure, hfailure, hkind, hnames⟩ := (sourcesOf_exact (.tuple raggedInput)).2 hnone
  refine ⟨hnone, rfl, failure, hfailure, hkind, ?_, hnames _ rfl 2⟩
  obtain rfl := Except.error.inj hfailure
  decide

end SourceAtlas
