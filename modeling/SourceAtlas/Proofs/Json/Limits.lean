import Mathlib.Data.List.Infix
import Mathlib.Data.List.TakeWhile
import SourceAtlas.Json.Reader

/-! # The limits of the JSON reader

    Every part of the reader leaves the end of the text that it was given, and
    names a limit only where the text goes beyond it: `Reads` says so of one
    result, and the parts of the reader pass it on to each other, down to
    `reads_readValue`.  What a text needs is measured without reading it: the
    brackets and braces that open, and the digits that stand in a row.  In the
    other direction two kinds of text are too much for every reader, brackets
    that all open and long numbers. -/

namespace SourceAtlas.Json

/-- The error speaks of a limit of the reader, not of the text. -/
def Error.isOfLimits : Error → Bool
  | tooDeep => true
  | tooManyDigits _ _ => true
  | _ => false

/-- The characters that open a list or an object. -/
def isOpening (c : Char) : Bool :=
  c = '[' || c = '{'

/-- How many brackets and braces open in a text. -/
def openings (cs : List Char) : Nat :=
  cs.countP isOpening

/-- No more than `n` digits stand in a row. -/
def DigitsWithin (n : Nat) (cs : List Char) : Prop :=
  ∀ ds, ds <:+: cs → (∀ c ∈ ds, c.isDigit = true) → ds.length ≤ n

/-- What a part of the reader may come to on a text. -/
inductive Reads {α : Type} (digitLimit depth : Nat) (cs : List Char) : Read α → Prop where
  | done {a : α} {rest : List Char} : rest <:+ cs → Reads digitLimit depth cs (.ok (a, rest))
  | wrong {e : Error} : e.isOfLimits = false → Reads digitLimit depth cs (.error e)
  | tooDeep : depth < openings cs → Reads digitLimit depth cs (.error .tooDeep)
  | tooManyDigits {ds : List Char} : ds <:+: cs → (∀ c ∈ ds, c.isDigit = true) →
      digitLimit < ds.length →
      Reads digitLimit depth cs (.error (.tooManyDigits digitLimit ds.length))

theorem openings_mono {cs cs' : List Char} (h : cs <:+: cs') : openings cs ≤ openings cs' :=
  h.sublist.countP_le

theorem DigitsWithin.mono {n : Nat} {cs cs' : List Char} (h : DigitsWithin n cs')
    (hpiece : cs <:+: cs') : DigitsWithin n cs :=
  fun ds hds => h ds (hds.trans hpiece)

namespace Reads

variable {α β : Type} {digitLimit depth : Nat} {cs cs' : List Char} {r : Read α}

/-- What a reader comes to on the end of a text, it may come to on the text. -/
theorem of_suffix (h : Reads digitLimit depth cs r) (hsuffix : cs <:+ cs') :
    Reads digitLimit depth cs' r := by
  cases h with
  | done hrest => exact .done (hrest.trans hsuffix)
  | wrong he => exact .wrong he
  | tooDeep hdepth => exact .tooDeep (hdepth.trans_le (openings_mono hsuffix.isInfix))
  | tooManyDigits hds hdigit hlong =>
      exact .tooManyDigits (hds.trans hsuffix.isInfix) hdigit hlong

theorem map (f : α → β) (h : Reads digitLimit depth cs r) :
    Reads digitLimit depth cs (r.map fun (a, rest) => (f a, rest)) := by
  cases h with
  | done hrest => exact .done hrest
  | wrong he => exact .wrong he
  | tooDeep hdepth => exact .tooDeep hdepth
  | tooManyDigits hds hdigit hlong => exact .tooManyDigits hds hdigit hlong

/-- A reader that fails says the same of every kind of result. -/
theorem of_error {e : Error} (h : Reads digitLimit depth cs (.error e : Read α)) :
    Reads digitLimit depth cs (.error e : Read β) := by
  cases h with
  | wrong he => exact .wrong he
  | tooDeep hdepth => exact .tooDeep hdepth
  | tooManyDigits hds hdigit hlong => exact .tooManyDigits hds hdigit hlong

/-- What follows an opening bracket is read one level deeper. -/
theorem of_opening {opening : Char} (hopening : isOpening opening = true)
    (h : Reads digitLimit depth cs r) : Reads digitLimit (depth + 1) (opening :: cs) r := by
  cases h with
  | done hrest => exact .done (hrest.trans (List.suffix_cons ..))
  | wrong he => exact .wrong he
  | tooDeep hdepth =>
      refine .tooDeep ?_
      rw [openings, List.countP_cons_of_pos hopening]
      exact Nat.succ_lt_succ hdepth
  | tooManyDigits hds hdigit hlong =>
      exact .tooManyDigits (hds.trans (List.suffix_cons ..).isInfix) hdigit hlong

end Reads

theorem skipSpace_suffix (cs : List Char) : skipSpace cs <:+ cs :=
  List.dropWhile_suffix _

/-- What stands behind a mark, which may have blank space in front, is the end of the text. -/
theorem suffix_of_skipSpace {cs rest after : List Char} {mark : Char} (hrest : rest <:+ cs)
    (h : skipSpace rest = mark :: after) : after <:+ cs := by
  have hskip := (skipSpace_suffix rest).trans hrest
  rw [h] at hskip
  exact (List.suffix_cons ..).trans hskip

/-! ## Texts, words and numbers -/

section

variable {digitLimit depth : Nat}

theorem reads_readText (skip : Nat) (cs : List Char) :
    Reads digitLimit depth cs (readText skip cs) := by
  -- Every case either stops or reads on from the next character of the same text.
  fun_induction readText skip cs with
  | case1 => exact .wrong rfl
  | case2 skip c rest ih => exact ih.of_suffix (List.suffix_cons ..)
  | case3 rest => exact .done (List.suffix_cons ..)
  | case4 => exact .wrong rfl
  | case5 => exact .wrong rfl
  | case6 digits n length hpoint ih => exact (ih.of_suffix (List.suffix_cons ..)).map _
  | case7 => exact .wrong rfl
  | case8 c rest hunit n hescape ih => exact (ih.of_suffix (List.suffix_cons ..)).map _
  | case9 => exact .wrong rfl
  | case10 c rest hquote hslash hcontrol ih => exact (ih.of_suffix (List.suffix_cons ..)).map _

/-- The digits of a whole number stand at the front of the text. -/
theorem eq_append_of_wholeDigits {cs ds rest : List Char} (h : wholeDigits cs = some (ds, rest)) :
    cs = ds ++ rest ∧ ∀ c ∈ ds, c.isDigit = true := by
  unfold wholeDigits at h
  split at h
  · obtain ⟨rfl, rfl⟩ := Prod.mk.inj (Option.some.inj h)
    exact ⟨rfl, fun c hc => by rw [List.mem_singleton.mp hc]; rfl⟩
  · rename_i c more _
    split at h
    · rename_i hc
      obtain ⟨rfl, rfl⟩ := Prod.mk.inj (Option.some.inj h)
      refine ⟨?_, ?_⟩
      · rw [List.cons_append, List.takeWhile_append_dropWhile]
      · intro d hd
        rcases List.mem_cons.mp hd with rfl | hd
        · exact hc
        · exact List.mem_takeWhile_imp hd
    · exact nomatch h
  · exact nomatch h

theorem suffix_of_fractionDigits {cs ds rest : List Char}
    (h : fractionDigits cs = some (ds, rest)) : rest <:+ cs := by
  unfold fractionDigits at h
  split at h
  · dsimp only at h
    split at h
    · exact nomatch h
    · obtain ⟨-, rfl⟩ := Prod.mk.inj (Option.some.inj h)
      exact (List.dropWhile_suffix _).trans (List.suffix_cons ..)
  · exact nomatch h

theorem suffix_of_exponentPart {cs rest : List Char} {e : Int}
    (h : exponentPart cs = some (e, rest)) : rest <:+ cs := by
  unfold exponentPart at h
  split at h
  · rename_i c more
    split at h
    · split at h
      rename_i negative digits hsign
      have hdigits : digits <:+ more := by
        split at hsign
        · rw [← (Prod.mk.inj hsign).2]
          exact List.suffix_cons ..
        · rw [← (Prod.mk.inj hsign).2]
          exact List.suffix_cons ..
        · rw [← (Prod.mk.inj hsign).2]
      dsimp only at h
      split at h
      · exact nomatch h
      · obtain ⟨-, rfl⟩ := Prod.mk.inj (Option.some.inj h)
        exact ((List.dropWhile_suffix _).trans hdigits).trans (List.suffix_cons ..)
    · exact nomatch h
  · exact nomatch h

/-- A number names the limit only if its whole digits exceed it. -/
theorem reads_readNumber (negative : Bool) (cs : List Char) :
    Reads digitLimit depth cs (readNumber digitLimit negative cs) := by
  unfold readNumber
  split
  · exact .wrong rfl
  · rename_i whole rest hwhole
    obtain ⟨rfl, hdigit⟩ := eq_append_of_wholeDigits hwhole
    split
    rename_i fraction afterFraction hasPoint hfraction
    have hafterFraction : afterFraction <:+ rest := by
      split at hfraction
      · rename_i ds r hds
        obtain ⟨-, h⟩ := Prod.mk.inj hfraction
        rw [← (Prod.mk.inj h).1]
        exact suffix_of_fractionDigits hds
      · obtain ⟨-, h⟩ := Prod.mk.inj hfraction
        rw [← (Prod.mk.inj h).1]
    split
    rename_i exponent afterExponent hasExponent hexponent
    have hafterExponent : afterExponent <:+ afterFraction := by
      split at hexponent
      · rename_i e r he
        obtain ⟨-, h⟩ := Prod.mk.inj hexponent
        rw [← (Prod.mk.inj h).1]
        exact suffix_of_exponentPart he
      · obtain ⟨-, h⟩ := Prod.mk.inj hexponent
        rw [← (Prod.mk.inj h).1]
    have hrest : afterExponent <:+ whole ++ rest :=
      (hafterExponent.trans hafterFraction).trans (List.suffix_append ..)
    split
    · exact .done hrest
    · split
      · rename_i hlong
        exact .tooManyDigits (List.prefix_append ..).isInfix hdigit hlong
      · exact .done hrest

theorem suffix_of_readWord? {cs rest : List Char} {v : Value}
    (h : readWord? cs = some (v, rest)) : rest <:+ cs := by
  obtain ⟨⟨word, w⟩, -, hword⟩ := List.exists_of_findSome?_eq_some h
  dsimp only at hword
  split at hword
  · obtain ⟨-, rfl⟩ := Prod.mk.inj (Option.some.inj hword)
    exact List.drop_suffix ..
  · exact nomatch hword

theorem reads_readScalar (cs : List Char) :
    Reads digitLimit depth cs (readScalar digitLimit cs) := by
  unfold readScalar
  split
  · exact ((reads_readText 0 _).of_suffix (List.suffix_cons ..)).map
      fun cs => Value.text (.ofList cs)
  · split
    · rename_i found hword
      exact .done (suffix_of_readWord? hword)
    · split
      · exact (reads_readNumber true _).of_suffix (List.suffix_cons ..)
      · exact reads_readNumber false _

/-! ## Lists and objects

    Each part calls the reader of values on ends of its own text only, so it is
    enough that the reader keeps to `Reads` there (`hread`). -/

variable {readValue : List Char → Read Value} {cs : List Char}

theorem reads_readItems (n : Nat)
    (hread : ∀ cs', cs' <:+ cs → Reads digitLimit depth cs' (readValue cs')) :
    Reads digitLimit depth cs (readItems readValue n cs) := by
  -- Induction on the bound, for every text: the later items are read from the end of this one.
  induction n generalizing cs with
  | zero => exact .wrong rfl
  | succ n ih =>
      have hitem := hread cs List.suffix_rfl
      rw [readItems]
      cases hvalue : readValue cs with
      | error e =>
          rw [hvalue] at hitem
          exact hitem.of_error
      | ok found =>
          obtain ⟨item, rest⟩ := found
          rw [hvalue] at hitem
          cases hitem with
          | done hrest =>
              dsimp only
              split
              · rename_i after hafter
                exact .done (suffix_of_skipSpace hrest hafter)
              · rename_i after hafter
                have hnext := (skipSpace_suffix after).trans (suffix_of_skipSpace hrest hafter)
                exact ((ih fun cs' h => hread cs' (h.trans hnext)).of_suffix hnext).map _
              · exact .wrong rfl

theorem reads_readEntry
    (hread : ∀ cs', cs' <:+ cs → Reads digitLimit depth cs' (readValue cs')) :
    Reads digitLimit depth cs (readEntry readValue cs) := by
  unfold readEntry
  split
  · rename_i rest
    have hname := (@reads_readText digitLimit depth 0 rest).of_suffix
      (List.suffix_cons '"' rest)
    cases htext : readText 0 rest with
    | error e =>
        rw [htext] at hname
        exact hname.of_error
    | ok found =>
        obtain ⟨name, more⟩ := found
        rw [htext] at hname
        cases hname with
        | done hmore =>
            dsimp only
            split
            · rename_i after hafter
              have hvalue := (skipSpace_suffix after).trans (suffix_of_skipSpace hmore hafter)
              exact ((hread _ hvalue).of_suffix hvalue).map _
            · exact .wrong rfl
  · exact .wrong rfl

theorem reads_readEntries (n : Nat) (found : Entries)
    (hread : ∀ cs', cs' <:+ cs → Reads digitLimit depth cs' (readValue cs')) :
    Reads digitLimit depth cs (readEntries readValue n found cs) := by
  induction n generalizing found cs with
  | zero => exact .wrong rfl
  | succ n ih =>
      have hentry := reads_readEntry hread
      rw [readEntries]
      cases hvalue : readEntry readValue cs with
      | error e =>
          rw [hvalue] at hentry
          exact hentry.of_error
      | ok entry =>
          obtain ⟨⟨name, v⟩, rest⟩ := entry
          rw [hvalue] at hentry
          cases hentry with
          | done hrest =>
              dsimp only
              split
              · rename_i after hafter
                exact .done (suffix_of_skipSpace hrest hafter)
              · rename_i after hafter
                have hnext := (skipSpace_suffix after).trans (suffix_of_skipSpace hrest hafter)
                exact (ih _ fun cs' h => hread cs' (h.trans hnext)).of_suffix hnext
              · exact .wrong rfl

theorem reads_readContainer (opening : Char)
    (hread : ∀ cs', cs' <:+ cs → Reads digitLimit depth cs' (readValue cs')) :
    Reads digitLimit depth cs (readContainer readValue opening cs) := by
  have hskip := skipSpace_suffix cs
  have hread' : ∀ cs', cs' <:+ skipSpace cs → Reads digitLimit depth cs' (readValue cs') :=
    fun cs' h => hread cs' (h.trans hskip)
  unfold readContainer
  dsimp only
  split
  · split
    · rename_i rest hrest
      exact .done (suffix_of_skipSpace List.suffix_rfl hrest)
    · exact ((reads_readItems _ hread').of_suffix hskip).map _
  · split
    · rename_i rest hrest
      exact .done (suffix_of_skipSpace List.suffix_rfl hrest)
    · exact ((reads_readEntries _ _ hread').of_suffix hskip).map _

/-- **THE READER AND ITS LIMITS**: a value is read from the front of the text, and a limit is named
    only where the text goes beyond it. -/
theorem reads_readValue (cs : List Char) :
    Reads digitLimit depth cs (Json.readValue digitLimit depth cs) := by
  -- Behind a bracket the reader has one level less, and what is left opens one bracket less.
  induction depth generalizing cs with
  | zero =>
      rw [Json.readValue.eq_def]
      dsimp only
      split
      · exact .tooDeep (by rw [openings, List.countP_cons_of_pos rfl]; exact Nat.succ_pos _)
      · exact .tooDeep (by rw [openings, List.countP_cons_of_pos rfl]; exact Nat.succ_pos _)
      · exact reads_readScalar cs
  | succ depth ih =>
      rw [Json.readValue.eq_def]
      dsimp only
      split
      · exact (reads_readContainer '[' fun cs' _ => ih cs').of_opening rfl
      · exact (reads_readContainer '{' fun cs' _ => ih cs').of_opening rfl
      · exact reads_readScalar cs

end

/-! ## Whole texts -/

/-- An error of a whole text that speaks of a limit comes from a text beyond it. -/
theorem read_beyond {limits : Limits} {text : String} {e : Error}
    (h : read limits text = .error e) (he : e.isOfLimits = true) :
    limits.depth < openings text.toList ∨ ¬ DigitsWithin limits.digits text.toList := by
  have hreads : Reads limits.digits limits.depth text.toList
      (readValue limits.digits limits.depth (skipSpace text.toList)) :=
    (reads_readValue _).of_suffix (skipSpace_suffix _)
  unfold read at h
  dsimp only at h
  split at h
  · rw [← Except.error.inj h] at he
    exact nomatch he
  · cases hvalue : readValue limits.digits limits.depth (skipSpace text.toList) with
    | error e' =>
        rw [hvalue] at h hreads
        obtain rfl : e' = e := Except.error.inj h
        cases hreads with
        | wrong hwrong =>
            rw [hwrong] at he
            exact nomatch he
        | tooDeep hdepth => exact Or.inl hdepth
        | tooManyDigits hds hdigit hlong =>
            exact Or.inr fun hwithin => absurd (hwithin _ hds hdigit) hlong.not_ge
    | ok found =>
        rw [hvalue] at h
        change (if (skipSpace found.2).isEmpty then pure found.1
          else throw Error.extraData) = _ at h
        split at h
        · exact nomatch h
        · rw [← Except.error.inj h] at he
          exact nomatch he

/-! ## Texts beyond the limits -/

/-- What does not open a list or an object is read as a text, a word or a number. -/
theorem readValue_eq_readScalar (digitLimit depth : Nat) {c : Char} {cs : List Char}
    (hc : isOpening c = false) :
    readValue digitLimit depth (c :: cs) = readScalar digitLimit (c :: cs) := by
  obtain ⟨hbracket, hbrace⟩ : c ≠ '[' ∧ c ≠ '{' := by
    simpa only [isOpening, Bool.or_eq_false_iff, decide_eq_false_iff_not] using hc
  cases depth with
  | zero =>
      simp only [readValue, List.cons.injEq, hbracket, hbrace, false_and, imp_self, implies_true]
  | succ depth =>
      simp only [readValue, List.cons.injEq, hbracket, hbrace, false_and, imp_self, implies_true]

section

variable {digitLimit : Nat} {d : Char} {ds rest : List Char}

theorem ne_of_isDigit {c : Char} (hd : d.isDigit = true) (hc : c.isDigit = false) : d ≠ c := by
  rintro rfl
  rw [hd] at hc
  exact nomatch hc

/-- No word starts with a digit. -/
theorem readWord?_digit (hd : d.isDigit = true) : readWord? (d :: rest) = none := by
  have hwords : ∀ w ∈ words, ∃ a as, w.1.toList = a :: as ∧ a.isDigit = false := by
    simp only [words, List.forall_mem_cons]
    exact ⟨⟨'n', _, rfl, rfl⟩, ⟨'t', _, rfl, rfl⟩, ⟨'f', _, rfl, rfl⟩, ⟨'N', _, rfl, rfl⟩,
      ⟨'I', _, rfl, rfl⟩, ⟨'-', _, rfl, rfl⟩, fun _ h => nomatch h⟩
  refine List.findSome?_eq_none_iff.mpr fun w hw => if_neg fun hfront => ?_
  obtain ⟨a, as, hword, ha⟩ := hwords w hw
  rw [hword, List.isPrefixOf_iff_prefix, List.cons_prefix_cons] at hfront
  exact ne_of_isDigit hd ha hfront.1.symm

theorem readNumber_long {negative : Bool} (hdigit : ∀ c ∈ d :: ds, c.isDigit = true)
    (hzero : d ≠ '0') (hlong : digitLimit < (d :: ds).length) :
    readNumber digitLimit negative (d :: ds ++ '}' :: rest)
      = .error (.tooManyDigits digitLimit (d :: ds).length) := by
  -- The brace behind the digits ends them, and starts neither a fraction nor an exponent.
  have htake : (ds ++ '}' :: rest).takeWhile Char.isDigit = ds := by
    rw [List.takeWhile_append_of_pos fun c hc => hdigit c (List.mem_cons_of_mem _ hc),
      List.takeWhile_cons_of_neg (by decide), List.append_nil]
  have hdrop : (ds ++ '}' :: rest).dropWhile Char.isDigit = '}' :: rest := by
    rw [List.dropWhile_append_of_pos fun c hc => hdigit c (List.mem_cons_of_mem _ hc),
      List.dropWhile_cons_of_neg (by decide)]
  have hwhole : wholeDigits (d :: ds ++ '}' :: rest) = some (d :: ds, '}' :: rest) := by
    rw [List.cons_append, wholeDigits.eq_def]
    split
    · rename_i heq
      exact absurd (List.cons.inj heq).1 hzero
    · rename_i heq
      obtain ⟨rfl, rfl⟩ := List.cons.inj heq
      rw [if_pos (hdigit d (List.mem_cons_self ..)), htake, hdrop]
    · rename_i heq
      exact nomatch heq
  unfold readNumber
  rw [hwhole]
  exact if_pos hlong

/-- A whole number with more digits than the limit is not read. -/
theorem readValue_long (depth : Nat) (hdigit : ∀ c ∈ d :: ds, c.isDigit = true)
    (hzero : d ≠ '0') (hlong : digitLimit < (d :: ds).length) :
    readValue digitLimit depth (skipSpace (d :: ds ++ '}' :: rest))
      = .error (.tooManyDigits digitLimit (d :: ds).length) := by
  have hd := hdigit d (List.mem_cons_self ..)
  have hspace : ¬ isSpace d = true := by
    simp only [isSpace, Bool.or_eq_true, decide_eq_true_eq, not_or]
    exact ⟨⟨⟨ne_of_isDigit hd rfl, ne_of_isDigit hd rfl⟩, ne_of_isDigit hd rfl⟩,
      ne_of_isDigit hd rfl⟩
  have hopening : isOpening d = false := by
    simp only [isOpening, Bool.or_eq_false_iff, decide_eq_false_iff_not]
    exact ⟨ne_of_isDigit hd rfl, ne_of_isDigit hd rfl⟩
  rw [List.cons_append, skipSpace, List.dropWhile_cons_of_neg hspace,
    readValue_eq_readScalar _ _ hopening]
  unfold readScalar
  split
  · rename_i heq
    exact absurd (List.cons.inj heq).1 (ne_of_isDigit hd rfl)
  · rw [readWord?_digit hd]
    dsimp only
    split
    · rename_i heq
      exact absurd (List.cons.inj heq).1 (ne_of_isDigit hd rfl)
    · exact readNumber_long hdigit hzero hlong

/-- Brackets that all open are too deep for a reader as soon as there are more of them than levels,
    whatever follows. -/
theorem readValue_nested (digitLimit depth : Nat) (rest : List Char) :
    readValue digitLimit depth (List.replicate (depth + 1) '[' ++ rest) = .error .tooDeep := by
  induction depth with
  | zero => rfl
  | succ depth ih =>
      show (readItems (readValue digitLimit depth) _ (List.replicate (depth + 1) '[' ++ rest)).map _
        = _
      rw [readItems, ih]
      rfl

end

/-- An object with one entry. -/
def entryText (cs : List Char) : String :=
  .ofList ('{' :: '"' :: 'a' :: '"' :: ':' :: cs ++ ['}'])

/-- What is wrong with the only entry of an object is wrong with the object. -/
theorem read_entryText {digitLimit depth : Nat} {cs : List Char} {e : Error}
    (h : readValue digitLimit depth (skipSpace (cs ++ ['}'])) = .error e) :
    read ⟨depth + 1, digitLimit⟩ (entryText cs) = .error e := by
  have hentry : readEntry (readValue digitLimit depth) ('"' :: 'a' :: '"' :: ':' :: cs ++ ['}'])
      = .error e := by
    show (readValue digitLimit depth (skipSpace (cs ++ ['}']))).map _ = _
    rw [h]
    rfl
  have hvalue : readValue digitLimit (depth + 1) ('{' :: '"' :: 'a' :: '"' :: ':' :: cs ++ ['}'])
      = .error e := by
    show (readEntries (readValue digitLimit depth) _ []
      ('"' :: 'a' :: '"' :: ':' :: cs ++ ['}'])).map _ = _
    rw [readEntries, hentry]
    rfl
  unfold read entryText
  rw [String.toList_ofList]
  show (readValue digitLimit (depth + 1)
    ('{' :: '"' :: 'a' :: '"' :: ':' :: cs ++ ['}'])).bind _ = _
  rw [hvalue]
  rfl

/-- An object with a long number in it is not read. -/
theorem read_long {digitLimit depth : Nat} {d : Char} {ds : List Char}
    (hdigit : ∀ c ∈ d :: ds, c.isDigit = true) (hzero : d ≠ '0')
    (hlong : digitLimit < (d :: ds).length) :
    read ⟨depth + 1, digitLimit⟩ (entryText (d :: ds))
      = .error (.tooManyDigits digitLimit (d :: ds).length) :=
  read_entryText (readValue_long depth hdigit hzero hlong)

/-- An object with brackets in it that all open is not read if there are too many of them. -/
theorem read_nested {digitLimit depth n : Nat} (hdeep : depth < n) :
    read ⟨depth + 1, digitLimit⟩ (entryText (List.replicate n '[')) = .error .tooDeep := by
  refine read_entryText ?_
  -- The first `depth + 1` brackets are too many already; the others are part of what follows.
  obtain ⟨k, rfl⟩ := Nat.exists_eq_add_of_lt hdeep
  have hsplit : List.replicate (depth + k + 1) '[' ++ ['}']
      = List.replicate (depth + 1) '[' ++ (List.replicate k '[' ++ ['}']) := by
    rw [← List.append_assoc, List.replicate_append_replicate, Nat.add_right_comm]
  rw [hsplit]
  exact readValue_nested digitLimit depth _

end SourceAtlas.Json
