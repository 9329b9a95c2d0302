import Mathlib.Data.List.TakeWhile
import SourceAtlas.Enrichment.Answer
import SourceAtlas.Json.Writer
import SourceAtlas.Proofs.Text.Marks
import SourceAtlas.Proofs.Text.Strip

/-! # The object in an answer

    What is taken for the object of an answer is a piece of it
    (`infix_of_payload?`), and if there is a whole block of code in the answer,
    of the first one (`infix_of_payload?_of_fenced?`).

    The search for a block knows nothing of texts in JSON.  So an object that
    stands alone or among prose is given back as it was written exactly if it
    does not hold a block itself, and an object inside a block exactly if it
    does not hold the mark of one (`payload_render_iff`). -/

namespace SourceAtlas

open Text

/-! ## Fences -/

theorem eq_of_mem_fence {c : Char} (h : c ∈ fence) : c = '\x60' :=
  List.eq_of_mem_replicate (n := 3) h

/-- The head of a fence has no backtick in it. -/
theorem exists_fenceHead (cs : List Char) :
    ∃ head, cs = head ++ dropFenceHead cs ∧ ∀ c ∈ head, c ∉ fence := by
  have hletter : ∀ l ∈ ['j', 's', 'o', 'n'], ∀ c, sameLetter l c = true → c ∉ fence := by
    intro l hl c hc hfence
    rw [eq_of_mem_fence hfence] at hc
    simp only [List.mem_cons, List.not_mem_nil, or_false] at hl
    rcases hl with rfl | rfl | rfl | rfl <;> exact absurd hc (by decide)
  have hword : ∃ word, cs = word ++ dropJsonWord cs ∧ ∀ c ∈ word, c ∉ fence := by
    unfold dropJsonWord
    split
    · rename_i a b c d rest
      split
      · rename_i hword
        simp only [Bool.and_eq_true] at hword
        refine ⟨[a, b, c, d], rfl, ?_⟩
        simp only [List.forall_mem_cons]
        exact ⟨hletter 'j' (by decide) a hword.1.1.1, hletter 's' (by decide) b hword.1.1.2,
          hletter 'o' (by decide) c hword.1.2, hletter 'n' (by decide) d hword.2, nofun⟩
      · exact ⟨[], rfl, nofun⟩
    · exact ⟨[], rfl, nofun⟩
  have hbreak : ∀ ds, ∃ lineEnd, ds = lineEnd ++ dropBreak ds ∧ ∀ c ∈ lineEnd, c ∉ fence := by
    intro ds
    unfold dropBreak
    split
    · exact ⟨['\r', '\n'], rfl, by simp [fence]⟩
    · exact ⟨['\r'], rfl, by simp [fence]⟩
    · exact ⟨['\n'], rfl, by simp [fence]⟩
    · exact ⟨[], rfl, nofun⟩
  obtain ⟨word, hcs, hwordfree⟩ := hword
  obtain ⟨lineEnd, hrest, hendfree⟩ :=
    hbreak ((dropJsonWord cs).dropWhile fun c => c = ' ' || c = '\t')
  refine ⟨word ++ (dropJsonWord cs).takeWhile (fun c => c = ' ' || c = '\t') ++ lineEnd, ?_, ?_⟩
  · rw [List.append_assoc, List.append_assoc, dropFenceHead, ← hrest,
      List.takeWhile_append_dropWhile]
    exact hcs
  · intro c hc hfence
    rcases List.mem_append.mp hc with hc | hc
    · rcases List.mem_append.mp hc with hc | hc
      · exact hwordfree c hc hfence
      · have hblank := List.mem_takeWhile_imp hc
        rw [eq_of_mem_fence hfence] at hblank
        exact absurd hblank (by decide)
    · exact hendfree c hc hfence

/-- What is found inside a fence stands between two marks. -/
theorem exists_of_fenced? {cs inner : List Char} (h : fenced? cs = some inner) :
    ∃ before head after, cs = before ++ fence ++ (head ++ inner ++ fence ++ after) := by
  obtain ⟨⟨before, rest⟩, hopen, hclose⟩ := Option.bind_eq_some_iff.mp h
  obtain ⟨⟨inside, after⟩, hinside, rfl⟩ := Option.map_eq_some_iff.mp hclose
  obtain ⟨head, hhead, -⟩ := exists_fenceHead rest
  refine ⟨before, head, after, ?_⟩
  rw [breakOn_eq_some hopen]
  dsimp only at hhead hinside ⊢
  rw [List.append_assoc head, List.append_assoc head, ← breakOn_eq_some hinside, ← hhead]

/-- Where there are two marks, there is something inside a fence. -/
theorem fenced?_ne_none {before rest : List Char} (h : fence <:+: rest) :
    fenced? (before ++ fence ++ rest) ≠ none := by
  obtain ⟨first, behind, hopen, -, hrest⟩ := breakOn_append fence before rest
  obtain ⟨head, hhead, hheadfree⟩ := exists_fenceHead behind
  obtain ⟨front, back, hmark⟩ : fence <:+: behind := h.trans hrest.isInfix
  rw [hhead] at hmark
  obtain ⟨front', -, hinside⟩ := occurs_behind (by decide) hheadfree hmark.symm
  intro hnone
  rw [fenced?, hopen, Option.bind_some, Option.map_eq_none_iff, breakOn_eq_none_iff] at hnone
  exact hnone ⟨front', back, hinside.symm⟩

/-! ## Pieces of an answer -/

/-- The object between the first opening and the last closing brace. -/
theorem braced?_around {front back : List Char} (hfront : '{' ∉ front) (hback : '}' ∉ back)
    (cs : List Char) :
    braced? (front ++ ('{' :: cs ++ ['}']) ++ back) = some ('{' :: cs ++ ['}']) := by
  have hnone : front.dropWhile (· ≠ '{') = [] := by
    refine List.dropWhile_eq_nil_iff.mpr fun c hc => decide_eq_true ?_
    rintro rfl
    exact hfront hc
  have hdrop : (front ++ ('{' :: cs ++ ['}']) ++ back).dropWhile (· ≠ '{')
      = ('{' :: cs) ++ '}' :: back := by
    have h := dropWhile_append_cons (p := (· ≠ '{')) (c := '{') (by decide) front
      (cs ++ '}' :: back)
    rw [hnone, List.nil_append, ← List.cons_append] at h
    rw [← h]
    simp
  rw [braced?, hdrop, splitLast_append hback]
  rfl

theorem infix_of_braced? {cs object : List Char} (h : braced? cs = some object) :
    object <:+: cs := by
  obtain ⟨⟨before, after⟩, hsplit, rfl⟩ := Option.map_eq_some_iff.mp h
  have hprefix : before ++ ['}'] <+: cs.dropWhile (· ≠ '{') := by
    rw [splitLast_eq_some hsplit, List.append_cons before '}' after]
    exact List.prefix_append ..
  exact hprefix.isInfix.trans (List.dropWhile_suffix _).isInfix

/-- The object is a piece of the first block, if there is one. -/
theorem infix_of_payload?_of_fenced? {answer text : String} {inner : List Char}
    (h : payload? answer = some text) (hinner : fenced? (strip answer.toList) = some inner) :
    text.toList <:+: inner := by
  obtain ⟨object, hobject, rfl⟩ := Option.map_eq_some_iff.mp h
  rw [String.toList_ofList]
  rw [hinner] at hobject
  exact (infix_of_braced? hobject).trans (infix_of_strip inner)

/-- The object in an answer is a piece of it. -/
theorem infix_of_payload? {answer text : String} (h : payload? answer = some text) :
    text.toList <:+: answer.toList := by
  refine List.IsInfix.trans ?_ (infix_of_strip answer.toList)
  cases hinner : fenced? (strip answer.toList) with
  | none =>
      obtain ⟨object, hobject, rfl⟩ := Option.map_eq_some_iff.mp h
      rw [String.toList_ofList]
      rw [hinner] at hobject
      exact infix_of_braced? hobject
  | some inner =>
      obtain ⟨before, head, after, hcs⟩ := exists_of_fenced? hinner
      refine (infix_of_payload?_of_fenced? h hinner).trans ?_
      rw [hcs]
      exact ⟨before ++ fence ++ head, fence ++ after, by simp only [List.append_assoc]⟩

/-! ## Objects given back -/

/-- A text has the mark of a block of code in it. -/
def HoldsFence (text : String) : Prop := fence <:+: text.toList

/-- A text has two marks in it, one behind the other, and so a whole block of code. -/
def HoldsBlock (text : String) : Prop :=
  ∃ before inside after, text.toList = before ++ fence ++ (inside ++ fence ++ after)

theorem holdsFence_iff {text : String} : HoldsFence text ↔ breakOn fence text.toList ≠ none :=
  (not_iff_comm.mp breakOn_eq_none_iff.symm).symm

theorem holdsBlock_iff {text : String} : HoldsBlock text ↔ fenced? text.toList ≠ none := by
  constructor
  · rintro ⟨before, inside, after, htext⟩
    rw [htext]
    exact fenced?_ne_none ⟨inside, after, rfl⟩
  · intro h
    obtain ⟨inner, hinner⟩ := Option.ne_none_iff_exists'.mp h
    obtain ⟨before, head, after, htext⟩ := exists_of_fenced? hinner
    exact ⟨before, head ++ inner, after, htext⟩

instance : DecidablePred HoldsFence := fun _ => decidable_of_iff _ holdsFence_iff.symm

instance : DecidablePred HoldsBlock := fun _ => decidable_of_iff _ holdsBlock_iff.symm

/-- A text without braces and backticks. -/
def IsProse (text : String) : Prop := ∀ c ∈ text.toList, c ≠ '{' ∧ c ≠ '}' ∧ c ≠ '\x60'

instance : DecidablePred IsProse := fun text =>
  decidable_of_iff (text.toList.all fun c => c ≠ '{' ∧ c ≠ '}' ∧ c ≠ '\x60')
    (List.all_eq_true.trans (forall₂_congr fun _ _ => decide_eq_true_iff))

/-- A text that starts with an opening brace and ends with a closing one. -/
def IsBraced (text : String) : Prop := ∃ cs, text.toList = '{' :: cs ++ ['}']

/-- A text in a block of code that is marked as JSON. -/
def inBlock (text : String) : String := "\x60\x60\x60json\n" ++ text ++ "\n\x60\x60\x60"

/-- What is written as an object stands in braces. -/
theorem isBraced_render (spacing : Json.Spacing) (depth : Nat) (entries : Entries) :
    IsBraced (Json.render spacing depth (.record entries)) := by
  cases entries with
  | nil => exact ⟨[], String.toList_ofList⟩
  | cons e rest =>
      refine ⟨(spacing.opening depth ++ Json.renderEntries spacing depth (e :: rest)
        ++ spacing.closing depth).toList, ?_⟩
      simp [Json.render]

/-- What has no backtick in it, in front of a text or behind it, has no part in a block. -/
theorem block_within {front cs back before inside after : List Char}
    (hfront : ∀ c ∈ front, c ∉ fence) (hback : ∀ c ∈ back, c ∉ fence)
    (h : front ++ cs ++ back = before ++ fence ++ (inside ++ fence ++ after)) :
    ∃ before' after', cs = before' ++ fence ++ (inside ++ fence ++ after') := by
  rw [List.append_assoc] at h
  obtain ⟨before', -, hopen⟩ := occurs_behind (by decide) hfront h
  rw [← List.append_assoc, ← List.append_assoc] at hopen
  obtain ⟨after', -, hclose⟩ := occurs_before (by decide) hback hopen
  refine ⟨before', after', ?_⟩
  rw [hclose]
  simp only [List.append_assoc]

/-- An object in prose is found exactly if it holds no block. -/
theorem payload?_around_iff {before text after : String} (hbefore : IsProse before)
    (htext : IsBraced text) (hafter : IsProse after) :
    payload? (before ++ text ++ after) = some text ↔ ¬ HoldsBlock text := by
  obtain ⟨cs, hcs⟩ := htext
  have hstrip : strip (before ++ text ++ after).toList
      = before.toList.dropWhile isBlank ++ text.toList ++ dropEnd isBlank after.toList := by
    rw [String.toList_append, String.toList_append, hcs]
    exact strip_around (by decide) (by decide) _ _ _
  have hfront : ∀ c ∈ before.toList.dropWhile isBlank, c ≠ '{' ∧ c ≠ '}' ∧ c ≠ '\x60' :=
    fun c hc => hbefore c ((List.dropWhile_suffix _).subset hc)
  have hback : ∀ c ∈ dropEnd isBlank after.toList, c ≠ '{' ∧ c ≠ '}' ∧ c ≠ '\x60' := by
    intro c hc
    refine hafter c (List.mem_reverse.mp ((List.dropWhile_suffix isBlank).subset ?_))
    exact List.mem_reverse.mp hc
  generalize before.toList.dropWhile isBlank = front at hstrip hfront
  generalize dropEnd isBlank after.toList = back at hstrip hback
  cases hfenced : fenced? (strip (before ++ text ++ after).toList) with
  | none =>
      refine iff_of_true ?_ ?_
      · rw [payload?, hfenced, Option.map_none, Option.getD_none, hstrip, hcs, braced?_around
          (fun h => (hfront _ h).1 rfl) (fun h => (hback _ h).2.1 rfl), ← hcs]
        exact congrArg some (String.ofList_toList)
      · rintro ⟨x, inside, z, hblock⟩
        have hmarks : strip (before ++ text ++ after).toList
            = front ++ x ++ fence ++ (inside ++ fence ++ (z ++ back)) := by
          rw [hstrip, hblock]
          simp
        rw [hmarks] at hfenced
        exact fenced?_ne_none ⟨inside, z ++ back, rfl⟩ hfenced
  | some inner =>
      obtain ⟨x, head, z, hsplit⟩ := exists_of_fenced? hfenced
      rw [hstrip] at hsplit
      obtain ⟨x', z', hblock⟩ := block_within
        (fun c hc hfence => (hfront c hc).2.2 (eq_of_mem_fence hfence))
        (fun c hc hfence => (hback c hc).2.2 (eq_of_mem_fence hfence)) hsplit
      -- What is found lies between the marks, so it is shorter than the object.
      refine iff_of_false ?_ (not_not_intro ⟨x', head ++ inner, z', hblock⟩)
      intro hpayload
      have hlength := (infix_of_payload?_of_fenced? hpayload hfenced).length_le
      rw [hblock] at hlength
      simp only [List.length_append] at hlength
      have hpositive : 0 < fence.length := by decide
      omega

/-- An object that stands alone is found exactly if it holds no block. -/
theorem payload?_eq_self_iff {text : String} (htext : IsBraced text) :
    payload? text = some text ↔ ¬ HoldsBlock text := by
  have hempty : IsProse "" := nofun
  have h := payload?_around_iff hempty htext hempty
  rwa [String.empty_append, String.append_empty] at h

/-- Inside a block, the first mark behind its head ends what is found. -/
theorem fenced?_inBlock {text : String} (htext : IsBraced text) :
    fenced? (strip (inBlock text).toList)
      = (breakOn fence (text.toList ++ '\n' :: fence)).map (·.1) := by
  obtain ⟨cs, hcs⟩ := htext
  have hchars : (inBlock text).toList
      = '\x60' :: ('\x60' :: '\x60' :: 'j' :: 's' :: 'o' :: 'n' :: '\n'
        :: (text.toList ++ ['\n', '\x60', '\x60'])) ++ ['\x60'] := by
    simp [inBlock]
  have hstrip : strip (inBlock text).toList
      = fence ++ 'j' :: 's' :: 'o' :: 'n' :: '\n' :: (text.toList ++ '\n' :: fence) := by
    rw [hchars, strip_eq_self (by decide) (by decide)]
    simp [fence]
  have hopen : breakOn fence
      (fence ++ 'j' :: 's' :: 'o' :: 'n' :: '\n' :: (text.toList ++ '\n' :: fence))
      = some ([], 'j' :: 's' :: 'o' :: 'n' :: '\n' :: (text.toList ++ '\n' :: fence)) := rfl
  have hhead : dropFenceHead ('j' :: 's' :: 'o' :: 'n' :: '\n' :: (text.toList ++ '\n' :: fence))
      = text.toList ++ '\n' :: fence := by
    rw [hcs]
    rfl
  rw [hstrip, fenced?, hopen, Option.bind_some]
  dsimp only
  rw [hhead]

/-- An object in a block is found exactly if it does not hold the mark of one. -/
theorem payload?_inBlock_iff {text : String} (htext : IsBraced text) :
    payload? (inBlock text) = some text ↔ ¬ HoldsFence text := by
  have hfenced := fenced?_inBlock htext
  by_cases hfence : HoldsFence text
  · -- The first mark ends the block inside the object.
    obtain ⟨x, z, hsplit⟩ := hfence
    obtain ⟨first, rest, hbreak, hlength, -⟩ := breakOn_append fence x (z ++ '\n' :: fence)
    rw [← List.append_assoc, hsplit] at hbreak
    rw [hbreak, Option.map_some] at hfenced
    refine iff_of_false ?_ (not_not_intro ⟨x, z, hsplit⟩)
    intro hpayload
    have hpiece : text.toList.length ≤ first.length :=
      (infix_of_payload?_of_fenced? hpayload hfenced).length_le
    have hlonger : text.toList.length = x.length + 3 + z.length := by
      rw [← hsplit, List.length_append, List.length_append]
      rfl
    omega
  · obtain ⟨first, rest, hbreak, -⟩ := breakOn_append fence (text.toList ++ ['\n']) []
    rw [List.append_nil, List.append_assoc, List.singleton_append] at hbreak
    rw [hbreak, Option.map_some] at hfenced
    have hfirst : first = text.toList ++ ['\n'] := by
      rcases occurs_beside (by decide) (breakOn_eq_some hbreak) with
        ⟨r, hinside, -⟩ | ⟨r, hfirst, hlast⟩
      · exact absurd ⟨first, r, hinside.symm⟩ hfence
      · have hlength := congrArg List.length hlast
        rw [List.length_append, List.length_append] at hlength
        have hnil : r = [] := List.eq_nil_of_length_eq_zero (by omega)
        rw [hfirst, hnil]
    obtain ⟨cs, hcs⟩ := htext
    have hstrip : strip first = text.toList := by
      have h := strip_around (a := '{') (b := '}') (by decide) (by decide) [] cs ['\n']
      rw [hfirst, hcs]
      exact h.trans (List.append_nil _)
    have hbraced : braced? text.toList = some text.toList := by
      have h := @braced?_around [] [] nofun nofun cs
      rw [List.append_nil, List.nil_append, ← hcs] at h
      exact h
    refine iff_of_true ?_ hfence
    rw [payload?, hfenced, Option.map_some, Option.getD_some, hstrip, hbraced]
    exact congrArg some String.ofList_toList

theorem payload_eq_ok_iff {answer text : String} :
    payload answer = .ok text ↔ payload? answer = some text := by
  unfold payload
  cases payload? answer with
  | none => exact iff_of_false nofun nofun
  | some found =>
      exact ⟨fun h => congrArg some (Except.ok.inj h), fun h => congrArg _ (Option.some.inj h)⟩

/-- **ROUND TRIP**: an object that was written in any layout is given back as it is if it stands
    alone or among prose and holds no block of code, or if it stands in a block and does not hold
    the mark of one; and otherwise it is not. -/
theorem payload_render_iff (spacing : Json.Spacing) (entries : Entries) {before after : String}
    (hbefore : IsProse before) (hafter : IsProse after) :
    let text := Json.render spacing 0 (.record entries)
    (payload text = .ok text ↔ ¬ HoldsBlock text)
    ∧ (payload (inBlock text) = .ok text ↔ ¬ HoldsFence text)
    ∧ (payload (before ++ text ++ after) = .ok text ↔ ¬ HoldsBlock text) := by
  intro text
  have htext : IsBraced text := isBraced_render spacing 0 entries
  refine ⟨?_, ?_, ?_⟩
  · exact payload_eq_ok_iff.trans (payload?_eq_self_iff htext)
  · exact payload_eq_ok_iff.trans (payload?_inBlock_iff htext)
  · exact payload_eq_ok_iff.trans (payload?_around_iff hbefore htext hafter)

/-- A text in two lines, with braces in it and one mark of a block. -/
def markedEntries : Entries :=
  [("note", .text "\x60\x60\x60json \x7b"), ("tags", .list [.text "\x7d\x7d", .null])]

/-- One mark is no block, but it ends the block around it. -/
theorem payload_render_marked :
    let text := Json.render (Json.indented 2) 0 (.record markedEntries)
    IsProse "Here it is:\n" ∧ IsProse "\nThat is all." ∧ ¬ HoldsBlock text ∧ HoldsFence text
    ∧ payload text = .ok text ∧ payload (inBlock text) ≠ .ok text
    ∧ payload ("Here it is:\n" ++ text ++ "\nThat is all.") = .ok text := by
  intro text
  have hbefore : IsProse "Here it is:\n" := by decide +kernel
  have hafter : IsProse "\nThat is all." := by decide +kernel
  have hblock : ¬ HoldsBlock text := by decide +kernel
  have hfence : HoldsFence text := by decide +kernel
  obtain ⟨halone, hinside, hamong⟩ :=
    payload_render_iff (Json.indented 2) markedEntries hbefore hafter
  exact ⟨hbefore, hafter, hblock, hfence, halone.mpr hblock, fun h => hinside.mp h hfence,
    hamong.mpr hblock⟩

/-- A text with a block of code in it: the block is found in place of the object. -/
theorem payload_ne_of_block :
    let text := Json.write (.record [("a", .text "\x60\x60\x60\x7b\x7d\x60\x60\x60")])
    text = "\x7b\"a\": \"\x60\x60\x60\x7b\x7d\x60\x60\x60\"\x7d"
    ∧ payload text = .ok "\x7b\x7d" ∧ payload text ≠ .ok text := by
  decide +kernel

end SourceAtlas
