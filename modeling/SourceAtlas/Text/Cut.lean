/-!
# Cutting texts

Cutting a list of characters at a mark, and putting pieces together again. The cuts lose nothing
but the mark: see `breakOn_eq_some` and `splitLast_eq_some`.
-/

namespace SourceAtlas.Text

/-- The parts before and after the first occurrence of a mark. -/
def breakOn (mark : List Char) : List Char → Option (List Char × List Char)
  | [] => if mark.isEmpty then some ([], []) else none
  | c :: rest =>
    if mark.isPrefixOf (c :: rest) then some ([], (c :: rest).drop mark.length)
    else (breakOn mark rest).map fun (before, after) => (c :: before, after)

/-- The parts before and after the last occurrence of a character. -/
def splitLast (mark : Char) : List Char → Option (List Char × List Char)
  | [] => none
  | c :: rest =>
    match splitLast mark rest with
    | some (before, after) => some (c :: before, after)
    | none => if c = mark then some ([], rest) else none

/-- What follows the last occurrence of a mark that is not empty. -/
def afterLast? (mark : List Char) : List Char → Option (List Char)
  | [] => none
  | c :: rest =>
    match afterLast? mark rest with
    | some after => some after
    | none =>
      if mark.isPrefixOf (c :: rest) then some ((c :: rest).drop mark.length) else none

/-- What follows the last occurrence of a mark, or everything if there is none. -/
def afterLast (mark cs : List Char) : List Char :=
  (afterLast? mark cs).getD cs

/-- The pieces between the characters of a class; there is always one more of them than there are
    such characters. -/
def splitAll (isMark : Char → Bool) : List Char → List (List Char)
  | [] => [[]]
  | c :: rest =>
    if isMark c then [] :: splitAll isMark rest
    else match splitAll isMark rest with
      | [] => [[c]]
      | piece :: pieces => (c :: piece) :: pieces

/-- The pieces between the occurrences of a mark of several characters, from the left. `skip`
    characters of the input belong to a mark that has been read. -/
def splitMarkFrom (mark : List Char) : (skip : Nat) → List Char → List (List Char)
  | _, [] => [[]]
  | skip + 1, _ :: rest => splitMarkFrom mark skip rest
  | 0, c :: rest =>
    if mark.isPrefixOf (c :: rest) then [] :: splitMarkFrom mark (mark.length - 1) rest
    else match splitMarkFrom mark 0 rest with
      | [] => [[c]]
      | piece :: pieces => (c :: piece) :: pieces

/-- The pieces between the occurrences of a mark of at least one character. -/
def splitMark (mark cs : List Char) : List (List Char) :=
  splitMarkFrom mark 0 cs

/-- Writes `new` for every character `old`. -/
def replaceChar (old new : Char) (cs : List Char) : List Char :=
  cs.map fun c => if c = old then new else c

/-- Writes `new` for every pair of colons, from the left. -/
def replaceColons (new : Char) : List Char → List Char
  | ':' :: ':' :: rest => new :: replaceColons new rest
  | c :: rest => c :: replaceColons new rest
  | [] => []

/-- Pieces put together with a separator between them. -/
def joinWith (separator : List Char) : List (List Char) → List Char
  | [] => []
  | [piece] => piece
  | piece :: rest => piece ++ separator ++ joinWith separator rest

/-- The pieces of a text at a mark, no more than `count` marks from the left being cut. -/
def splitAtMost (count : Nat) (mark cs : List Char) : List (List Char) :=
  let pieces := splitMark mark cs
  if count < pieces.length then pieces.take count ++ [joinWith mark (pieces.drop count)]
  else pieces

theorem splitLast_eq_some {mark : Char} {cs before after : List Char}
    (h : splitLast mark cs = some (before, after)) : cs = before ++ mark :: after := by
  induction cs generalizing before after with
  | nil => simp [splitLast] at h
  | cons c rest ih =>
    rw [splitLast] at h
    split at h
    · next b a hs =>
      obtain ⟨rfl, rfl⟩ : c :: b = before ∧ a = after := by simpa using h
      simp [ih hs]
    · split at h
      · next hc =>
        obtain ⟨rfl, rfl⟩ : [] = before ∧ rest = after := by simpa using h
        simp [hc]
      · simp at h

theorem breakOn_eq_some {mark cs before after : List Char}
    (h : breakOn mark cs = some (before, after)) : cs = before ++ mark ++ after := by
  induction cs generalizing before after with
  | nil =>
    rw [breakOn] at h
    split at h
    · next hm =>
      obtain ⟨rfl, rfl⟩ : [] = before ∧ [] = after := by simpa using h
      simpa using hm
    · simp at h
  | cons c rest ih =>
    rw [breakOn] at h
    split at h
    · next hp =>
      obtain ⟨rfl, rfl⟩ : [] = before ∧ (c :: rest).drop mark.length = after := by simpa using h
      obtain ⟨t, ht⟩ := List.isPrefixOf_iff_prefix.1 hp
      simp [← ht]
    · obtain ⟨⟨b, a⟩, hs, he⟩ := Option.map_eq_some_iff.1 h
      obtain ⟨rfl, rfl⟩ : c :: b = before ∧ a = after := by simpa using he
      simp [ih hs]

end SourceAtlas.Text
