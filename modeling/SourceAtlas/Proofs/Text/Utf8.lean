import Mathlib.Data.List.Basic
import SourceAtlas.Text.Utf8

/-! # Bytes of a text, read again

    The bytes of a character are its first byte, which says how many follow, and
    those (`Spells`); every character is spelled so (`exists_spells`), and what
    is spelled is read (`decodeAt_of_spells`).  So a text without halves of
    surrogate pairs comes back from its bytes (`decode_encode`).  The characters
    U+10D800 to U+10DFFF are excluded with them, as they stand for them. -/

namespace SourceAtlas.Utf8

/-! ## The bytes of a character -/

theorem toList_loop (data : ByteArray) (i : Nat) (found : List UInt8) :
    ByteArray.toList.loop data i found = found.reverse ++ data.data.toList.drop i := by
  fun_induction ByteArray.toList.loop data i found with
  | case1 i found h ih =>
      have hi : i < data.data.toList.length := h
      have hget : data.get! i = data.data.toList[i] := by
        rw [ByteArray.get!, getElem!_pos data.data i h, Array.getElem_toList]
      rw [ih, List.drop_eq_getElem_cons hi, List.reverse_cons, List.append_assoc, hget]
      rfl
  | case2 i found h =>
      have hi : data.data.toList.length ≤ i := Nat.le_of_not_lt h
      rw [List.drop_eq_nil_of_le hi, List.append_nil]

theorem toList_toUTF8_singleton (c : Char) :
    (String.singleton c).toUTF8.toList = String.utf8EncodeChar c := by
  rw [String.toUTF8_eq_toByteArray, String.toByteArray_singleton, ByteArray.toList, toList_loop,
    List.utf8Encode, List.toList_data_toByteArray, List.flatMap_singleton]
  rfl

/-- The bytes are a character: the first one says how many follow and within which bounds, and those
    that follow do so. -/
structure Spells (c : Char) (first : UInt8) (more : List UInt8) : Prop where
  follow : ∃ low high, follow? first = some (more.length, low, high)
    ∧ ∀ rest, continuation more.length low high (more ++ rest) = (more, none)
  codePoint : codePoint first more = c.toNat

section

variable {n : Nat}

theorem toNat_ofNat_of_lt (h : n < 256) : (UInt8.ofNat n).toNat = n := by
  rw [UInt8.toNat_ofNat']
  exact Nat.mod_eq_of_lt h

/-- A byte that continues a character. -/
theorem continuation_ofNat (count : Nat) {low high : UInt8} (hlow : low.toNat ≤ n % 64 + 128)
    (hhigh : n % 64 + 128 ≤ high.toNat) {bytes rest : List UInt8}
    (h : continuation count 0x80 0xBF (bytes ++ rest) = (bytes, none)) :
    continuation (count + 1) low high (.ofNat (n % 64 + 128) :: bytes ++ rest)
      = (.ofNat (n % 64 + 128) :: bytes, none) := by
  have hbyte := toNat_ofNat_of_lt (n := n % 64 + 128) (by omega)
  have hbounds :
      (low ≤ UInt8.ofNat (n % 64 + 128) && UInt8.ofNat (n % 64 + 128) ≤ high) = true := by
    rw [Bool.and_eq_true, decide_eq_true_eq, decide_eq_true_eq, UInt8.le_iff_toNat_le,
      UInt8.le_iff_toNat_le, hbyte]
    exact ⟨hlow, hhigh⟩
  rw [List.cons_append, continuation, if_pos hbounds, h]

theorem continuation_nil (low high : UInt8) (rest : List UInt8) :
    continuation 0 low high ([] ++ rest) = ([], none) := by
  rw [continuation]

/-- A byte that continues a character and is not the first one to do so. -/
theorem continuation_later (n count : Nat) {bytes rest : List UInt8}
    (h : continuation count 0x80 0xBF (bytes ++ rest) = (bytes, none)) :
    continuation (count + 1) 0x80 0xBF (.ofNat (n % 64 + 128) :: bytes ++ rest)
      = (.ofNat (n % 64 + 128) :: bytes, none) :=
  continuation_ofNat count (Nat.le_add_left ..) (by show _ ≤ 191; omega) h

/-- What a first byte says, by its number. -/
theorem follow?_ofNat (h : n < 256) :
    follow? (.ofNat n)
      = if n ≤ 0x7F then some (0, 0x80, 0xBF)
        else if 0xC2 ≤ n ∧ n ≤ 0xDF then some (1, 0x80, 0xBF)
        else if n = 0xE0 then some (2, 0xA0, 0xBF)
        else if n = 0xED then some (2, 0x80, 0x9F)
        else if 0xE1 ≤ n ∧ n ≤ 0xEF then some (2, 0x80, 0xBF)
        else if n = 0xF0 then some (3, 0x90, 0xBF)
        else if 0xF1 ≤ n ∧ n ≤ 0xF3 then some (3, 0x80, 0xBF)
        else if n = 0xF4 then some (3, 0x80, 0x8F)
        else none := by
  rw [follow?]
  simp only [UInt8.le_iff_toNat_le, ← UInt8.toNat_inj, toNat_ofNat_of_lt h]
  rfl

theorem toNat_lt (c : Char) : c.toNat < 0x110000 := by
  rcases c.valid with h | h
  · exact Nat.lt_trans h (by decide)
  · exact h.2

theorem spells_one {c : Char} (h : c.toNat ≤ 0x7F) : Spells c (.ofNat c.toNat) [] where
  follow := by
    refine ⟨0x80, 0xBF, ?_, continuation_nil _ _⟩
    rw [follow?_ofNat (by omega), if_pos h]
    rfl
  codePoint := toNat_ofNat_of_lt (by omega)

theorem spells_two {c : Char} (hlow : 0x7F < c.toNat) (hhigh : c.toNat ≤ 0x7FF) :
    Spells c (.ofNat (c.toNat / 64 % 32 + 192)) [.ofNat (c.toNat % 64 + 128)] where
  follow := by
    refine ⟨0x80, 0xBF, ?_, fun rest => ?_⟩
    · rw [follow?_ofNat (by omega), if_neg (by omega), if_pos (by omega)]
      rfl
    · exact continuation_later c.toNat 0 (continuation_nil ..)
  codePoint := by
    show (UInt8.ofNat _).toNat % 0x20 * 0x40 + (UInt8.ofNat _).toNat % 0x40 = c.toNat
    rw [toNat_ofNat_of_lt (by omega), toNat_ofNat_of_lt (by omega)]
    omega

/-- The bounds of the second of three bytes keep out longer forms of what takes two, and the halves
    of surrogate pairs. -/
theorem spells_three {c : Char} (hlow : 0x7FF < c.toNat) (hhigh : c.toNat ≤ 0xFFFF) :
    Spells c (.ofNat (c.toNat / 4096 % 16 + 224))
      [.ofNat (c.toNat / 64 % 64 + 128), .ofNat (c.toNat % 64 + 128)] where
  follow := by
    have hvalid : c.toNat < 0xD800 ∨ 0xDFFF < c.toNat := c.valid.imp id fun h => h.1
    have hlast := fun rest => continuation_later c.toNat 0 (continuation_nil 0x80 0xBF rest)
    rw [follow?_ofNat (by omega), if_neg (by omega), if_neg (by omega)]
    split
    · exact ⟨0xA0, 0xBF, rfl, fun rest =>
        continuation_ofNat 1 (by show 160 ≤ _; omega) (by show _ ≤ 191; omega) (hlast rest)⟩
    · split
      · exact ⟨0x80, 0x9F, rfl, fun rest =>
          continuation_ofNat 1 (Nat.le_add_left ..) (by show _ ≤ 159; omega) (hlast rest)⟩
      · rw [if_pos (by omega)]
        exact ⟨0x80, 0xBF, rfl, fun rest => continuation_later (c.toNat / 64) 1 (hlast rest)⟩
  codePoint := by
    show ((UInt8.ofNat _).toNat % 0x10 * 0x40 + (UInt8.ofNat _).toNat % 0x40) * 0x40
      + (UInt8.ofNat _).toNat % 0x40 = c.toNat
    rw [toNat_ofNat_of_lt (by omega), toNat_ofNat_of_lt (by omega), toNat_ofNat_of_lt (by omega)]
    omega

theorem spells_four {c : Char} (hlow : 0xFFFF < c.toNat) :
    Spells c (.ofNat (c.toNat / 262144 % 8 + 240))
      [.ofNat (c.toNat / 4096 % 64 + 128), .ofNat (c.toNat / 64 % 64 + 128),
        .ofNat (c.toNat % 64 + 128)] where
  follow := by
    have hvalid := toNat_lt c
    have hlater := fun rest => continuation_later (c.toNat / 64) 1
      (continuation_later c.toNat 0 (continuation_nil 0x80 0xBF rest))
    rw [follow?_ofNat (by omega), if_neg (by omega), if_neg (by omega), if_neg (by omega),
      if_neg (by omega), if_neg (by omega)]
    split
    · exact ⟨0x90, 0xBF, rfl, fun rest =>
        continuation_ofNat 2 (by show 144 ≤ _; omega) (by show _ ≤ 191; omega) (hlater rest)⟩
    · split
      · exact ⟨0x80, 0xBF, rfl, fun rest => continuation_later (c.toNat / 4096) 2 (hlater rest)⟩
      · rw [if_pos (by omega)]
        exact ⟨0x80, 0x8F, rfl, fun rest =>
          continuation_ofNat 2 (Nat.le_add_left ..) (by show _ ≤ 143; omega) (hlater rest)⟩
  codePoint := by
    have hvalid := toNat_lt c
    show (((UInt8.ofNat _).toNat % 0x08 * 0x40 + (UInt8.ofNat _).toNat % 0x40) * 0x40
      + (UInt8.ofNat _).toNat % 0x40) * 0x40 + (UInt8.ofNat _).toNat % 0x40 = c.toNat
    rw [toNat_ofNat_of_lt (by omega), toNat_ofNat_of_lt (by omega), toNat_ofNat_of_lt (by omega),
      toNat_ofNat_of_lt (by omega)]
    omega

end

/-- Every character has bytes. -/
theorem exists_spells (c : Char) :
    ∃ first more, String.utf8EncodeChar c = first :: more ∧ Spells c first more := by
  unfold String.utf8EncodeChar
  show ∃ first more, (if c.toNat ≤ 0x7F then _ else if c.toNat ≤ 0x7FF then _
    else if c.toNat ≤ 0xFFFF then _ else _) = first :: more ∧ Spells c first more
  split
  · next hone => exact ⟨_, _, rfl, spells_one hone⟩
  · next hone =>
      split
      · next htwo => exact ⟨_, _, rfl, spells_two (Nat.lt_of_not_le hone) htwo⟩
      · next htwo =>
          split
          · next hthree => exact ⟨_, _, rfl, spells_three (Nat.lt_of_not_le htwo) hthree⟩
          · next hthree => exact ⟨_, _, rfl, spells_four (Nat.lt_of_not_le hthree)⟩

/-! ## Reading -/

theorem decodeAt_skip (position : Nat) (bytes rest : List UInt8) :
    decodeAt position bytes.length (bytes ++ rest) = decodeAt (position + bytes.length) 0 rest := by
  induction bytes generalizing position with
  | nil => rfl
  | cons b bytes ih =>
      rw [List.cons_append, List.length_cons, decodeAt, ih, Nat.add_right_comm, Nat.add_assoc]

theorem decodeAt_of_spells {c : Char} {first : UInt8} {more : List UInt8}
    (h : Spells c first more) (position : Nat) (rest : List UInt8) :
    decodeAt position 0 (first :: more ++ rest)
      = (decodeAt (position + 1 + more.length) 0 rest).map (c :: ·) := by
  obtain ⟨low, high, hfollow, hmore⟩ := h.follow
  rw [List.cons_append, decodeAt, hfollow]
  simp only [hmore, decodeAt_skip, h.codePoint, Char.ofNat_toNat]

/-- The bytes of characters that are no halves. -/
theorem decodeAt_flatMap (cs : List Char) (position : Nat) :
    decodeAt position 0 (cs.flatMap String.utf8EncodeChar) = .ok cs := by
  induction cs generalizing position with
  | nil => rfl
  | cons c cs ih =>
      obtain ⟨first, more, hchar, hspells⟩ := exists_spells c
      rw [List.flatMap_cons, hchar, decodeAt_of_spells hspells, ih]
      rfl

theorem encode_of_isWellFormed {s : String} (h : Text.isWellFormed s = true) :
    encode s = s.toList.flatMap String.utf8EncodeChar := by
  refine List.flatMap_congr fun c hc => ?_
  have hpoint := List.all_eq_true.mp h c hc
  rw [Bool.not_eq_true'] at hpoint
  show (if Text.isHalf (Text.point c) = true then _ else (String.singleton c).toUTF8.toList) = _
  rw [if_neg (ne_true_of_eq_false hpoint), toList_toUTF8_singleton]

/-- A text without halves comes back from its bytes. -/
theorem decode_encode {s : String} (h : Text.isWellFormed s = true) :
    decode (encode s) = .ok s := by
  rw [decode, encode_of_isWellFormed h, decodeAt_flatMap]
  exact congrArg Except.ok String.ofList_toList

end SourceAtlas.Utf8
