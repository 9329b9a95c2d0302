import SourceAtlas.Terminal.EmojiTable
import SourceAtlas.Text.Blank
import SourceAtlas.Text.Case

/-!
# Pictures by name

A text may name a picture between colons, as in `:cat:`, and ask for it as a sign or as a colored
picture, as in `:heart-text:` and `:heart-emoji:`. A name that no picture has stays as it is, with
its colons. Main function: `withPictures`, which leaves a text without colons alone
(`withPictures_of_not_mem`).
-/

namespace SourceAtlas.Terminal

open Text

/-- A name and what follows its picture, from a name that may end in a wish. -/
def splitWish (code : List Char) : List Char × List Char :=
  if "-emoji".toList.isSuffixOf code then (code.take (code.length - 6), [Char.ofNat 0xFE0F])
  else if "-text".toList.isSuffixOf code then (code.take (code.length - 5), [Char.ofNat 0xFE0E])
  else (code, [])

/-- What stands for a name between colons, in small or in capital letters. -/
def picture? (code : List Char) : Option (List Char) :=
  let (name, selector) := splitWish code
  (emoji? (.ofList (lower name))).map (·.toList ++ selector)

/-- The name between two colons, of which the first one stands here. It has no blanks. -/
def code? : List Char → Option (List Char)
  | ':' :: rest =>
    let code := rest.takeWhile fun c => c ≠ ':' && !isBlank c
    if (rest.drop code.length).head? = some ':' then some code else none
  | _ => none

/-- Puts pictures for their names. `skip` characters belong to a name that has been read. A colon
    at the end of a name does not start another one. -/
def withPicturesFrom : (skip : Nat) → List Char → List Char
  | _, [] => []
  | skip + 1, _ :: rest => withPicturesFrom skip rest
  | 0, c :: rest =>
    match code? (c :: rest) with
    | some code =>
      (picture? code).getD (':' :: code ++ [':']) ++ withPicturesFrom (code.length + 1) rest
    | none => c :: withPicturesFrom 0 rest

/-- The text with pictures for their names. -/
def withPictures (cs : List Char) : List Char := withPicturesFrom 0 cs

theorem code?_of_ne {c : Char} (h : c ≠ ':') (rest : List Char) : code? (c :: rest) = none := by
  rw [code?]
  simpa using h

/-- A text without colons names no picture. -/
theorem withPictures_of_not_mem {cs : List Char} (h : ':' ∉ cs) : withPictures cs = cs := by
  rw [withPictures]
  induction cs with
  | nil => rfl
  | cons c rest ih =>
    simp only [List.mem_cons, not_or] at h
    rw [withPicturesFrom, code?_of_ne (Ne.symm h.1), ih h.2]

end SourceAtlas.Terminal
