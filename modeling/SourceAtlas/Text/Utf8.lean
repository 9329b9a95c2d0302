import SourceAtlas.Decimal.Written
import SourceAtlas.Text.Quoted

/-!
# Reading UTF-8

Bytes are read as characters in the only form that UTF-8 allows: no longer form than needed, no
surrogates, nothing beyond the last plane. `Utf8.decode` answers with the characters, or with the
first bytes that are none and the reason (`Utf8.Error.message`). `Utf8.encode` goes back, but for
the characters that stand for halves of surrogate pairs: these are written as the halves.
-/

namespace SourceAtlas.Utf8

/-- Why bytes are not a character. -/
inductive Reason where
  | badStart
  | badContinuation
  | endOfData
  deriving DecidableEq, Repr

/-- The wording of a reason. -/
def Reason.message : Reason → String
  | badStart => "invalid start byte"
  | badContinuation => "invalid continuation byte"
  | endOfData => "unexpected end of data"

/-- The first bytes that are not a character. -/
structure Error where
  /-- The number of the first of them, counted from zero. -/
  position : Nat
  /-- The bytes. -/
  bytes : List UInt8
  reason : Reason
  deriving DecidableEq, Repr

/-- The wording of an error. A single byte is shown, several are only counted. -/
def Error.message (e : Error) : String :=
  let what := match e.bytes with
    | [b] =>
      "byte 0x" ++ .ofList (Text.hexChars 2 b.toNat) ++ " in position " ++ decimalText e.position
    | bytes =>
      "bytes in position " ++ decimalText e.position ++ "-"
        ++ decimalText (e.position + bytes.length - 1)
  "'utf-8' codec can't decode " ++ what ++ ": " ++ e.reason.message

/-- How many bytes continue a character that starts with this byte, and the bounds of the first of
    them. -/
def follow? (b : UInt8) : Option (Nat × UInt8 × UInt8) :=
  if b ≤ 0x7F then some (0, 0x80, 0xBF)
  else if 0xC2 ≤ b ∧ b ≤ 0xDF then some (1, 0x80, 0xBF)
  else if b = 0xE0 then some (2, 0xA0, 0xBF)
  else if b = 0xED then some (2, 0x80, 0x9F)
  else if 0xE1 ≤ b ∧ b ≤ 0xEF then some (2, 0x80, 0xBF)
  else if b = 0xF0 then some (3, 0x90, 0xBF)
  else if 0xF1 ≤ b ∧ b ≤ 0xF3 then some (3, 0x80, 0xBF)
  else if b = 0xF4 then some (3, 0x80, 0x8F)
  else none

/-- The bytes that continue a character: `count` of them, the first one within bounds. Answers with
    those that fit, and with the reason if there are too few. -/
def continuation : (count : Nat) → (low high : UInt8) → List UInt8 → List UInt8 × Option Reason
  | 0, _, _, _ => ([], none)
  | _ + 1, _, _, [] => ([], some .endOfData)
  | count + 1, low, high, b :: rest =>
    if low ≤ b && b ≤ high then
      let (bytes, reason) := continuation count 0x80 0xBF rest
      (b :: bytes, reason)
    else ([], some .badContinuation)

/-- The code point of a character's bytes. -/
def codePoint (first : UInt8) (more : List UInt8) : Nat :=
  let lead := match more.length with
    | 0 => first.toNat
    | 1 => first.toNat % 0x20
    | 2 => first.toNat % 0x10
    | _ => first.toNat % 0x08
  more.foldl (fun n b => n * 0x40 + b.toNat % 0x40) lead

/-- The characters of bytes, of which the first has the number `position`; `skip` of them have been
    read. -/
def decodeAt : (position skip : Nat) → List UInt8 → Except Error (List Char)
  | _, _, [] => .ok []
  | position, skip + 1, _ :: rest => decodeAt (position + 1) skip rest
  | position, 0, b :: rest =>
    match follow? b with
    | none => .error ⟨position, [b], .badStart⟩
    | some (count, low, high) =>
      match continuation count low high rest with
      | (bytes, some reason) => .error ⟨position, b :: bytes, reason⟩
      | (bytes, none) =>
        (decodeAt (position + 1) count rest).map (Char.ofNat (codePoint b bytes) :: ·)

/-- The bytes of a text. Half of a surrogate pair is written in three bytes, which no reader
    takes. -/
def encode (s : String) : List UInt8 :=
  s.toList.flatMap fun c =>
    let n := Text.point c
    if Text.isHalf n then [0xE0 + n / 0x1000, 0x80 + n / 0x40 % 0x40, 0x80 + n % 0x40].map .ofNat
    else (String.singleton c).toUTF8.toList

/-- The text of bytes. -/
def decode (data : List UInt8) : Except Error String :=
  (decodeAt 0 0 data).map .ofList

end SourceAtlas.Utf8
