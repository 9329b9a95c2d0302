import SourceAtlas.Text.CodePoint
import SourceAtlas.Text.Cut

/-!
# Paths as they are spelled

A path is spelled as names with slashes between them. `pathComponents` and `tidyPath` take a path
apart and put it in order; `spellingFault?` says which texts are no paths at all, and `pathSize` is
the size of a path for the limits `longestPath` and `longestName`.
-/

namespace SourceAtlas

/-- Why a path cannot be followed, wherever it leads. -/
inductive PathFault where
  /-- It holds half of a surrogate pair that stands for no byte. -/
  | half
  /-- It holds the character zero, which would end it. -/
  | zero
  /-- It is too long, or a name in it is. -/
  | tooLong
  deriving DecidableEq, Repr

/-- The most bytes in a path. -/
def longestPath : Nat := 4095

/-- The most bytes in a name. -/
def longestName : Nat := 255

/-- The halves of surrogate pairs that stand for single bytes in names that are not UTF-8. -/
def isByteHalf (c : Char) : Bool :=
  0xDC80 ≤ Text.point c && Text.point c ≤ 0xDCFF

/-- The bytes of a path or a name. -/
def pathSize (path : String) : Nat :=
  path.toList.foldl (fun size c => size + if isByteHalf c then 1 else c.utf8Size) 0

/-- What is wrong with the characters of a path. -/
def spellingFault? (path : String) : Option PathFault :=
  if path.toList.any fun c => Text.isHalf (Text.point c) && !isByteHalf c then some .half
  else if path.toList.any (·.toNat = 0) then some .zero
  else none

/-- The components of a path that is spelled with slashes. -/
def pathComponents (path : String) : List String :=
  (Text.splitAll (· = '/') path.toList).map .ofList

/-- The path without needless slashes and dots; a dot alone for the working directory. -/
def tidyPath (path : String) : String :=
  let names := (pathComponents path).filter fun name => name ≠ "" && name ≠ "."
  if path.toList.head? = some '/' then "/" ++ "/".intercalate names
  else if names.isEmpty then "."
  else "/".intercalate names

/-- The path of a name in a directory. -/
def pathIn (directory name : String) : String :=
  tidyPath (tidyPath directory ++ "/" ++ name)

end SourceAtlas
