import SourceAtlas.Terminal.Emoji
import SourceAtlas.Terminal.Literal
import SourceAtlas.Terminal.Style

/-!
# Markup

Texts for the terminal may hold tags in square brackets that switch a style on, such as `[bold]`, or
off again, such as `[/bold]` or `[/]`. The terminal has no styles, so a tag leaves no trace; but a
closing tag must have an open one to close, and the action of the tag that it closes must be well
formed. A backslash makes a bracket plain. Between the tags pictures are put for their names. Main
function: `Markup.read`.
-/

namespace SourceAtlas.Terminal.Markup

open Text

/-- What may be wrong with the tags of a text. -/
inductive Fault where
  /-- A closing tag has nothing to close. -/
  | unmatched
  /-- An action is not written as a name with arguments, or as a literal value. -/
  | badAction
  /-- A color has a part that is no number. -/
  | badColor
  deriving DecidableEq, Repr

/-- A tag starts with a small letter, a number sign, a slash or an at sign. -/
def isTagStart (c : Char) : Bool :=
  c.isLower || c = '#' || c = '/' || c = '@'

/-- The tag that stands here, without its brackets. No bracket opens inside a tag. -/
def tag? : List Char → Option (List Char)
  | '[' :: c :: rest =>
    if isTagStart c then
      let body := rest.takeWhile fun d => d ≠ ']' && d ≠ '['
      if (rest.drop body.length).head? = some ']' then some (c :: body) else none
    else none
  | _ => none

/-- A part of a text with markup. -/
inductive Piece where
  | plain (cs : List Char)
  | tag (cs : List Char)
  deriving DecidableEq, Repr

/-- A plain piece, unless it is empty. -/
def plainPiece (cs : List Char) : List Piece :=
  if cs.isEmpty then [] else [.plain cs]

/-- The plain text at the start of a text, and the pieces after it. `skip` characters belong to a
    tag that has been read. An even number of backslashes in front of a tag stands for half of them;
    an odd one takes the tag's meaning away. -/
def piecesFrom : (skip : Nat) → List Char → List Char × List Piece
  | _, [] => ([], [])
  | skip + 1, _ :: rest => piecesFrom skip rest
  | 0, c :: rest =>
    let slashes := (c :: rest).takeWhile (· = '\\')
    match tag? ((c :: rest).drop slashes.length) with
    | some tag =>
      let (plain, more) := piecesFrom (slashes.length + tag.length + 1) rest
      let here : Piece :=
        if slashes.length % 2 = 1 then .plain ('[' :: tag ++ [']']) else .tag tag
      ([], plainPiece (List.replicate (slashes.length / 2) '\\')
        ++ here :: plainPiece plain ++ more)
    | none =>
      let (plain, more) := piecesFrom 0 rest
      (c :: plain, more)

/-- The pieces of a text with markup. -/
def pieces (cs : List Char) : List Piece :=
  let (plain, more) := piecesFrom 0 cs
  plainPiece plain ++ more

/-- Controls that a terminal would act on. -/
def isControl (c : Char) : Bool :=
  let n := c.toNat
  n = 7 || n = 8 || (11 ≤ n && n ≤ 13)

/-- Backslashes in front of brackets are taken away. -/
def unescape : List Char → List Char
  | '\\' :: '[' :: rest => '[' :: unescape rest
  | c :: rest => c :: unescape rest
  | [] => []

/-- What a plain piece shows. -/
def shown (cs : List Char) : List Char :=
  (withPictures (unescape cs)).filter (!isControl ·)

/-- A tag that is open: the name of its style, and what follows an equals sign in it. -/
structure Open where
  name : List Char
  parameters : Option (List Char)
  deriving DecidableEq, Repr

/-- The arguments of an action, which follow its name in parentheses. An action without arguments
    may be a name alone; and what starts with no name is all arguments. -/
def actionArguments (cs : List Char) : List Char :=
  let arguments := cs.dropWhile fun c => isWord c || c = '.'
  if arguments.isEmpty then "()".toList
  else if arguments.head? = some '(' && arguments.getLast? = some ')'
      && !arguments.contains '\n' then arguments
  else cs

/-- Checks the action of a tag, which starts with an at sign, when the tag is closed. -/
def Open.checkAction (o : Open) : Except Fault Unit :=
  match o.parameters with
  | some (c :: cs) =>
    if o.name.head? = some '@' && !Literal.isLiteral (actionArguments (strip (c :: cs))) then
      .error .badAction
    else .ok ()
  | _ => .ok ()

/-- Takes the latest tag with a name off the open ones, the latest of which stands first. -/
def takeOpen? (name : List Char) : List Open → Option (Open × List Open)
  | [] => none
  | o :: rest =>
    if o.name = name then some (o, rest)
    else (takeOpen? name rest).map fun (found, rest) => (found, o :: rest)

/-- The name of a style in a tag. -/
def tagName (cs : List Char) : Except Fault (List Char) :=
  (styleName cs).mapError fun _ => .badColor

/-- The open tags after a tag. -/
def applyTag (opened : List Open) (tag : List Char) : Except Fault (List Open) := do
  let text := tag.takeWhile (· ≠ '=')
  let parameters := if text.length = tag.length then none else some (tag.drop (text.length + 1))
  match text with
  | '/' :: closing =>
    let found ←
      if (strip closing).isEmpty then pure (opened.head?.map (·, opened.tail))
      else do pure (takeOpen? (← tagName (strip closing)) opened)
    match found with
    | none => .error .unmatched
    | some (o, rest) =>
      o.checkAction
      return rest
  | name => return { name := ← tagName name, parameters } :: opened

/-- What pieces show after some open tags. -/
def showPieces (opened : List Open) : List Piece → Except Fault (List Char)
  | [] => .ok []
  | .plain cs :: rest => (showPieces opened rest).map (shown cs ++ ·)
  | .tag cs :: rest =>
    match applyTag opened cs with
    | .error e => .error e
    | .ok opened => showPieces opened rest

/-- The plain text of a text with markup. -/
def read (text : String) : Except Fault (List Char) :=
  showPieces [] (pieces text.toList)

/-- A text without brackets has no tags. -/
theorem pieces_of_not_mem {cs : List Char} (h : '[' ∉ cs) : pieces cs = plainPiece cs := by
  have hp : piecesFrom 0 cs = (cs, []) := by
    induction cs with
    | nil => rfl
    | cons c rest ih =>
      have hn : tag? ((c :: rest).drop ((c :: rest).takeWhile (· = '\\')).length) = none := by
        have hm : '[' ∉ (c :: rest).drop ((c :: rest).takeWhile (· = '\\')).length :=
          fun hd => h (List.mem_of_mem_drop hd)
        generalize (c :: rest).drop ((c :: rest).takeWhile (· = '\\')).length = xs at hm
        unfold tag?
        split
        · simp at hm
        · rfl
      rw [piecesFrom]
      simp only [hn]
      rw [ih (by simp_all)]
  rw [pieces, hp]
  simp

end SourceAtlas.Terminal.Markup
