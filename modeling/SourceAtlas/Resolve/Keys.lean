import SourceAtlas.Language.Detect
import SourceAtlas.Language.Matchers
import SourceAtlas.Outline.Basic

/-!
# Keys of modules and namespaces

Imports are written in many ways. `namespaceKey` gives all spellings of a namespace one form, with
dots, and `moduleKey` all spellings of a module, with slashes, so that they can be compared with
each other and with paths.
-/

namespace SourceAtlas

open Text

/-- A namespace with dots between its segments, whatever separated them. -/
def namespaceKeyChars (cs : List Char) : List Char :=
  trim (· = '.') <|
    replaceChar '/' '.' (replaceColons '.' (replaceChar '\\' '.' cs))

/-- A namespace with dots between its segments, whatever separated them. -/
def namespaceKey (value : String) : String :=
  .ofList (namespaceKeyChars value.toList)

/-- The quotes and brackets that may stand around the module of an import. -/
def isModuleQuote (c : Char) : Bool :=
  c = '\'' || c = '"' || c = '<' || c = '>'

/-- A module without the blanks and quotes around it. -/
def bareModule (cs : List Char) : List Char :=
  trim isModuleQuote (strip cs)

/-- Drops everything in front that only says "from here", or names an alias of the root. -/
def dropRelative : List Char → List Char
  | '.' :: '/' :: rest => dropRelative rest
  | '.' :: '.' :: '/' :: rest => dropRelative rest
  | '@' :: '/' :: rest => dropRelative rest
  | '~' :: '/' :: rest => dropRelative rest
  | cs => cs

/-- Drops the roots of a path in a Rust crate. -/
def dropCrateRoots : List Char → List Char
  | 'c' :: 'r' :: 'a' :: 't' :: 'e' :: '/' :: rest => dropCrateRoots rest
  | 's' :: 'e' :: 'l' :: 'f' :: '/' :: rest => dropCrateRoots rest
  | 's' :: 'u' :: 'p' :: 'e' :: 'r' :: '/' :: rest => dropCrateRoots rest
  | cs => cs

/-- Drops a mark from the end, once. -/
def dropSuffix (mark cs : List Char) : List Char :=
  if mark.isSuffixOf cs then cs.take (cs.length - mark.length) else cs

/-- A module of a language with dots between packages, with slashes instead and without the star of
    a wildcard. -/
def undot (cs : List Char) : List Char :=
  replaceChar '.' '/' (dropSuffix ['.', '*'] cs)

/-- The module of an import with slashes between its segments, its extension included. -/
def fullModuleKey (target : String) (l : Language) : List Char :=
  let cs := replaceChar '\\' '/' (bareModule target.toList)
  let cs := if l.matchers.dottedImports then undot cs else cs
  let cs := (dropRelative (replaceColons '/' cs)).dropWhile (· = '/')
  if l = .rust then dropCrateRoots cs else cs

/-- Drops the extension of a path if it is one of a source file. -/
def dropKnownExtension (cs : List Char) : List Char :=
  let (stem, ext) := Path.splitExtensionChars cs
  if Language.isKnownExtension ext then stem else cs

/-- The module of an import with slashes between its segments; the extension of a source file is
    dropped. -/
def moduleKey (target : String) (l : Language) : List Char :=
  dropKnownExtension (fullModuleKey target l)

end SourceAtlas
