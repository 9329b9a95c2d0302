import SourceAtlas.Resolve.Candidate

/-!
# Matching imports with files

An import is matched with the other files of the batch in three tiers, the strongest first: by the
path that it names, by a namespace that it names, and by a name that a file of the same namespace
mentions. Within a tier the first file that fits is taken, so the result depends on the order of the
files only where several fit. Main function: `matchImport`.
-/

namespace SourceAtlas

open Text

/-- The kinds of edges. -/
inductive Link where
  /-- The import names the file's path. -/
  | path
  /-- The import names the file's namespace. -/
  | scope
  /-- The file shares the importer's namespace and mentions the imported name. -/
  | mention
  /-- Without an import, the file mentions a file of its namespace. -/
  | sameScope
  /-- Without an import, the file mentions a module of its directory. -/
  | sameDirectory
  deriving DecidableEq, Repr

/-- The word for a kind of edge in reports. -/
def Link.word : Link → String
  | path => "import"
  | scope => "namespace"
  | mention => "reference"
  | sameScope => "package_reference"
  | sameDirectory => "module_reference"

/-- A path ends with a slash and another path. -/
def endsWithPath (whole part : List Char) : Bool :=
  ('/' :: part).isSuffixOf whole

/-- Two paths are the same, or one of them ends with a slash and the other. -/
def pathsMeet (file wanted : List Char) : Bool :=
  file = wanted || endsWithPath file wanted || endsWithPath wanted file

/-- The languages in which an import names a type, and the type its file. -/
def Language.importsTypes (l : Language) : Bool :=
  l = .java || l = .kotlin || l = .scala

/-- The first file whose full path fits the import. -/
def matchFullPath (l : Language) (i : Import) (others : List Candidate) : Option Candidate :=
  let wanted := fullModuleKey i.target l
  if wanted.isEmpty then none else others.find? fun c => pathsMeet c.id.toList wanted

/-- The first file whose path without extension fits the import. -/
def matchKey (l : Language) (i : Import) (others : List Candidate) : Option Candidate :=
  let wanted := moduleKey i.target l
  if wanted.isEmpty then none else others.find? fun c => pathsMeet c.key wanted

/-- The first file that is named like the imported type. -/
def matchType (l : Language) (i : Import) (others : List Candidate) : Option Candidate :=
  if l.importsTypes then
    match i.symbols with
    | [] => none
    | symbol :: _ =>
      if symbol = "*" then none
      else others.find? fun c => c.language = l && c.stem = symbol.toList
  else none

/-- The first tier: a file whose path the import names. -/
def matchPath (l : Language) (i : Import) (others : List Candidate) : Option Candidate :=
  matchFullPath l i others <|> matchKey l i others <|> matchType l i others

/-- The namespaces that an import may name: its module, and the module without its last segment. -/
def wantedScopes (i : Import) : List String :=
  let full := dropSuffix ['.', '*'] (namespaceKeyChars (bareModule i.target.toList))
  let parent := ((splitLast '.' full).map (·.1)).getD []
  ([full, parent].filter (!·.isEmpty)).map .ofList

/-- The second tier: a file of a namespace that the import names, preferably one that is named like
    the import. -/
def matchScope (l : Language) (i : Import) (others : List Candidate) : Option Candidate :=
  let wanted := wantedScopes i
  let found := others.filter fun c => c.scope.any wanted.contains && c.language = l
  found.find? (fun c => c.stem = i.bareName.toList) <|> found.head?

/-- The third tier: a file of the importer's namespace that mentions the imported name. -/
def matchMention (importer : Candidate) (i : Import) (others : List Candidate) :
    Option Candidate :=
  others.find? fun c =>
    importer.sharesScope c && c.language = importer.language && c.mentions i.bareName.toList

/-- The file that an import of `importer` means, and the tier that found it. -/
def matchImport (importer : Candidate) (i : Import) (batch : List Candidate) :
    Option (Candidate × Link) :=
  let others := batch.filter (·.id ≠ importer.id)
  (matchPath importer.language i others).map (·, .path)
    <|> (matchScope importer.language i others).map (·, .scope)
    <|> (matchMention importer i others).map (·, .mention)

end SourceAtlas
