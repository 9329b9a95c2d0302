import SourceAtlas.Language.Basic
import SourceAtlas.Path
import SourceAtlas.Text.Case

/-!
# The language of a file

A file's language is known from its name alone: from the whole name for a few build files,
otherwise from the extension. Capital and small letters do not differ. Main function:
`Language.ofPath?`.
-/

namespace SourceAtlas.Language

/-- The extensions, each with its language. -/
def extensions : List (String × Language) := [
  (".js", .javascript), (".jsx", .javascript), (".mjs", .javascript), (".cjs", .javascript),
  (".ts", .typescript), (".tsx", .typescript), (".py", .python), (".java", .java),
  (".kt", .kotlin), (".kts", .kotlin), (".scala", .scala), (".sc", .scala), (".go", .go),
  (".rs", .rust), (".c", .c), (".h", .c), (".cpp", .cpp), (".cxx", .cpp), (".cc", .cpp),
  (".hpp", .cpp), (".cs", .csharp), (".php", .php), (".phtml", .php), (".rb", .ruby),
  (".swift", .swift), (".dart", .dart), (".lua", .lua), (".sh", .shell), (".bash", .shell),
  (".zsh", .shell), (".pl", .perl), (".pm", .perl), (".r", .r), (".jl", .julia),
  (".ex", .elixir), (".exs", .elixir), (".erl", .erlang), (".hrl", .erlang), (".clj", .clojure),
  (".cljs", .clojure), (".cljc", .clojure), (".hs", .haskell), (".fs", .fsharp),
  (".fsx", .fsharp), (".ml", .ocaml), (".mli", .ocaml), (".scm", .scheme), (".lisp", .lisp),
  (".lsp", .lisp), (".f90", .fortran), (".f95", .fortran), (".for", .fortran), (".m", .matlab),
  (".vba", .vba), (".bas", .vba), (".ps1", .powershell), (".psm1", .powershell),
  (".html", .html), (".htm", .html), (".css", .css), (".scss", .css), (".less", .css),
  (".json", .json), (".yaml", .yaml), (".yml", .yaml), (".md", .markdown), (".sql", .sql),
  (".xml", .xml), (".toml", .toml), (".ini", .ini), (".cfg", .ini), (".cmake", .cmake),
  (".graphql", .graphql), (".gql", .graphql), (".proto", .proto)]

/-- The files that are known by their whole name. -/
def wholeNames : List (String × Language) := [
  ("dockerfile", .dockerfile), ("makefile", .makefile), ("cmakelists.txt", .cmake)]

/-- The extension, in any case, is one of `extensions`. -/
def isKnownExtension (ext : List Char) : Bool :=
  (extensions.lookup (.ofList (Text.lower ext))).isSome

/-- The language of a file name in small letters. -/
def ofName? (name : List Char) : Option Language :=
  wholeNames.lookup (.ofList name)
    <|> extensions.lookup (.ofList (Path.splitExtensionChars name).2)

/-- The language of the file at a path, if it has one. -/
def ofPath? (path : String) : Option Language :=
  ofName? (Text.lower (Path.baseChars (Text.replaceChar '\\' '/' path.toList)))

end SourceAtlas.Language
