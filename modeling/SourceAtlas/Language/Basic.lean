/-!
# Languages

The closed set of languages a file can be written in, and their tags. `Language.ofTag?` reads a tag
back (`ofTag?_tag`), so no two languages share one.
-/

namespace SourceAtlas

/-- The languages of source files. From `html` on, files are only counted, unless the language
    declares something after all. -/
inductive Language where
  | javascript
  | typescript
  | python
  | java
  | kotlin
  | scala
  | go
  | rust
  | c
  | cpp
  | csharp
  | php
  | ruby
  | swift
  | dart
  | lua
  | shell
  | perl
  | r
  | julia
  | elixir
  | erlang
  | clojure
  | haskell
  | fsharp
  | ocaml
  | scheme
  | lisp
  | fortran
  | matlab
  | vba
  | powershell
  | html
  | css
  | json
  | yaml
  | markdown
  | sql
  | xml
  | toml
  | ini
  | dockerfile
  | makefile
  | cmake
  | graphql
  | proto
  deriving DecidableEq, Repr

namespace Language

/-- All languages, in the order in which they are listed to the user. -/
def all : List Language := [
  .javascript, .typescript, .python, .java, .kotlin, .scala, .go, .rust, .c, .cpp, .csharp, .php,
  .ruby, .swift, .dart, .lua, .shell, .perl, .r, .julia, .elixir, .erlang, .clojure, .haskell,
  .fsharp, .ocaml, .scheme, .lisp, .fortran, .matlab, .vba, .powershell, .html, .css, .json,
  .yaml, .markdown, .sql, .xml, .toml, .ini, .dockerfile, .makefile, .cmake, .graphql, .proto]

/-- The tag by which a language is named in reports. -/
def tag : Language → String
  | javascript => "javascript"
  | typescript => "typescript"
  | python => "python"
  | java => "java"
  | kotlin => "kotlin"
  | scala => "scala"
  | go => "go"
  | rust => "rust"
  | c => "c"
  | cpp => "cpp"
  | csharp => "csharp"
  | php => "php"
  | ruby => "ruby"
  | swift => "swift"
  | dart => "dart"
  | lua => "lua"
  | shell => "shell"
  | perl => "perl"
  | r => "r"
  | julia => "julia"
  | elixir => "elixir"
  | erlang => "erlang"
  | clojure => "clojure"
  | haskell => "haskell"
  | fsharp => "fsharp"
  | ocaml => "ocaml"
  | scheme => "scheme"
  | lisp => "lisp"
  | fortran => "fortran"
  | matlab => "matlab"
  | vba => "vba"
  | powershell => "powershell"
  | html => "html"
  | css => "css"
  | json => "json"
  | yaml => "yaml"
  | markdown => "markdown"
  | sql => "sql"
  | xml => "xml"
  | toml => "toml"
  | ini => "ini"
  | dockerfile => "dockerfile"
  | makefile => "makefile"
  | cmake => "cmake"
  | graphql => "graphql"
  | proto => "proto"

/-- The language with a tag. -/
def ofTag? (text : String) : Option Language :=
  all.find? (·.tag = text)

theorem mem_all (l : Language) : l ∈ all := by
  cases l <;> decide

theorem ofTag?_tag (l : Language) : ofTag? l.tag = some l := by
  cases l <;> decide

theorem tag_injective {l m : Language} (h : l.tag = m.tag) : l = m := by
  have hm := ofTag?_tag m
  rw [← h, ofTag?_tag l] at hm
  exact Option.some.inj hm

end Language

end SourceAtlas
