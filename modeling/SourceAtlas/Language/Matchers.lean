import SourceAtlas.Language.Basic
import SourceAtlas.Language.Matchers.Data
import SourceAtlas.Language.Matchers.Functional
import SourceAtlas.Language.Matchers.Jvm
import SourceAtlas.Language.Matchers.Numeric
import SourceAtlas.Language.Matchers.Scripting
import SourceAtlas.Language.Matchers.Systems
import SourceAtlas.Language.Matchers.Web

/-!
# The matchers of every language

`Language.matchers` gives each language its record; a language cannot be added without one.
-/

namespace SourceAtlas

/-- The matchers of a language. -/
def Language.matchers : Language → Matchers
  | javascript => Matchers.javascript
  | typescript => Matchers.typescript
  | python => Matchers.python
  | java => Matchers.java
  | kotlin => Matchers.kotlin
  | scala => Matchers.scala
  | go => Matchers.go
  | rust => Matchers.rust
  | c => Matchers.c
  | cpp => Matchers.cpp
  | csharp => Matchers.csharp
  | php => Matchers.php
  | ruby => Matchers.ruby
  | swift => Matchers.swift
  | dart => Matchers.dart
  | lua => Matchers.lua
  | shell => Matchers.shell
  | perl => Matchers.perl
  | r => Matchers.r
  | julia => Matchers.julia
  | elixir => Matchers.elixir
  | erlang => Matchers.erlang
  | clojure => Matchers.clojure
  | haskell => Matchers.haskell
  | fsharp => Matchers.fsharp
  | ocaml => Matchers.ocaml
  | scheme => Matchers.scheme
  | lisp => Matchers.lisp
  | fortran => Matchers.fortran
  | matlab => Matchers.matlab
  | vba => Matchers.vba
  | powershell => Matchers.powershell
  | html => Matchers.html
  | css => Matchers.css
  | json => Matchers.json
  | yaml => Matchers.yaml
  | markdown => Matchers.markdown
  | sql => Matchers.sql
  | xml => Matchers.xml
  | toml => Matchers.toml
  | ini => Matchers.ini
  | dockerfile => Matchers.dockerfile
  | makefile => Matchers.makefile
  | cmake => Matchers.cmake
  | graphql => Matchers.graphql
  | proto => Matchers.proto

end SourceAtlas
