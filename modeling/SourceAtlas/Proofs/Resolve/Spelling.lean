import Mathlib.Data.List.Basic
import SourceAtlas.Proofs.Path
import SourceAtlas.Resolve.Basic

/-! # Graphs and the spelling of paths

    A file can be found under every name that comes from its canonical path, and
    its path as it was given is kept only to be shown.  So if all paths of a batch
    are brought into their canonical spelling, every search finds the same file
    (`matchImport_canonical`), every import does the same to the graph
    (`addImport_canonical`), and only the entries of imports that mean no file of
    the batch are spelled differently (`resolve_canonical`). -/

namespace SourceAtlas

/-! ## Canonical spellings -/

/-- The language of a file does not depend on the spelling of its path. -/
theorem Language.ofPath?_normalize (path : String) :
    ofPath? (Path.normalize path) = ofPath? path := by
  rw [ofPath?, ofPath?, Path.normalize, String.toList_ofList,
    Path.replaceChar_of_not_mem (Path.not_mem_normalizeChars _), Path.normalizeChars,
    Path.baseChars_dropHere]

theorem Graph.addNode_normalize {α ω : Type} [Label α] (g : Graph α ω) (path : String)
    (label language : α) :
    g.addNode (Path.normalize path) label language = g.addNode path label language := by
  unfold addNode
  rw [Path.normalize_normalize]

/-- An outline with its path in canonical spelling. -/
def Outline.canonical {ν : Type} (o : Outline ν) : Outline ν :=
  { o with path := o.nodeId }

theorem Outline.nodeId_canonical {ν : Type} (o : Outline ν) : o.canonical.nodeId = o.nodeId :=
  Path.normalize_normalize o.path

/-- A candidate with its path in canonical spelling. -/
def Candidate.canonical (c : Candidate) : Candidate :=
  { c with path := Path.normalize c.path }

theorem Candidate.ofOutline_canonical {ν : Type} (o : Outline ν) :
    ofOutline o.canonical = (ofOutline o).canonical := by
  dsimp only [ofOutline, canonical]
  rw [o.nodeId_canonical]
  dsimp only [Outline.canonical, Outline.nodeId]

/-- An entry with its path in canonical spelling. -/
def Unresolved.canonical (u : Unresolved) : Unresolved :=
  { u with file := Path.normalize u.file }

/-- A resolution with its paths in canonical spelling. -/
def Resolution.canonical (r : Resolution) : Resolution :=
  { r with unresolved := r.unresolved.map (·.canonical) }

-- Only the fields of a candidate other than its path matter from here on, so the comparisons need
-- not look into the spelling.
attribute [local irreducible] Path.normalize

/-! ## Searches -/

section

variable (l : Language) (i : Import) (others : List Candidate)

/-- A search that does not look at paths as they were given finds the same file. -/
theorem find?_canonical {p : Candidate → Bool} (h : ∀ c, p c.canonical = p c) :
    (others.map (·.canonical)).find? p = (others.find? p).map (·.canonical) := by
  rw [List.find?_map]
  exact congrArg (fun q => (others.find? q).map _) (funext h)

theorem filter_canonical {p q : Candidate → Bool} (h : ∀ c, p c.canonical = q c) :
    (others.map (·.canonical)).filter p = (others.filter q).map (·.canonical) := by
  rw [List.filter_map]
  exact congrArg (fun q => (others.filter q).map _) (funext h)

/-- The same with a condition under which there is no search. -/
theorem guarded_canonical {b : Prop} [Decidable b] {p : Candidate → Bool}
    (h : ∀ c, p c.canonical = p c) :
    (if b then none else (others.map (·.canonical)).find? p)
      = (if b then none else others.find? p).map (·.canonical) := by
  split
  · rfl
  · exact find?_canonical others h

theorem matchPath_canonical :
    matchPath l i (others.map (·.canonical)) = (matchPath l i others).map (·.canonical) := by
  have hfull : matchFullPath l i (others.map (·.canonical))
      = (matchFullPath l i others).map (·.canonical) := guarded_canonical others fun _ => rfl
  have hkey : matchKey l i (others.map (·.canonical))
      = (matchKey l i others).map (·.canonical) := guarded_canonical others fun _ => rfl
  have htype : matchType l i (others.map (·.canonical))
      = (matchType l i others).map (·.canonical) := by
    unfold matchType
    split
    · split
      · rfl
      · exact guarded_canonical others fun _ => rfl
    · rfl
  rw [matchPath, hfull, hkey, htype, matchPath]
  simp only [Option.orElse_eq_orElse, Option.orElse_eq_or, Option.map_or]

theorem matchScope_canonical :
    matchScope l i (others.map (·.canonical)) = (matchScope l i others).map (·.canonical) := by
  unfold matchScope
  dsimp only
  rw [filter_canonical others fun _ => rfl, find?_canonical _ fun _ => rfl, List.head?_map]
  simp only [Option.orElse_eq_orElse, Option.orElse_eq_or, Option.map_or]
  rfl

theorem matchMention_canonical (importer : Candidate) :
    matchMention importer.canonical i (others.map (·.canonical))
      = (matchMention importer i others).map (·.canonical) :=
  find?_canonical others fun _ => rfl

end

/-- **EVERY SEARCH FINDS THE SAME FILE**, in the same tier. -/
theorem matchImport_canonical (importer : Candidate) (i : Import) (batch : List Candidate) :
    matchImport importer.canonical i (batch.map (·.canonical))
      = (matchImport importer i batch).map fun found => (found.1.canonical, found.2) := by
  have hlanguage : importer.canonical.language = importer.language := rfl
  unfold matchImport
  dsimp only
  rw [filter_canonical batch (q := (·.id ≠ importer.id)) fun _ => rfl, hlanguage,
    matchPath_canonical, matchScope_canonical, matchMention_canonical]
  simp only [Option.orElse_eq_orElse, Option.orElse_eq_or, Option.map_or, Option.map_map,
    Function.comp_def]

/-! ## The two passes -/

namespace Resolution

theorem start_canonical (batch : List Candidate) :
    start (batch.map (·.canonical)) = (start batch).canonical := by
  have hstep : (fun (g : Graph) (c : Candidate) =>
        g.addNode c.canonical.path "" c.canonical.language.tag)
      = fun g c => g.addNode c.path "" c.language.tag :=
    funext fun g => funext fun c => g.addNode_normalize c.path "" c.language.tag
  unfold start canonical
  dsimp only
  rw [List.foldl_map, hstep, Array.map_empty]

/-- An import does the same to the graph. -/
theorem addImport_canonical (batch : List Candidate) (r : Resolution) (importer : Candidate)
    (i : Import) :
    addImport (batch.map (·.canonical)) r.canonical importer.canonical i
      = (addImport batch r importer i).canonical := by
  unfold addImport
  rw [matchImport_canonical]
  cases matchImport importer i batch with
  | some found => rfl
  | none =>
      -- The entry has the path as it was given, so it is spelled differently.
      rw [Option.map_none]
      dsimp only [canonical]
      rw [Array.map_push]
      rfl

theorem addImports_canonical (batch : List Candidate) (r : Resolution) (importer : Candidate) :
    addImports (batch.map (·.canonical)) r.canonical importer.canonical
      = (addImports batch r importer).canonical :=
  List.foldl_hom canonical fun r i => addImport_canonical batch r importer i

theorem ofImports_canonical (batch : List Candidate) :
    ofImports (batch.map (·.canonical)) = (ofImports batch).canonical := by
  rw [ofImports, List.foldl_map, start_canonical]
  exact List.foldl_hom canonical fun r c => addImports_canonical batch r c

end Resolution

/-- A link without an import does not depend on paths as they were given. -/
theorem linkImplied_canonical (source : Candidate) (g : Graph) (sibling : Candidate) :
    linkImplied source.canonical g sibling.canonical = linkImplied source g sibling := rfl

theorem linkAllImplied_canonical (batch : List Candidate) (g : Graph) :
    linkAllImplied (batch.map (·.canonical)) g = linkAllImplied batch g := by
  unfold linkAllImplied
  -- First the outer loop over the files that refer, then the inner one over their siblings.
  rw [List.foldl_map]
  refine congrArg (batch.foldl · g) (funext fun g => funext fun source => ?_)
  rw [List.foldl_map]
  exact congrArg (batch.foldl · g) (funext fun g => funext (linkImplied_canonical source g))

section

variable {ν : Type} {outlines outlines' : List (Outline ν)}

/-- **ONE GRAPH FOR ALL SPELLINGS**: canonical spellings of the paths give the same graph, and the
    same list of imports that it does not show, but for the spelling. -/
theorem resolve_canonical (outlines : List (Outline ν)) :
    resolve (outlines.map (·.canonical)) = (resolve outlines).canonical := by
  have hbatch : (outlines.map (·.canonical)).map Candidate.ofOutline
      = (outlines.map Candidate.ofOutline).map (·.canonical) := by
    rw [List.map_map, List.map_map]
    exact List.map_congr_left fun o _ => Candidate.ofOutline_canonical o
  unfold resolve
  dsimp only
  rw [hbatch, Resolution.ofImports_canonical, linkAllImplied_canonical]
  rfl

/-- Files that are the same but for the spelling of their paths have one graph. -/
theorem graph_resolve_respelled
    (h : outlines'.map (·.canonical) = outlines.map (·.canonical)) :
    (resolve outlines').graph = (resolve outlines).graph := by
  have hcanonical := congrArg resolve h
  rw [resolve_canonical, resolve_canonical] at hcanonical
  exact (Resolution.mk.inj hcanonical).1

/-- They leave the same imports open. -/
theorem unresolved_resolve_respelled
    (h : outlines'.map (·.canonical) = outlines.map (·.canonical)) :
    (resolve outlines').unresolved.toList.map (·.canonical)
      = (resolve outlines).unresolved.toList.map (·.canonical) := by
  have hcanonical := congrArg resolve h
  rw [resolve_canonical, resolve_canonical] at hcanonical
  have hlists := congrArg Array.toList (Resolution.mk.inj hcanonical).2
  rwa [Array.toList_map, Array.toList_map] at hlists

end

end SourceAtlas
