import SourceAtlas.Outline.Basic
import SourceAtlas.Value.Basic

/-!
# Outlines in reports

The value that reports show for an outline. All entries hang below one node for the whole file.
-/

namespace SourceAtlas

/-- A declaration in a report. -/
def Declaration.report (d : Declaration) : Value :=
  .record [("name", .text d.name), ("startLine", .nat d.firstLine), ("endLine", .nat d.lastLine),
    ("complexityScore", .int d.complexity)]

/-- An import in a report. -/
def Import.report (i : Import) : Value :=
  .record [("modulePath", .text i.target), ("symbols", .texts i.symbols), ("line", .nat i.line)]

/-- An outline entry in a report. -/
def Item.report (i : Item) : Value :=
  .record [("kind", .text i.kind), ("text", .text i.text), ("startLine", .nat i.firstLine),
    ("endLine", .nat i.lastLine), ("children", .list []),
    ("attributes", .record (i.attributes.map fun (key, s) => (key, .text s)))]

namespace Outline

/-- The node of the whole file in a report. -/
def rootReport (o : Outline) : Value :=
  .record [("kind", .text "program"), ("text", .text o.path), ("startLine", .nat 1),
    ("endLine", .int o.endLine), ("children", .list (o.items.map (·.report))),
    ("attributes", .record [("language", .text o.language.tag)])]

/-- The entries of an outline in a report. -/
def reportEntries (o : Outline) : Entries :=
  [("path", .text o.path), ("language", .text o.language.tag), ("structuralNode", o.rootReport),
    ("functions", .list (o.functions.map (·.report))),
    ("types", .list (o.types.map (·.report))),
    ("imports", .list (o.imports.map (·.report))),
    ("linesOfCode", .int o.lineCount), ("commentLines", .int o.commentCount),
    ("namespace", .textOrNull o.scope)]

/-- An outline in a report. -/
def report (o : Outline) : Value :=
  .record o.reportEntries

end Outline

end SourceAtlas
