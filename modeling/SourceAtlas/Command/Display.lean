import SourceAtlas.Analysis.Basic
import SourceAtlas.Language.Matchers
import SourceAtlas.Terminal.Block

/-!
# What commands show

The result of an analysis and the supported languages as blocks of output. Main functions:
`analysisBlocks` and `languagesBlock`.
-/

namespace SourceAtlas.Command

open Terminal

/-- The figures of a project. -/
def figuresBlock (s : ProjectStats) : Block :=
  let count (n : Int) : String := "[bold]" ++ integerText n ++ "[/bold]"
  .panel "Project"
    (count s.fileCount ++ " files  " ++ count s.lineCount ++ " lines  "
      ++ count s.functionCount ++ " functions  " ++ count s.typeCount ++ " types\n"
      ++ "Complexity avg " ++ s.complexity.average.text
      ++ " / max " ++ integerText s.complexity.highest
      ++ "  Unresolved imports: " ++ decimalText s.unresolved.length
      ++ "  Skipped files: " ++ decimalText s.skipped.length)
    false

/-- How many files there are in each language. -/
def histogramBlock (s : ProjectStats) : Block :=
  .table "Languages" [{ header := "Language" }, { header := "Files", alignment := .right }]
    (s.languages.map fun (tag, n) => [tag, integerText n])

/-- The number of dependencies that are listed. -/
def edgesShown : Nat := 30

/-- The dependencies, the first ones listed and the rest counted. -/
def edgeBlocks (g : Graph) : List Block :=
  let edges := g.edges.toList
  let table : Block :=
    .table ("Dependencies (" ++ decimalText edges.length ++ " edges)")
      [{ header := "Source" }, { header := "Target" }, { header := "Kind" },
        { header := "Weight", alignment := .right }]
      ((edges.take edgesShown).map fun e => [e.source, e.target, e.kind, integerText e.weight])
  if edgesShown < edges.length then
    [table, .text ("[dim]... " ++ decimalText (edges.length - edgesShown)
      ++ " more (use --json)[/dim]")]
  else [table]

/-- The cycles, if there are any. -/
def cycleBlocks (cycles : List Cycle) : List Block :=
  if cycles.isEmpty then [.text "\n[green]✓[/green] No circular dependencies"]
  else
    .text ("\n[bold red]Circular dependencies (" ++ decimalText cycles.length ++ ")[/bold red]")
      :: cycles.map fun c => .text ("  • " ++ c.text)

/-- The assessment of a project. -/
def enrichmentBlock (e : EnrichmentOutcome) : Block :=
  let source := if e.phase = .fallback then "local fallback" else "provider"
  let a := e.assessment
  .panel ("Enrichment (" ++ source ++ ")")
    ("\n".intercalate
      ([a.summary, ""] ++ a.recommendations.map ("• " ++ ·)
        ++ ["\nComplexity score " ++ briefText a.complexityScore
          ++ "  Quality score " ++ briefText a.qualityScore]))
    true

/-- The result of an analysis. -/
def analysisBlocks (a : Analysis) : List Block :=
  [figuresBlock a.stats, histogramBlock a.stats] ++ edgeBlocks a.graph ++ cycleBlocks a.cycles
    ++ (a.enrichment.map enrichmentBlock).toList

/-- The endings and names of the files of a language. -/
def fileNamesOf (l : Language) : List String :=
  (Language.extensions ++ Language.wholeNames).filterMap fun (name, m) =>
    if m = l then some name else none

/-- The languages, with their files and what is read from them. -/
def languagesBlock (ls : List Language) : Block :=
  .table "Supported languages"
    [{ header := "Language" }, { header := "Extensions" }, { header := "Extraction" }]
    (ls.map fun l =>
      [l.tag, " ".intercalate (fileNamesOf l),
        if l.matchers.declares then "structural" else "metadata only"])

end SourceAtlas.Command
