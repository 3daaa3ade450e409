import Sheetwise.Package.Source
import Sheetwise.Reported.Basic

/-!
# The application as a source

An application that has the workbook open knows what the file does not: the objects drawn on a sheet,
its charts and its page breaks. It answers the questions that the file answers, too. It may be out of
reach, and any call to it may fail, depending on all that was called before; so its answers are
computations on a state, of which nothing else is said.
-/

namespace Sheetwise

/-- A question to a source with a state. -/
abbrev Query (σ α : Type) := ExceptT SourceError (StateM σ) α

/-- An application with a workbook open. Sheets are known by their names. -/
structure Application (σ : Type) where
  graphics : String → Query σ (List Reported.Drawing)
  charts : String → Query σ (List Reported.Chart)
  pageBreaks : String → Query σ Reported.PageBreaks
  /-- The rows of a sheet, with their links if these are wanted. -/
  rows : String → Bool → Query σ (List Row)
  metrics : String → Query σ Metrics
  printAreas : String → Query σ (List PrintArea)
  colors : String → ColorOptions → Query σ ColorMap
  tableCandidates : String → TableThresholds → Query σ (List String)
  /-- What becomes of the state when the workbook is closed. -/
  close : σ → σ

/-- How to open a workbook in an application. -/
structure Connector (σ : Type) where
  connect : Query σ (Application σ)

/-- The connector of those who have no application. -/
def Connector.absent {σ : Type} : Connector σ where
  connect := throw (.unavailable "automation is not configured")

end Sheetwise
