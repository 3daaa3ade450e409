import Sheetwise.Application
import Sheetwise.Bridge.Session
import Sheetwise.Reported.Grid

/-!
# The application behind the bridge

A session as a source of sheet data. Whatever is asked of the cells of a sheet is answered from its
used range, which is fetched anew for every question.
-/

namespace Sheetwise.Bridge

/-- A call as a question, under the name of its operation. -/
def query {α : Type} (operation : String) (call : Call α) : Query Channel α :=
  ExceptT.mk do
    let result ← call.run
    return result.mapError fun e => .callFailed operation e.message

namespace Session

/-- The names of the sheets, in order. -/
def names (s : Session) : Query Channel (List String) := query "ListSheets" s.sheetNames

/-- The cells of a sheet. -/
def cells (s : Session) (sheet : String) : Query Channel Grid :=
  Reported.UsedRange.grid <$> query "GetSheetGrid" (s.grid sheet)

/-- The application that has the workbook of a session open. -/
def application (s : Session) : Application Channel where
  graphics sheet := query "GetShapes" (s.shapes sheet)
  charts sheet := query "GetCharts" (s.charts sheet)
  pageBreaks sheet := query "GetPageBreaks" (s.pageBreaks sheet)
  rows sheet includeLinks := (fun g => g.toRows includeLinks) <$> s.cells sheet
  metrics sheet := Grid.metrics <$> s.cells sheet
  printAreas sheet :=
    (fun text => PrintArea.listOf text sheet) <$> query "GetPrintAreas" (s.printArea sheet)
  colors sheet options := (fun g => Color.map g options) <$> s.cells sheet
  tableCandidates sheet t := (fun g => Table.detect g t) <$> s.cells sheet
  close c := (s.drop.run.run c).2

end Session

/-- Opens a session on the workbook at a path, given as the bridge sees it. -/
def session (host : Host) (config : Config) (path : String) : Query Channel Session :=
  ExceptT.mk do
    let result ← (Session.openWorkbook host config path).run
    return result.mapError fun e => .unavailable e.message

/-- The connector that starts a bridge. -/
def connector (host : Host) (config : Config) (path : String) : Connector Channel where
  connect := Session.application <$> session host config path

end Sheetwise.Bridge
