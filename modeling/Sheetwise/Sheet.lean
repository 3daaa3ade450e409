import Sheetwise.Cell
import Sheetwise.Chart
import Sheetwise.Named

/-!
# Sheets and workbooks

Everything extracted from a sheet, and the sheets of a workbook in their order.
-/

namespace Sheetwise

/-- The cells painted in each colour, with rows numbered from one. -/
abbrev ColorMap := SortedMap String (List (Nat × Nat))

/-- What is extracted from one sheet. Lengths are measured in `α`. -/
structure Sheet (α : Type := Float) where
  rows : List Row := []
  shapes : List Graphic := []
  charts : List Chart := []
  tableCandidates : List String := []
  printAreas : List PrintArea := []
  autoPrintAreas : List PrintArea := []
  colors : ColorMap := ∅
  metrics : Metrics α

/-- The sheet with nothing on it. -/
def Sheet.blank : Sheet where
  metrics := .standard

instance : Inhabited Sheet := ⟨.blank⟩

/-- A workbook: its name and its sheets in order. -/
structure Workbook (α : Type := Float) where
  bookName : String
  sheets : Named (Sheet α)

instance : Inhabited Workbook := ⟨⟨"", .empty⟩⟩

end Sheetwise
