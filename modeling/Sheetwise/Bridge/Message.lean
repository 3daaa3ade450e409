import Sheetwise.Reported.Basic

/-!
# Messages to and from the bridge

The application that has a workbook open is driven by a process of its own, the bridge. Every request
to it carries a number, and the response to it carries the same number. A response says that the
request succeeded, with data if there is any to give, or why it failed.
-/

namespace Sheetwise.Bridge

/-- A sheet, by its place counted from zero or by its name. -/
inductive SheetRef where
  | index (n : Nat)
  | name (s : String)
deriving DecidableEq, Repr

/-- What the bridge is asked to do. A workbook is known by the handle that opening it gave. -/
inductive Command where
  /-- Start the application. -/
  | init
  | openWorkbook (path : String)
  | listSheets (workbook : Nat)
  | getShapes (workbook : Nat) (sheet : SheetRef)
  | getCharts (workbook : Nat) (sheet : SheetRef)
  | getPrintAreas (workbook : Nat) (sheet : SheetRef)
  | getPageBreaks (workbook : Nat) (sheet : SheetRef)
  | getGrid (workbook : Nat) (sheet : SheetRef)
  | closeWorkbook (workbook : Nat)
  /-- Close everything and quit the application. -/
  | shutdown
deriving DecidableEq, Repr

/-- A numbered command. -/
structure Request where
  id : Nat
  command : Command
deriving DecidableEq, Repr

/-- The data of a response. -/
inductive Payload where
  /-- The handle of a workbook that was opened. -/
  | workbook (handle : Nat)
  | sheets (names : List String)
  | shapes (drawings : List Reported.Drawing)
  | charts (charts : List Reported.Chart)
  | pageBreaks (breaks : Reported.PageBreaks)
  | grid (range : Reported.UsedRange)
  /-- The print areas of a sheet as a list of references. -/
  | printArea (text : String)

/-- How a command ended. -/
inductive Outcome where
  | ok (data : Option Payload)
  | error (message : String)

/-- The answer to the request of a number. -/
structure Response where
  id : Nat
  outcome : Outcome

end Sheetwise.Bridge
