import Sheetwise.Bridge.Launch

/-!
# Sessions

A session is one workbook open in an application of its own. It begins by starting the bridge and
opening the workbook and ends by closing the workbook and stopping the bridge, and whatever fails in
between, the bridge is told to stop. A session ends when it is closed or else when it is dropped, and in
both cases it gives back its bridge just once.
-/

namespace Sheetwise.Bridge

/-- A workbook that is open. -/
structure Session where
  handle : Nat
  /-- Whether the workbook has been closed and the bridge given back. -/
  isReleased : Bool := false
deriving DecidableEq, Repr

/-- Makes a call and goes on with how it ended. -/
def attempt {α : Type} (call : Call α) : Call (Except CallError α) := ExceptT.lift call.run

namespace Session

/-- Opens the workbook at a path. If it cannot be opened, the bridge is stopped again. -/
def openWorkbook (host : Host) (config : Config) (path : String) : Call Session := do
  start host config
  match ← attempt (Bridge.openWorkbook path) with
  | .ok handle => return { handle }
  | .error e =>
    discard (attempt shutdown)
    throw e

/-- The workbook, as long as there is a bridge to ask about it. -/
def workbook (s : Session) : Call Nat :=
  if s.isReleased then throw .notRunning else return s.handle

/-- The names of the sheets, in order. -/
def sheetNames (s : Session) : Call (List String) := do listSheets (← s.workbook)

/-- The objects drawn on a sheet. -/
def shapes (s : Session) (sheet : String) : Call (List Reported.Drawing) := do
  Bridge.shapes (← s.workbook) (.name sheet)

/-- The charts on a sheet. -/
def charts (s : Session) (sheet : String) : Call (List Reported.Chart) := do
  Bridge.charts (← s.workbook) (.name sheet)

/-- The print areas of a sheet as text. -/
def printArea (s : Session) (sheet : String) : Call String := do
  Bridge.printArea (← s.workbook) (.name sheet)

/-- How a sheet is cut into pages. -/
def pageBreaks (s : Session) (sheet : String) : Call Reported.PageBreaks := do
  Bridge.pageBreaks (← s.workbook) (.name sheet)

/-- The used range of a sheet. -/
def grid (s : Session) (sheet : String) : Call Reported.UsedRange := do
  Bridge.grid (← s.workbook) (.name sheet)

/--
Closes the workbook and stops the bridge, also if the workbook cannot be closed. Of two failures the
first is reported. There is nothing to do for a session that has been released.
-/
def release (s : Session) : Call Unit :=
  if s.isReleased then return ()
  else do
    let closed ← attempt (closeWorkbook s.handle)
    let stopped ← attempt shutdown
    liftExcept closed
    liftExcept stopped

/-- The session after it has been released. -/
def released (s : Session) : Session := { s with isReleased := true }

/-- Lets go of a session, whether it has been released or not. Failures are of no consequence. -/
def drop (s : Session) : Call Unit := discard (attempt s.release)

/-- Ends a session and tells how that went. -/
def close (s : Session) : Call Unit := do
  let result ← attempt s.release
  s.released.drop
  liftExcept result

end Session

end Sheetwise.Bridge
