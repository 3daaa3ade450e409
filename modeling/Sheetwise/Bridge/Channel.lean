import Sheetwise.Codec.Message
import Sheetwise.Json.Reader

/-!
# The channel to the bridge

Requests go to the bridge one line each, and after every request one line is read back. Nothing is
promised about what the bridge writes: lines may be missing, too many or out of order, and the output
may end at any time. So a response counts only if it carries the number of the request just sent, and
numbers are never used twice.

A read waits until there is a whole line or the output has ended. When the bridge writes is therefore of
no consequence, and all that need be known of it is what it writes in the end.

Two things that can happen to a request are left out. One that cannot be written fails before a line is
read for it: it uses up a number and leaves every line to the requests after it, so it can neither get
the answer to another request nor keep one from its own. And the numbers have no end here, where a
counter of 64 bits begins anew after more requests than are sent in the life of a bridge.
-/

namespace Sheetwise.Bridge

/-- Why a call to the bridge gives nothing. -/
inductive CallError where
  /-- There is no program that could start the bridge. -/
  | noProgram
  /-- The program that starts the bridge cannot be run. -/
  | cannotStart
  /-- There is no bridge at a path. -/
  | noBridge (path : String)
  /-- The output of the bridge has ended. -/
  | notRunning
  /-- What the bridge wrote is no text. -/
  | notText
  /-- What the bridge wrote is no response. -/
  | notResponse
  /-- The bridge says why the command failed. -/
  | refused (message : String)
  /-- The response belongs to another request, or its data to another command. -/
  | unexpected
deriving DecidableEq, Repr

/-- The text that reports why a call gives nothing. -/
def CallError.message : CallError → String
  | .noProgram => "WINE not found. Install WINE and ensure 'wine' is in PATH."
  | .cannotStart => "Failed to spawn WINE bridge process"
  | .noBridge path => "Bridge executable not found at: " ++ path
  | .notRunning => "Bridge process not running"
  | .notText => "Failed to read response from bridge: stream did not contain valid UTF-8"
  | .notResponse => "JSON serialization error"
  | .refused message => "Bridge returned error: " ++ message
  | .unexpected => "Unexpected response data"

/-- The end of a line. -/
def newline : UInt8 := 10

/-- The state of a channel. -/
structure Channel where
  /-- The number of the next request. -/
  nextId : Nat := 1
  /-- The requests sent so far, in order. -/
  sent : List Request := []
  /-- What the bridge writes before it closes its output, less what has been read. -/
  unread : List UInt8 := []

/-- A call through a channel. -/
abbrev Call (α : Type) := ExceptT CallError (StateM Channel) α

namespace Channel

/-- Sends a command under the next number. -/
def submit (c : Channel) (command : Command) : Channel :=
  { c with nextId := c.nextId + 1, sent := c.sent ++ [⟨c.nextId, command⟩] }

/-- The next line of what the bridge writes, up to its end, and the channel after it is read. -/
def takeLine (c : Channel) : List UInt8 × Channel :=
  (c.unread.takeWhile (· ≠ newline),
    { c with unread := (c.unread.dropWhile (· ≠ newline)).drop 1 })

/-- The response in a line. -/
def responseOf (line : List UInt8) : Except CallError Response :=
  match String.fromUTF8? (ByteArray.mk line.toArray) with
  | none => .error .notText
  | some text =>
    match (Json.ofText? text).bind Response.ofJson? with
    | none => .error .notResponse
    | some r => .ok r

/-- Reads the next response. When the output has ended, the bridge is gone. -/
def readResponse (c : Channel) : Except CallError Response × Channel :=
  if c.unread = [] then (.error .notRunning, c)
  else
    let (line, c) := c.takeLine
    (responseOf line, c)

end Channel

/-- The data that a response gives to the request of a number. -/
def Response.dataFor (r : Response) (id : Nat) : Except CallError (Option Payload) :=
  if r.id ≠ id then .error .unexpected
  else
    match r.outcome with
    | .ok data => .ok data
    | .error message => .error (.refused message)

/-- Sends a command and waits for the data that answer it. -/
def send (command : Command) : Call (Option Payload) := fun c =>
  let (response, c') := (c.submit command).readResponse
  (response.bind fun r => r.dataFor c.nextId, c')

/-- Sends a command that has to be answered by data of one kind. -/
def ask {α : Type} (command : Command) (kind : Option Payload → Option α) : Call α := do
  match kind (← send command) with
  | some a => return a
  | none => throw .unexpected

/-! ## Commands with their kinds of data -/

/-- Opens a workbook to read it, and gives its handle. -/
def openWorkbook (path : String) : Call Nat :=
  ask (.openWorkbook path) fun
    | some (.workbook handle) => some handle
    | _ => none

/-- The names of the sheets, in order. -/
def listSheets (workbook : Nat) : Call (List String) :=
  ask (.listSheets workbook) fun
    | some (.sheets names) => some names
    | _ => none

/-- The objects drawn on a sheet. -/
def shapes (workbook : Nat) (sheet : SheetRef) : Call (List Reported.Drawing) :=
  ask (.getShapes workbook sheet) fun
    | some (.shapes drawings) => some drawings
    | _ => none

/-- The charts on a sheet. -/
def charts (workbook : Nat) (sheet : SheetRef) : Call (List Reported.Chart) :=
  ask (.getCharts workbook sheet) fun
    | some (.charts charts) => some charts
    | _ => none

/-- The print areas of a sheet as text, which is empty if the response has no data. -/
def printArea (workbook : Nat) (sheet : SheetRef) : Call String :=
  ask (.getPrintAreas workbook sheet) fun
    | some (.printArea text) => some text
    | none => some ""
    | _ => none

/-- How a sheet is cut into pages. -/
def pageBreaks (workbook : Nat) (sheet : SheetRef) : Call Reported.PageBreaks :=
  ask (.getPageBreaks workbook sheet) fun
    | some (.pageBreaks breaks) => some breaks
    | _ => none

/-- The used range of a sheet. -/
def grid (workbook : Nat) (sheet : SheetRef) : Call Reported.UsedRange :=
  ask (.getGrid workbook sheet) fun
    | some (.grid range) => some range
    | _ => none

/-- Closes a workbook. -/
def closeWorkbook (workbook : Nat) : Call Unit := discard (send (.closeWorkbook workbook))

/-- Stops the bridge. -/
def shutdown : Call Unit := discard (send .shutdown)

end Sheetwise.Bridge
