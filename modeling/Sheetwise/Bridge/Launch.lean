import Sheetwise.Bridge.Channel

/-!
# Starting the bridge

The bridge is a Windows program. Another program runs it, and sees the files of this system under a
drive of their own. Where both are is configured, by default from the environment; whether they are
there is up to the host.
-/

namespace Sheetwise.Bridge

/-- How to start the bridge. -/
structure Config where
  /-- Where the bridge is; unset, it is looked for in the usual places. -/
  bridgePath : Option String := none
  /-- The program that runs the bridge. -/
  program : String := "wine"
  /-- The folder with the settings of that program. -/
  settings : Option String := none
deriving DecidableEq, Repr

/-- The configuration that the environment gives; an empty variable counts as unset. -/
def Config.ofEnvironment (value? : String → Option String) : Config :=
  let set? (name : String) : Option String := (value? name).filter (· ≠ "")
  { bridgePath := set? "EXSTRUCT_BRIDGE_EXE"
    program := (set? "EXSTRUCT_WINE").getD "wine"
    settings := set? "WINEPREFIX" }

/-- What comes of running a program. -/
inductive Program where
  /-- There is no such program. -/
  | missing
  /-- There is something of the name that cannot be run. -/
  | broken
  | runs
deriving DecidableEq, Repr

/-- The system that the bridge is to be started on. -/
structure Host where
  hasFile : String → Bool
  program : String → Program
  /-- Where the bridge is if the configuration does not say. -/
  usualBridge : String := "excel-com-bridge.exe"

/-- Starts the process of the bridge. That the bridge is there is checked first. -/
def launch (host : Host) (config : Config) : Except CallError Unit :=
  let path := config.bridgePath.getD host.usualBridge
  if !host.hasFile path then .error (.noBridge path)
  else
    match host.program config.program with
    | .missing => .error .noProgram
    | .broken => .error .cannotStart
    | .runs => .ok ()

/-- Starts the bridge and the application. -/
def start (host : Host) (config : Config) : Call Unit := do
  liftExcept (launch host config)
  discard (send .init)

/-- An absolute path as the bridge sees it: on drive `Z:`, with backslashes. -/
def windowsPath (path : String) : String :=
  "Z:" ++ String.ofList (path.toList.map fun c => if c = '/' then '\\' else c)

end Sheetwise.Bridge
