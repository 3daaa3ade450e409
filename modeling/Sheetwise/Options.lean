import Sheetwise.Colors
import Sheetwise.Table

/-!
# Options of an extraction

How much to extract, and what to leave out. Settings that are not given follow the mode.
-/

namespace Sheetwise

/-- How much to extract. -/
inductive Mode where
  /-- Cells, table candidates and print areas, from the file alone. -/
  | light
  /-- Also charts and the graphics that say something. -/
  | standard
  /-- Also all other graphics, sizes, and links of cells. -/
  | verbose
deriving DecidableEq, Repr, Inhabited

namespace Mode

/-- The name of a mode. -/
def name : Mode → String
  | .light => "light"
  | .standard => "standard"
  | .verbose => "verbose"

/-- The mode of a name, in any case and with blanks around it. -/
def ofName? (s : String) : Option Mode :=
  let key := Text.lower (Text.trim s)
  [Mode.light, .standard, .verbose].find? fun m => m.name = key

/-- The mode that holds unless another is chosen. -/
def default : Mode := .standard

end Mode

/-- The options of one extraction. -/
structure Options where
  mode : Mode := .default
  /-- Whether to report links of cells; unset, it is so in verbose mode only. -/
  includeCellLinks : Option Bool := none
  includePrintAreas : Bool := true
  /-- Whether to cut print areas into pages, which needs the application. -/
  includeAutoPageBreaks : Bool := false
  includeColors : Bool := false
  colors : ColorOptions := {}
  /-- The thresholds of this extraction; unset, those in force when it runs. -/
  thresholds : Option TableThresholds := none
deriving Inhabited

namespace Options

/-- Whether links of cells are reported. -/
def cellLinks (o : Options) : Bool := o.includeCellLinks.getD (o.mode = .verbose)

/-- The thresholds of an extraction, given those in force. -/
def tableThresholds (o : Options) (inForce : TableThresholds) : TableThresholds :=
  o.thresholds.getD inForce

end Options

/-- How much an extraction depends on the application. -/
inductive AutomationNeed where
  /-- Graphics and charts come from it. -/
  | required
  /-- Only page breaks come from it. -/
  | optional
  | unused
deriving DecidableEq, Repr

/-- The name of a need. -/
def AutomationNeed.name : AutomationNeed → String
  | .required => "Required"
  | .optional => "Optional"
  | .unused => "Unused"

/-- How much an extraction with these options depends on the application. -/
def Options.need (o : Options) : AutomationNeed :=
  match o.mode with
  | .standard | .verbose => .required
  | .light => if o.includeAutoPageBreaks then .optional else .unused

end Sheetwise
