import Sheetwise.Application
import Sheetwise.Sheet
import Sheetwise.Text.Hidden

/-!
# Extractions

What comes of extracting a workbook: its contents, and, if the application had no part in them, why.
On the way an extraction goes through stages and leaves notices; it fails only if the file cannot be
read.
-/

namespace Sheetwise

/-- The stages of an extraction. -/
inductive Stage where
  | start
  | selectSources
  | readFile
  | askApplication
  | skipApplication
  | merge
  | done
deriving DecidableEq, Repr

/-- The name of a stage. -/
def Stage.name : Stage → String
  | .start => "init"
  | .selectSources => "select-backends"
  | .readFile => "run-file-backend"
  | .askApplication => "run-automation-backend"
  | .skipApplication => "skip-automation"
  | .merge => "merge"
  | .done => "done"

/-- Why the application had no part in an extraction. -/
inductive FallbackReason where
  /-- The application cannot be reached. -/
  | unavailable
  /-- A call to the application failed. -/
  | failed
  /-- The mode asks nothing of the application. -/
  | disabled
deriving DecidableEq, Repr

/-- The name of a reason. -/
def FallbackReason.name : FallbackReason → String
  | .unavailable => "automation_unavailable"
  | .failed => "automation_failed"
  | .disabled => "disabled_by_mode"

/-- A reason in words. -/
def FallbackReason.text : FallbackReason → String
  | .unavailable => "automation unavailable"
  | .failed => "automation failed"
  | .disabled => "disabled by mode"

/-- Why the application had no part in an extraction, in detail. -/
structure Fallback where
  reason : FallbackReason
  detail : String
deriving DecidableEq, Repr

/-- What an extraction asks of the file for each sheet. -/
inductive FileStep where
  | cells
  | metrics
  | tableCandidates
  | printAreas
  | colors
deriving DecidableEq, Repr

/-- What a step is about. -/
def FileStep.subject : FileStep → String
  | .cells => "cells"
  | .metrics => "metrics"
  | .tableCandidates => "table candidates"
  | .printAreas => "print areas"
  | .colors => "colors map"

/-- What an extraction has to say while it runs. -/
inductive Notice where
  /-- A step could not be taken for a sheet. -/
  | unavailable (step : FileStep) (sheet : String) (cause : SourceError)
  /-- The mode asks nothing of the application. -/
  | skipped (mode : Mode)
  /-- The application has no part in an extraction that depends on it so much. -/
  | fallback (f : Fallback) (need : AutomationNeed)

/-- The text of a notice. -/
def Notice.message : Notice → String
  | .unavailable step sheet cause =>
    step.subject ++ " of sheet " ++ Text.quoted sheet ++ " unavailable from file: " ++ cause.message
  | .skipped mode => "automation skipped in " ++ mode.name ++ " mode"
  | .fallback f _ => f.reason.text ++ ": " ++ f.detail

/-- Whether a notice warns of something missing. -/
def Notice.isWarning : Notice → Bool
  | .unavailable _ _ _ => true
  | .skipped _ => false
  | .fallback _ need => need = .required

/-- What an extraction gives. -/
structure Extraction where
  workbook : Workbook
  /-- Why the application had no part in it, if it had none. -/
  fallback : Option Fallback

/-- Why an extraction fails. -/
inductive ExtractionError where
  /-- The name of the file is not that of a workbook. -/
  | unsupported (path : String)
  /-- The file cannot be read. -/
  | notOpened (path : String) (cause : ReadError)

/-- The text that reports why an extraction fails. -/
def ExtractionError.message : ExtractionError → String
  | .unsupported path => "Unsupported file format: " ++ path ++ " (expected .xlsx or .xlsm)"
  | .notOpened path cause => "Cannot open workbook " ++ path ++ ": " ++ cause.message

/-- A finished extraction, with the stages that it went through after its start. -/
structure Run where
  stages : List Stage
  notices : List Notice := []
  result : Except ExtractionError Extraction

/-- The steps from stage to stage. -/
def Run.transitions (r : Run) : List (Stage × Stage) := (Stage.start :: r.stages).zip r.stages

end Sheetwise
