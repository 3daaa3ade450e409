import Sheetwise.Address
import Sheetwise.Archive.Basic
import Sheetwise.Fault
import Sheetwise.Markup.Event

/-!
# Packages

A workbook file is a package of parts, each a path and some bytes. Reading it may fail for a few
reasons. A fault ends the reading altogether; it is no property of the package that a reader could
report.
-/

namespace Sheetwise

/-- The parts of a package, by their paths. -/
structure Package where
  parts : List (String × Markup.Bytes)

/-- Why a package or a part of it cannot be read. -/
inductive ReadError where
  /-- There is no file. -/
  | noFile
  /-- The file is no archive of parts. -/
  | notArchive
  /-- The part that says what the others contain is not there. -/
  | noContentTypes
  | missingPart (path : String)
  /-- The markup of a part is not well formed. -/
  | markup
  /-- A cell is named by something else than an address. -/
  | badReference (text : String) (cause : AddressError)
  /-- The index of a shared string is no number. -/
  | badStringIndex (text : String)
  /-- There is no shared string of an index. -/
  | stringIndexBeyond (index : Nat)

/-- The text that reports why something cannot be read. -/
def ReadError.message : ReadError → String
  | .noFile => "IO error"
  | .notArchive => "ZIP error"
  | .noContentTypes => "Invalid XLSX format: Missing [Content_Types].xml"
  | .missingPart path => "Missing required part: " ++ path
  | .markup => "XML error"
  | .badReference text cause =>
    "Parse error: Invalid cell reference '" ++ text ++ "': " ++ cause.message
  | .badStringIndex text => "Parse error: Invalid shared string index: " ++ text
  | .stringIndexBeyond index =>
    "Parse error: Shared string index " ++ Text.ofNat index ++ " out of bounds"

/-- A computation that reads: it may fail, or end in a fault. -/
abbrev Reading (α : Type) := ExceptT ReadError Checked α

/-- Goes on with what went wrong as a value. -/
def Reading.attempt {α : Type} (r : Reading α) : Reading (Except ReadError α) :=
  ExceptT.lift r.run

namespace Package

/-- The bytes of a part. -/
def find? (p : Package) (path : String) : Option Markup.Bytes := p.parts.lookup path

/-- The events of the markup of a part. -/
def events? (p : Package) (blanks : Markup.Blanks) (path : String) : Option Markup.Events :=
  (p.find? path).map (Markup.Events.ofBytes blanks)

/-- The package in an archive given by its bytes. Of entries with one name the last one counts. -/
def ofArchive (bs : Markup.Bytes) : Except ReadError Package :=
  match Archive.entries? bs with
  | some parts => .ok ⟨parts⟩
  | none => .error .notArchive

end Package

/-- Events as a result: those of a part that is not well formed are an error. -/
def Markup.Events.checked (es : Events) : Except ReadError Unit :=
  if es.wellFormed then .ok () else .error .markup

end Sheetwise
