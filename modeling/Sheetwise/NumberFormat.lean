import Sheetwise.Text.Basic

/-!
# Number formats

A cell's number is shown through a format, given by a number for the common ones or by a code. All
that matters of it here is whether it shows a date or a time: the file then holds a serial number
where the reader of the sheet sees a date.
-/

namespace Sheetwise.NumberFormat

/-- Whether a format known by its number shows a date or a time. -/
def isBuiltInDate (id : Nat) : Bool :=
  (decide (14 ≤ id) && decide (id ≤ 22)) || (decide (45 ≤ id) && decide (id ≤ 47))

/-- Whether brackets enclose an elapsed time, such as `[h]` or `[mm]`, and not a colour or a locale. -/
def isElapsed (inner : List Char) : Bool :=
  !inner.isEmpty && inner.all fun c => ['h', 'm', 's'].contains c.toLower

/--
The characters of a code that are neither quoted, escaped, padding nor in brackets. An elapsed time
in brackets counts as an `h`.
-/
def symbols : List Char → List Char
  | [] => []
  | c :: cs =>
    if c = '"' then symbols (Text.after '"' cs)
    else if c = '\\' ∨ c = '_' ∨ c = '*' then symbols (cs.drop 1)
    else if c = '[' then
      let rest := symbols (Text.after ']' cs)
      if isElapsed (Text.before ']' cs) then 'h' :: rest else rest
    else c :: symbols cs
termination_by cs => cs.length
decreasing_by
  · exact Nat.lt_succ_of_le (Text.length_after_le _ _)
  · rw [List.length_drop, List.length_cons]; omega
  · exact Nat.lt_succ_of_le (Text.length_after_le _ _)
  · exact Nat.lt_succ_self _

/-- Whether a code shows a date or a time. Its first section, for positive numbers, decides. -/
def isDateCode (code : String) : Bool :=
  let part := Text.before ';' code.toList
  if part.map Char.toLower = "general".toList then false
  else (symbols part).any fun c => ['y', 'm', 'd', 'h', 's'].contains c.toLower

/-- Whether a format shows a date or a time; a code of its own takes the place of its number. -/
def isDate (id : Nat) (code : Option String) : Bool :=
  match code with
  | some code => isDateCode code
  | none => isBuiltInDate id

end Sheetwise.NumberFormat
