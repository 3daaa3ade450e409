/-!
# Paths of parts

The parts of a package are named by paths. A part refers to another by an absolute path, which starts
with a slash, or by a path relative to the folder it is in, where `.` and `..` have their usual
meaning. What a part refers to is listed in a part of its own, beside it in the folder `_rels`.
-/

namespace Sheetwise.Package

/-- The path of some segments. -/
def joinPath (segments : List (List Char)) : String :=
  String.ofList (List.intercalate ['/'] segments)

/-- Follows one segment of a relative path. -/
def follow (segments : List (List Char)) (piece : List Char) : List (List Char) :=
  if piece = [] ∨ piece = ['.'] then segments
  else if piece = ['.', '.'] then segments.dropLast
  else segments ++ [piece]

/-- The path of the part that `target` refers to in the part `source`. -/
def resolve (source target : String) : String :=
  match target.toList with
  | '/' :: path => String.ofList path
  | path => joinPath ((path.splitOn '/').foldl follow (source.toList.splitOn '/').dropLast)

/-- The path of the part that lists what a part refers to. -/
def relationshipsPath (part : String) : String :=
  let segments := part.toList.splitOn '/'
  joinPath (segments.dropLast ++ ["_rels".toList, segments.getLastD [] ++ ".rels".toList])

end Sheetwise.Package
