import Mathlib.Data.List.Induction
import Sheetwise.Package.Path

/-!
# One part under many names

A path is followed piece by piece from the folder of the part that it is in. A piece that says nothing
leaves the folder as it is, a plain one goes down and two dots go up. To go down and up again is
therefore to stay, wherever on the way this is done: in the folder at the start, on the way up, at the
top, where there is nothing but the detour itself to go up from, and on the way down again. So all
spellings of a path lead to the same part.

The one exception is made before a path is followed at all. Text that begins with a slash is taken for a
path from the top, and a piece that says nothing, put in front of the others, makes it begin so.
-/

namespace Sheetwise.Package

/-- A name that a folder or a file may have and that does not stand for anything else. -/
structure IsPlain (piece : List Char) : Prop where
  ne_nil : piece ≠ []
  ne_dot : piece ≠ ['.']
  ne_dots : piece ≠ ['.', '.']
  noSlash : '/' ∉ piece

theorem isPlain_iff {piece : List Char} :
    IsPlain piece ↔ piece ≠ [] ∧ piece ≠ ['.'] ∧ piece ≠ ['.', '.'] ∧ '/' ∉ piece :=
  ⟨fun h => ⟨h.ne_nil, h.ne_dot, h.ne_dots, h.noSlash⟩, fun h => ⟨h.1, h.2.1, h.2.2.1, h.2.2.2⟩⟩

instance : DecidablePred IsPlain := fun _ => decidable_of_iff' _ isPlain_iff

/--
The ways to write a path: as it is, or with pieces anywhere that say nothing and with detours into a
folder and out of it, also within each other.
-/
inductive Respelled (path : List (List Char)) : List (List Char) → Prop where
  | same : Respelled path path
  | idle {front back : List (List Char)} {piece : List Char} : Respelled path (front ++ back) →
      piece = [] ∨ piece = ['.'] → Respelled path (front ++ piece :: back)
  | detour {front back : List (List Char)} {piece : List Char} : Respelled path (front ++ back) →
      IsPlain piece → Respelled path (front ++ piece :: ['.', '.'] :: back)

/-! ## Following pieces -/

section Follow

variable {folders path pieces : List (List Char)} {piece : List Char}

theorem follow_of_idle (h : piece = [] ∨ piece = ['.']) : follow folders piece = folders :=
  if_pos h

theorem follow_dots (folders : List (List Char)) : follow folders ['.', '.'] = folders.dropLast := rfl

theorem follow_of_isPlain (h : IsPlain piece) : follow folders piece = folders ++ [piece] := by
  rw [follow, if_neg (not_or.mpr ⟨h.ne_nil, h.ne_dot⟩), if_neg h.ne_dots]

/-- As many steps up as there are folders lead to the top. -/
theorem foldl_follow_dots (folders : List (List Char)) :
    (List.replicate folders.length ['.', '.']).foldl follow folders = [] := by
  induction folders using List.reverseRecOn with
  | nil => rfl
  | append_singleton folders folder ih =>
      rw [List.length_append, List.length_singleton, List.replicate_succ, List.foldl_cons, follow_dots,
        List.dropLast_concat, ih]

theorem foldl_follow_of_isPlain (h : ∀ piece ∈ pieces, IsPlain piece) :
    pieces.foldl follow folders = folders ++ pieces := by
  induction pieces generalizing folders with
  | nil => exact (List.append_nil folders).symm
  | cons piece pieces ih =>
      rw [List.forall_mem_cons] at h
      rw [List.foldl_cons, follow_of_isPlain h.1, ih h.2, List.append_assoc, List.singleton_append]

/-- **All spellings of a path lead to the same folder**, from wherever they are followed. -/
theorem Respelled.foldl_follow (h : Respelled path pieces) (folders : List (List Char)) :
    pieces.foldl follow folders = path.foldl follow folders := by
  induction h with
  | same => rfl
  | idle _ hidle ih => rw [← ih, List.foldl_append, List.foldl_append, List.foldl_cons, follow_of_idle hidle]
  | detour _ hplain ih =>
      -- the detour is taken off again before anything else is looked at
      rw [← ih, List.foldl_append, List.foldl_append, List.foldl_cons, List.foldl_cons,
        follow_of_isPlain hplain, follow_dots, List.dropLast_concat]

theorem Respelled.noSlash (h : Respelled path pieces) (hpath : ∀ piece ∈ path, '/' ∉ piece) :
    ∀ piece ∈ pieces, '/' ∉ piece := by
  induction h with
  | same => exact hpath
  | idle _ hidle ih =>
      rw [List.forall_mem_append] at ih ⊢
      refine ⟨ih.1, List.forall_mem_cons.mpr ⟨?_, ih.2⟩⟩
      rcases hidle with rfl | rfl <;> decide
  | detour _ hplain ih =>
      rw [List.forall_mem_append] at ih ⊢
      refine ⟨ih.1, List.forall_mem_cons.mpr ⟨hplain.noSlash, ?_⟩⟩
      exact List.forall_mem_cons.mpr ⟨by decide, ih.2⟩

end Follow

/-! ## Paths as text -/

variable {folders pieces : List (List Char)}

/-- Pieces that are joined by slashes are found again between them. -/
theorem splitOn_joinPath (hne : pieces ≠ []) (h : ∀ piece ∈ pieces, '/' ∉ piece) :
    (joinPath pieces).toList.splitOn '/' = pieces := by
  rw [joinPath, String.toList_ofList, List.splitOn_intercalate '/' h hne]

theorem resolve_slash (source path : String) : resolve source ("/" ++ path) = path := by
  rw [resolve, String.toList_append]
  exact String.ofList_toList

theorem resolve_of_head? {source target : String} (h : target.toList.head? ≠ some '/') :
    resolve source target
      = joinPath ((target.toList.splitOn '/').foldl follow (source.toList.splitOn '/').dropLast) := by
  unfold resolve
  split
  · next path hpath =>
    rw [hpath] at h
    exact absurd rfl h
  · rfl

/-- A path that is not from the top is followed from the folder of the part that it is in. -/
theorem resolve_joinPath {file : List Char} (hsource : ∀ piece ∈ folders ++ [file], '/' ∉ piece)
    (hpieces : ∀ piece ∈ pieces, '/' ∉ piece) (hhead : (joinPath pieces).toList.head? ≠ some '/') :
    resolve (joinPath (folders ++ [file])) (joinPath pieces) = joinPath (pieces.foldl follow folders) := by
  have hfolders : ((joinPath (folders ++ [file])).toList.splitOn '/').dropLast = folders := by
    rw [splitOn_joinPath (List.append_ne_nil_of_right_ne_nil _ (List.cons_ne_nil _ _)) hsource,
      List.dropLast_concat]
  rw [resolve_of_head? hhead, hfolders]
  by_cases hne : pieces = []
  · subst hne
    rfl
  · rw [splitOn_joinPath hne hpieces]

/--
**A part has one path, however it is spelled.** What is referred to by its path from the top is the part
with that path; and so is what is referred to by the path from the folder of the source to the top and
down again, in all its spellings that do not begin with a slash. The folders of the source may have any
names without slashes.
-/
theorem resolve_respelled {folders part : List (List Char)} {file : List Char}
    (hsource : ∀ piece ∈ folders ++ [file], '/' ∉ piece) (hpart : ∀ piece ∈ part, IsPlain piece) :
    resolve (joinPath (folders ++ [file])) ("/" ++ joinPath part) = joinPath part
    ∧ ∀ pieces, Respelled (List.replicate folders.length ['.', '.'] ++ part) pieces →
      (joinPath pieces).toList.head? ≠ some '/' →
      resolve (joinPath (folders ++ [file])) (joinPath pieces) = joinPath part := by
  refine ⟨resolve_slash _ _, fun pieces hspelled hhead => ?_⟩
  have hplain : ∀ piece ∈ List.replicate folders.length ['.', '.'] ++ part, '/' ∉ piece := by
    rw [List.forall_mem_append]
    refine ⟨fun piece hpiece => ?_, fun piece hpiece => (hpart piece hpiece).noSlash⟩
    rw [List.eq_of_mem_replicate hpiece]
    decide
  rw [resolve_joinPath hsource (hspelled.noSlash hplain) hhead, hspelled.foldl_follow, List.foldl_append,
    foldl_follow_dots, foldl_follow_of_isPlain hpart, List.nil_append]

/-- A table of a worksheet, with detours in the folder, on the way up and at the top. -/
theorem resolve_respelled_table :
    resolve "xl/worksheets/sheet1.xml" "/xl/tables/table1.xml" = "xl/tables/table1.xml"
      ∧ resolve "xl/worksheets/sheet1.xml" "./a/b/..//../../c/.././../d/../xl/tables//table1.xml"
        = "xl/tables/table1.xml" := by
  have hsource : ∀ piece ∈ ["xl".toList, "worksheets".toList] ++ ["sheet1.xml".toList],
      '/' ∉ piece := by decide +kernel
  have hpart : ∀ piece ∈ ["xl".toList, "tables".toList, "table1.xml".toList], IsPlain piece := by
    decide +kernel
  obtain ⟨hslash, hspelled⟩ := resolve_respelled hsource hpart
  -- from the way up and down without detours, one insertion after the other
  have h1 : Respelled [['.', '.'], ['.', '.'], "xl".toList, "tables".toList, "table1.xml".toList] _ :=
    @Respelled.idle _ [['.', '.'], ['.', '.'], "xl".toList, "tables".toList] ["table1.xml".toList] []
      .same (.inl rfl)
  have h2 := @Respelled.detour _ [['.', '.'], ['.', '.']] _ ['d'] h1 (by decide)
  have h3 := @Respelled.idle _ [['.', '.']] _ ['.'] h2 (.inr rfl)
  have h4 := @Respelled.detour _ [['.', '.']] _ ['c'] h3 (by decide)
  have h5 := @Respelled.detour _ [] _ ['a'] h4 (by decide)
  have h6 := @Respelled.detour _ [['a']] _ ['b'] h5 (by decide)
  have h7 := @Respelled.idle _ [['a'], ['b'], ['.', '.']] _ [] h6 (.inl rfl)
  have h8 := @Respelled.idle _ [] _ ['.'] h7 (.inr rfl)
  exact ⟨hslash, hspelled _ h8 (by decide +kernel)⟩

end Sheetwise.Package
