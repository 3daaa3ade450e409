import Mathlib.Data.List.Forall2
import Sheetwise.Package.WorkbookFile

/-!
# What an accepted package was read as

A package is read part by part. First come the parts that all sheets have in common, and an error in
one of these ends the reading. Then the sheets are read in order; an error in a sheet stays with the
sheet, and only a fault can still end the reading.
-/

namespace Sheetwise

namespace Reading

variable {α β : Type}

theorem run_bind (r : Reading α) (k : α → Reading β) :
    (r >>= k).run = match r.run with
      | .ok (.ok a) => (k a).run
      | .ok (.error e) => .ok (.error e)
      | .error fault => .error fault := by
  rw [ExceptT.run_bind]
  show Except.bind r.run _ = _
  rcases r.run with fault | e | a <;> rfl

theorem run_bind_eq_ok {r : Reading α} {k : α → Reading β} {b : β} :
    (r >>= k).run = .ok (.ok b) ↔ ∃ a, r.run = .ok (.ok a) ∧ (k a).run = .ok (.ok b) := by
  rw [run_bind]
  rcases r.run with fault | e | a <;> simp

theorem run_pure_ne_fault (a : α) (fault : Fault) : (pure a : Reading α).run ≠ .error fault := by
  intro h
  cases h

theorem run_lift_map_eq_fault {f : α → β} {r : Checked α} {fault : Fault} :
    (ExceptT.lift (r.map f) : Reading β).run = .error fault ↔ r = .error fault := by
  rw [ExceptT.run_lift]
  cases r with
  | error e =>
      show Except.error e = _ ↔ _
      rw [Except.error.injEq, Except.error.injEq]
  | ok a => exact iff_of_false (fun h => by cases h) (fun h => by cases h)

/-- A fault comes from the first computation, or from the second after the first gave a value. -/
theorem run_bind_eq_fault {r : Reading α} {k : α → Reading β} {fault : Fault} :
    (r >>= k).run = .error fault
      ↔ r.run = .error fault ∨ ∃ a, r.run = .ok (.ok a) ∧ (k a).run = .error fault := by
  rw [run_bind]
  rcases r.run with fault' | e | a <;> simp

theorem run_liftExcept (r : Except ReadError α) : (liftExcept r : Reading α).run = .ok r := by
  cases r <;> rfl

theorem run_eq_ok_iff {r : Reading α} {a : α} :
    r.run = .ok (.ok a) ↔ r.run.toOption.bind Except.toOption = some a := by
  rcases r.run with fault | e | b
  · exact iff_of_false (fun h => by cases h) (fun h => by cases h)
  · exact iff_of_false (fun h => by cases h) (fun h => by cases h)
  · rw [Except.ok.injEq, Except.ok.injEq]
    exact (Option.some.injEq b a).symm.to_iff

theorem run_lift_eq_ok {r : Checked α} {a : α} :
    (ExceptT.lift r : Reading α).run = .ok (.ok a) ↔ r = .ok a := by
  rw [ExceptT.run_lift]
  cases r with
  | error fault => exact iff_of_false (fun h => by cases h) (fun h => by cases h)
  | ok b =>
      show Except.ok (Except.ok b) = _ ↔ _
      simp

/-- A list is read item by item. -/
theorem run_mapM_eq_ok {f : α → Reading β} {l : List α} {ys : List β} :
    (l.mapM f).run = .ok (.ok ys) ↔ List.Forall₂ (fun a b => (f a).run = .ok (.ok b)) l ys := by
  induction l generalizing ys with
  | nil =>
      rw [List.mapM_nil, List.forall₂_nil_left_iff]
      constructor
      · intro h; cases h; rfl
      · intro h; rw [h]; rfl
  | cons a l ih =>
      rw [List.mapM_cons, run_bind_eq_ok, List.forall₂_cons_left_iff]
      constructor
      · intro hgiven
        obtain ⟨b, hb, h⟩ := hgiven
        obtain ⟨bs, hbs, h⟩ := run_bind_eq_ok.mp h
        cases h
        exact ⟨b, bs, hb, ih.mp hbs, rfl⟩
      · intro hgiven
        obtain ⟨b, bs, hb, hbs, rfl⟩ := hgiven
        exact ⟨b, hb, run_bind_eq_ok.mpr ⟨bs, ih.mpr hbs, rfl⟩⟩

/-- A list that was read can be split where its items are. -/
theorem run_mapM_split {f : α → Reading β} {before after : List α} {a : α} {ys : List β}
    (h : ((before ++ a :: after).mapM f).run = .ok (.ok ys)) :
    ∃ xs x zs, ys = xs ++ x :: zs ∧ (before.mapM f).run = .ok (.ok xs)
      ∧ (f a).run = .ok (.ok x) ∧ (after.mapM f).run = .ok (.ok zs) := by
  rw [List.mapM_append, List.mapM_cons] at h
  obtain ⟨xs, hxs, h⟩ := run_bind_eq_ok.mp h
  obtain ⟨ys', hys', h⟩ := run_bind_eq_ok.mp h
  obtain ⟨x, hx, hys'⟩ := run_bind_eq_ok.mp hys'
  obtain ⟨zs, hzs, hys'⟩ := run_bind_eq_ok.mp hys'
  cases hys'
  cases h
  exact ⟨xs, x, zs, rfl, hxs, hx, hzs⟩

/-- Where all other items can be read, one item decides what comes of a list. -/
theorem run_mapM_decided {f : α → Reading β} {before after : List α} {xs zs : List β}
    (hbefore : (before.mapM f).run = .ok (.ok xs)) (hafter : (after.mapM f).run = .ok (.ok zs))
    (a : α) :
    ((before ++ a :: after).mapM f).run = match (f a).run with
      | .ok (.ok x) => .ok (.ok (xs ++ x :: zs))
      | .ok (.error e) => .ok (.error e)
      | .error fault => .error fault := by
  rw [List.mapM_append, List.mapM_cons, run_bind, hbefore]
  dsimp only
  rw [run_bind, run_bind]
  rcases (f a).run with fault | e | x
  · rfl
  · rfl
  · dsimp only
    rw [run_bind, hafter]
    rfl

/-- A fault in reading item after item comes at some item, all items before it having been read. -/
theorem run_foldlM_eq_fault {σ : Type} {f : σ → α → Reading σ} {l : List α} {s : σ} {fault : Fault} :
    (l.foldlM f s).run = .error fault
      ↔ ∃ before a after s', l = before ++ a :: after
        ∧ (before.foldlM f s).run = .ok (.ok s') ∧ (f s' a).run = .error fault := by
  induction l generalizing s with
  | nil =>
      constructor
      · intro h; cases h
      · intro hgiven
        obtain ⟨before, a, after, _, h, _⟩ := hgiven
        simp at h
  | cons b l ih =>
      rw [List.foldlM_cons, run_bind_eq_fault]
      constructor
      · intro hgiven
        rcases hgiven with h | ⟨s₁, hb, h⟩
        · exact ⟨[], b, l, s, rfl, rfl, h⟩
        · obtain ⟨before, a, after, s', rfl, hbefore, ha⟩ := ih.mp h
          refine ⟨b :: before, a, after, s', rfl, ?_, ha⟩
          rw [List.foldlM_cons]
          exact run_bind_eq_ok.mpr ⟨s₁, hb, hbefore⟩
      · intro hgiven
        obtain ⟨before, a, after, s', heq, hbefore, ha⟩ := hgiven
        cases before with
        | nil =>
            cases heq
            cases hbefore
            exact .inl ha
        | cons b' before =>
            cases heq
            rw [List.foldlM_cons] at hbefore
            obtain ⟨s₁, hb, hbefore⟩ := run_bind_eq_ok.mp hbefore
            exact .inr ⟨s₁, hb, ih.mpr ⟨before, a, after, s', rfl, hbefore, ha⟩⟩

/-- The last item of a list is read where the items before it have led. -/
theorem run_foldlM_concat_eq_ok {σ : Type} {f : σ → α → Reading σ} {l : List α} {a : α} {s t : σ} :
    ((l ++ [a]).foldlM f s).run = .ok (.ok t)
      ↔ ∃ s', (l.foldlM f s).run = .ok (.ok s') ∧ (f s' a).run = .ok (.ok t) := by
  have hlast (s' : σ) : [a].foldlM f s' = f s' a := by
    rw [List.foldlM_cons]
    exact bind_pure _
  rw [List.foldlM_append, run_bind_eq_ok]
  simp only [hlast]

/-- What every step keeps, reading item after item keeps. -/
theorem run_foldlM_preserves {σ : Type} {f : σ → α → Reading σ} {P : σ → Prop}
    (hstep : ∀ s a s', P s → (f s a).run = .ok (.ok s') → P s') {l : List α} {s s' : σ} (h : P s)
    (hrun : (l.foldlM f s).run = .ok (.ok s')) : P s' := by
  induction l generalizing s with
  | nil =>
      cases hrun
      exact h
  | cons a l ih =>
      rw [List.foldlM_cons] at hrun
      obtain ⟨s₁, ha, hrun⟩ := run_bind_eq_ok.mp hrun
      exact ih (hstep s a s₁ h ha) hrun

end Reading

namespace WorkbookFile

/-- What is read of a package before its sheets are. -/
structure Common where
  strings : List String
  styles : List CellStyle
  part : WorkbookPart
  rels : Relationships

/-- What the cells of the sheets refer to. -/
def Common.shared (c : Common) : Worksheet.Shared := ⟨c.strings, c.styles, c.part.dates⟩

/-- Before its sheets, `c` is read of a package. -/
structure HasCommon (p : Package) (c : Common) : Prop where
  types : (p.find? contentTypesPath).isNone = false
  strings : SharedStrings.read p = .ok c.strings
  styles : (Styles.read p).run = .ok (.ok c.styles)
  part : WorkbookPart.read p = .ok c.part
  rels : Relationships.read? p (Package.relationshipsPath WorkbookPart.path) = .ok (some c.rels)

/-- The sheets as they are read when the rest has been. -/
def readSheets (p : Package) (c : Common) (entries : List (String × String)) :
    Reading (List (Option SheetPart)) :=
  entries.mapM fun s => readSheet p c.rels c.shared s.1 s.2

/-- The file that some sheets make. -/
def ofSheets (c : Common) (sheets : List (Option SheetPart)) : WorkbookFile where
  sheets := sheets.filterMap id
  printAreas := c.part.printAreas
  dates := c.part.dates

variable {p : Package} {c : Common} {f : WorkbookFile}

theorem run_read (h : HasCommon p c) :
    (read p).run = (readSheets p c c.part.sheets >>= fun sheets => pure (ofSheets c sheets)).run := by
  unfold read
  rw [h.types, if_neg Bool.false_ne_true]
  dsimp only
  rw [Reading.run_bind, Reading.run_liftExcept, h.strings]
  dsimp only
  rw [Reading.run_bind, h.styles]
  dsimp only
  rw [Reading.run_bind, Reading.run_liftExcept, h.part]
  dsimp only
  rw [Reading.run_bind, Reading.run_liftExcept, h.rels]
  rfl

/-- **A package is accepted when its common parts can be read and its sheets meet no fault.** -/
theorem run_read_eq_ok :
    (read p).run = .ok (.ok f) ↔ ∃ c sheets, HasCommon p c
      ∧ (readSheets p c c.part.sheets).run = .ok (.ok sheets) ∧ f = ofSheets c sheets := by
  constructor
  · intro h
    unfold read at h
    split at h
    · cases h
    · next htypes =>
      obtain ⟨strings, hstrings, h⟩ := Reading.run_bind_eq_ok.mp h
      obtain ⟨styles, hstyles, h⟩ := Reading.run_bind_eq_ok.mp h
      obtain ⟨part, hpart, h⟩ := Reading.run_bind_eq_ok.mp h
      obtain ⟨rels, hrels, h⟩ := Reading.run_bind_eq_ok.mp h
      rw [Reading.run_liftExcept] at hstrings hpart hrels
      cases rels with
      | none => cases h
      | some rels =>
          obtain ⟨sheets, hsheets, h⟩ := Reading.run_bind_eq_ok.mp h
          cases h
          exact ⟨⟨strings, styles, part, rels⟩, sheets, ⟨Bool.eq_false_iff.mpr htypes,
            Except.ok.inj hstrings, hstyles, Except.ok.inj hpart, Except.ok.inj hrels⟩, hsheets, rfl⟩
  · intro hgiven
    obtain ⟨c, sheets, hc, hsheets, rfl⟩ := hgiven
    rw [run_read hc, Reading.run_bind, hsheets]
    rfl

/-! ## One sheet -/

/-- The path of the part of a sheet, if its identifier refers to one that holds cells. -/
def sheetPath? (rels : Relationships) (id : String) : Option String :=
  (rels.get? id).bind fun r =>
    if "/worksheet".toList.isSuffixOf r.kind.toList then
      some (Package.resolve WorkbookPart.path r.target)
    else none

/-- A sheet that has a part is kept, whatever comes of reading the part, unless that is a fault. -/
theorem run_readSheet (p : Package) (rels : Relationships) (shared : Worksheet.Shared)
    (name id : String) :
    (readSheet p rels shared name id).run = match sheetPath? rels id with
      | none => .ok (.ok none)
      | some path => (Worksheet.read p shared path).run.map fun r =>
          .ok (some ⟨name, r.mapError fun e => ⟨path, e⟩⟩) := by
  unfold readSheet sheetPath?
  cases rels.get? id with
  | none => rfl
  | some r =>
      rw [Option.bind_some]
      dsimp only
      cases hkind : "/worksheet".toList.isSuffixOf r.kind.toList with
      | false => rfl
      | true =>
          rw [Bool.not_true, if_neg Bool.false_ne_true, if_pos rfl, Reading.run_bind]
          unfold Reading.attempt
          rw [ExceptT.run_lift]
          dsimp only
          rcases (Worksheet.read p shared (Package.resolve WorkbookPart.path r.target)).run
            with fault | e | g <;> rfl

/-- The names of the entries that have a part. -/
def keptNames (rels : Relationships) (entries : List (String × String)) : List String :=
  entries.filterMap fun s => (sheetPath? rels s.2).map fun _ => s.1

/-- The names of the sheets are those of the entries that have a part, in the same order. -/
theorem names_ofSheets {sheets : List (Option SheetPart)} {entries : List (String × String)}
    (h : (readSheets p c entries).run = .ok (.ok sheets)) :
    (sheets.filterMap id).map SheetPart.name = keptNames c.rels entries := by
  unfold keptNames
  have hall := Reading.run_mapM_eq_ok.mp h
  clear h
  induction hall with
  | nil => rfl
  | @cons s x entries sheets hs _ ih =>
      rw [run_readSheet] at hs
      cases hpath : sheetPath? c.rels s.2 with
      | none =>
          rw [hpath] at hs
          cases hs
          rw [List.filterMap_cons, List.filterMap_cons, hpath]
          exact ih
      | some path =>
          rw [hpath] at hs
          dsimp only at hs
          rcases hr : (Worksheet.read p c.shared path).run with fault | r
          · rw [hr] at hs
            cases hs
          · rw [hr] at hs
            cases hs
            rw [List.filterMap_cons, List.filterMap_cons, hpath]
            exact congrArg (s.1 :: ·) ih

end WorkbookFile

end Sheetwise
