import Sheetwise.Proofs.Reading

/-!
# What reading a sheet looks at, and how it can break off

Reading the part of a sheet may lead on to other parts: to the relationships of the sheet, if it has
links or tables, and from there to the parts of its tables. Nothing else is looked at, so packages that
agree there give the same sheet.

Whatever is wrong with a sheet is an error, with one exception. The end of a cell that is shown as a
date, but holds more days than a duration can, is a fault.
-/

namespace Sheetwise.Worksheet

/-! ## Which parts are looked at -/

/-- The parts that are looked at when the sheet at `path` is read. -/
inductive LooksAt (p : Package) (shared : Shared) (path : String) : String → Prop where
  | own : LooksAt p shared path path
  | relationships {es : Markup.Events} {s : State} : p.events? .kept path = some es →
      (ofEvents shared es).run = .ok (.ok s) → (s.links.isEmpty && s.tableIds.isEmpty) = false →
      LooksAt p shared path (Package.relationshipsPath path)
  | table {es : Markup.Events} {s : State} {rels : Relationships} {id : String} {r : Relationship} :
      p.events? .kept path = some es → (ofEvents shared es).run = .ok (.ok s) → id ∈ s.tableIds →
      Relationships.read? p (Package.relationshipsPath path) = .ok (some rels) →
      rels.get? id = some r → r.isExternal = false →
      LooksAt p shared path (Package.resolve path r.target)

/-- A sheet without links and tables leads to no other part. -/
theorem eq_of_looksAt {p : Package} {shared : Shared} {path q : String} {es : Markup.Events}
    {s : State} (hes : p.events? .kept path = some es) (hs : (ofEvents shared es).run = .ok (.ok s))
    (hlinks : s.links = []) (htables : s.tableIds = []) (h : LooksAt p shared path q) :
    q = path := by
  have hstate {es' : Markup.Events} {s' : State} (hes' : p.events? .kept path = some es')
      (hs' : (ofEvents shared es').run = .ok (.ok s')) : s' = s := by
    rw [hes] at hes'
    cases hes'
    rw [hs] at hs'
    cases hs'
    rfl
  cases h with
  | own => rfl
  | relationships hes' hs' hempty =>
      rw [hstate hes' hs', hlinks, htables] at hempty
      cases hempty
  | table hes' hs' hid =>
      rw [hstate hes' hs', htables] at hid
      cases hid

/-- What is read of such a sheet is in its own part. -/
theorem run_read_of_bare {p : Package} {shared : Shared} {path : String} {es : Markup.Events}
    {s : State} (hes : p.events? .kept path = some es) (hs : (ofEvents shared es).run = .ok (.ok s))
    (hlinks : s.links = []) (htables : s.tableIds = []) :
    (read p shared path).run = .ok (.ok s.grid) := by
  unfold read
  rw [hes]
  dsimp only
  rw [Reading.run_bind, hs]
  dsimp only
  rw [hlinks, htables]
  rfl

theorem addTable_congr {p p' : Package} {path : String} {rels : Relationships} {id : String}
    (h : ∀ r, rels.get? id = some r → r.isExternal = false →
      p'.find? (Package.resolve path r.target) = p.find? (Package.resolve path r.target))
    (g : Grid) : addTable p' path rels g id = addTable p path rels g id := by
  unfold addTable
  cases hr : rels.get? id with
  | none => rfl
  | some r =>
      dsimp only
      cases hexternal : r.isExternal with
      | true => rfl
      | false =>
          have hevents : p'.events? .trimmed (Package.resolve path r.target)
              = p.events? .trimmed (Package.resolve path r.target) := by
            unfold Package.events?
            rw [h r hr hexternal]
          rw [hevents]

theorem foldlM_addTable_congr {p p' : Package} {path : String} {rels : Relationships}
    {ids : List String}
    (h : ∀ id ∈ ids, ∀ r, rels.get? id = some r → r.isExternal = false →
      p'.find? (Package.resolve path r.target) = p.find? (Package.resolve path r.target))
    (g : Grid) : ids.foldlM (addTable p' path rels) g = ids.foldlM (addTable p path rels) g := by
  induction ids generalizing g with
  | nil => rfl
  | cons id ids ih =>
      rw [List.foldlM_cons, List.foldlM_cons, addTable_congr (h id List.mem_cons_self)]
      congr 1
      funext g'
      exact ih (fun id' hid' => h id' (List.mem_cons_of_mem id hid')) g'

/-- **Packages that agree on the parts looked at give the same sheet.** -/
theorem read_congr {p p' : Package} {shared : Shared} {path : String}
    (h : ∀ q, LooksAt p shared path q → p'.find? q = p.find? q) :
    (read p' shared path).run = (read p shared path).run := by
  have hown : p'.events? .kept path = p.events? .kept path := by
    unfold Package.events?
    rw [h path .own]
  unfold read
  rw [hown]
  cases hes : p.events? .kept path with
  | none => rfl
  | some es =>
      dsimp only
      rw [Reading.run_bind, Reading.run_bind]
      rcases hs : (ofEvents shared es).run with fault | e | s
      · rfl
      · rfl
      · dsimp only
        cases hempty : s.links.isEmpty && s.tableIds.isEmpty with
        | true => rfl
        | false =>
            have hrels : Relationships.read? p' (Package.relationshipsPath path)
                = Relationships.read? p (Package.relationshipsPath path) := by
              unfold Relationships.read? Package.events?
              rw [h _ (.relationships hes hs hempty)]
            rw [if_neg Bool.false_ne_true, if_neg Bool.false_ne_true, hrels]
            rw [Reading.run_bind, Reading.run_bind, Reading.run_liftExcept]
            rcases hread : Relationships.read? p (Package.relationshipsPath path) with e | _ | rels
            · rfl
            · refine congrArg ExceptT.run (foldlM_addTable_congr ?_ _)
              intro id _ r hr
              cases hr
            · refine congrArg ExceptT.run (foldlM_addTable_congr ?_ _)
              intro id hid r hr hexternal
              exact h _ (.table hes hs hid hread hr hexternal)

/-! ## How reading breaks off -/

/-- A cell that is shown as a date and holds a number of more days than a duration can. -/
structure BeyondDuration (shared : Shared) (cell : OpenCell) : Prop where
  placed : ∃ a, Address.parse cell.reference = .ok a
  isNumber : cell.kind = none ∨ cell.kind = some "n"
  isDate : ((cell.style.bind fun i => shared.styles[i]?).getD {}).isDate = true
  value : ∃ text x d, cell.value = some text ∧ Text.float? (Text.trim text) = some x
    ∧ SerialDate.ofFloat? x = some d ∧ SerialDate.maxDays < d.days

/-- The events reach the end of such a cell before anything else is wrong with them. -/
def MeetsFault (shared : Shared) (es : List Markup.Event) : Prop :=
  ∃ before after s cell, es = before ++ .closing "c" :: after
    ∧ (before.foldlM (step shared) {}).run = .ok (.ok s) ∧ s.cell = some cell
    ∧ BeyondDuration shared cell

theorem textOf?_eq_fault {system : DateSystem} {x : Float} {fault : Fault} :
    SerialDate.textOf? system x = .error fault
      ↔ fault = .duration ∧ ∃ d, SerialDate.ofFloat? x = some d ∧ SerialDate.maxDays < d.days := by
  unfold SerialDate.textOf?
  cases SerialDate.ofFloat? x with
  | none => simp
  | some d =>
      unfold SerialDate.text?
      by_cases h : SerialDate.maxDays < d.days
      · simp [h, eq_comm]
      · simp [h]

theorem numberValue_eq_fault {dates : DateSystem} {isDate : Bool} {text : String} {fault : Fault} :
    numberValue dates isDate text = .error fault
      ↔ fault = .duration ∧ isDate = true ∧ ∃ x d, Text.float? (Text.trim text) = some x
        ∧ SerialDate.ofFloat? x = some d ∧ SerialDate.maxDays < d.days := by
  unfold numberValue
  cases Text.float? (Text.trim text) with
  | none => simp
  | some x =>
      cases isDate with
      | false => simp
      | true =>
          have h : SerialDate.textOf? dates x = .error fault ↔ _ := textOf?_eq_fault
          dsimp only
          rw [if_pos rfl]
          rcases hx : SerialDate.textOf? dates x with e | _ | date
          · rw [hx, Except.error.injEq] at h
            show Except.error e = _ ↔ _
            rw [Except.error.injEq]
            simpa using h
          · rw [hx] at h
            show Except.ok _ = _ ↔ _
            simpa using h
          · rw [hx] at h
            show Except.ok _ = _ ↔ _
            simpa using h

theorem run_value_eq_fault {shared : Shared} {isDate : Bool} {cell : OpenCell} {fault : Fault} :
    (value shared isDate cell).run = .error fault
      ↔ fault = .duration ∧ isDate = true ∧ (cell.kind = none ∨ cell.kind = some "n")
        ∧ ∃ text x d, cell.value = some text ∧ Text.float? (Text.trim text) = some x
          ∧ SerialDate.ofFloat? x = some d ∧ SerialDate.maxDays < d.days := by
  unfold value
  split
  · next hkind => exact iff_of_false (Reading.run_pure_ne_fault _ _) (by simp [hkind])
  · next hvalue _ => exact iff_of_false (Reading.run_pure_ne_fault _ _) (by simp [hvalue])
  · next v hkind hvalue =>
    refine iff_of_false ?_ (by simp [hkind])
    rcases sharedString shared.strings v with e | t
    · intro h; cases h
    · intro h; cases h
  · next hkind _ => exact iff_of_false (Reading.run_pure_ne_fault _ _) (by simp [hkind])
  · next hkind _ => exact iff_of_false (Reading.run_pure_ne_fault _ _) (by simp [hkind])
  · next v hkind hvalue =>
    rw [Reading.run_lift_map_eq_fault, numberValue_eq_fault]
    simp [hkind, hvalue]
  · next v hkind hvalue =>
    rw [Reading.run_lift_map_eq_fault, numberValue_eq_fault]
    simp [hkind, hvalue]
  · next kind v _ _ _ hn hkind hvalue =>
    refine iff_of_false (Reading.run_pure_ne_fault _ _) ?_
    intro hgiven
    rcases hgiven with ⟨_, _, hk | hk, _⟩
    · rw [hkind] at hk; cases hk
    · rw [hkind] at hk; exact hn (Option.some.inj hk)

/-- **Putting a cell into the grid breaks off only if the cell is beyond durations.** -/
theorem run_put_eq_fault {shared : Shared} {g : Grid} {cell : OpenCell} {fault : Fault} :
    (put shared g cell).run = .error fault ↔ fault = .duration ∧ BeyondDuration shared cell := by
  unfold put
  rcases ha : Address.parse cell.reference with e | a
  · refine iff_of_false (fun h => by cases h) ?_
    intro hgiven
    obtain ⟨_, hcell⟩ := hgiven
    obtain ⟨a, hplaced⟩ := hcell.placed
    rw [ha] at hplaced
    cases hplaced
  · dsimp only
    rw [pure_bind, Reading.run_bind_eq_fault, run_value_eq_fault]
    constructor
    · intro hgiven
      rcases hgiven with ⟨rfl, hdate, hkind, hvalue⟩ | ⟨v, _, h⟩
      · exact ⟨rfl, ⟨a, ha⟩, hkind, hdate, hvalue⟩
      · cases v <;> cases h
    · intro hgiven
      obtain ⟨rfl, hcell⟩ := hgiven
      exact .inl ⟨rfl, hcell.isDate, hcell.isNumber, hcell.value⟩

/-- A cell that is only begun has no value. -/
theorem not_beyondDuration_openCell {shared : Shared} {e : Markup.Element} {cell : OpenCell}
    (h : openCell? e = some cell) : ¬ BeyondDuration shared cell := by
  intro hgiven
  obtain ⟨_, _, _, text, _, _, hvalue, _⟩ := hgiven
  unfold openCell? at h
  obtain ⟨_, _, rfl⟩ := Option.map_eq_some_iff.mp h
  cases hvalue

theorem run_start_ne_fault (shared : Shared) (s : State) (e : Markup.Element) (staysOpen : Bool)
    (fault : Fault) : (start shared s e staysOpen).run ≠ .error fault := by
  unfold start
  dsimp only
  split
  -- only a cell is put into the grid here, and only if it is its own end
  case h_4 =>
    split
    · exact Reading.run_pure_ne_fault _ _
    · split
      · next cell hcell =>
        rw [ne_eq, Reading.run_bind_eq_fault, run_put_eq_fault]
        intro hgiven
        rcases hgiven with ⟨_, hbeyond⟩ | ⟨_, _, h⟩
        · exact not_beyondDuration_openCell hcell hbeyond
        · exact Reading.run_pure_ne_fault _ _ h
      · exact Reading.run_pure_ne_fault _ _
  all_goals first
    | exact Reading.run_pure_ne_fault _ _
    | split <;> exact Reading.run_pure_ne_fault _ _

theorem run_finish_eq_fault {shared : Shared} {s : State} {name : String} {fault : Fault} :
    (finish shared s name).run = .error fault
      ↔ fault = .duration ∧ name = "c" ∧ ∃ cell, s.cell = some cell ∧ BeyondDuration shared cell := by
  unfold finish
  split
  · cases s.cell with
    | none => exact iff_of_false (fun h => by cases h) (by simp)
    | some cell =>
        dsimp only
        rw [Reading.run_bind_eq_fault, run_put_eq_fault]
        constructor
        · intro hgiven
          rcases hgiven with ⟨rfl, hbeyond⟩ | ⟨_, _, h⟩
          · exact ⟨rfl, rfl, cell, rfl, hbeyond⟩
          · exact absurd h (Reading.run_pure_ne_fault _ _)
        · intro hgiven
          obtain ⟨rfl, _, _, hcell, hbeyond⟩ := hgiven
          cases hcell
          exact .inl ⟨rfl, hbeyond⟩
  · exact iff_of_false (Reading.run_pure_ne_fault _ _) (by simp)
  · exact iff_of_false (Reading.run_pure_ne_fault _ _) (by simp)
  · exact iff_of_false (Reading.run_pure_ne_fault _ _) (by simp)
  · next hc _ _ _ =>
    refine iff_of_false (Reading.run_pure_ne_fault _ _) ?_
    intro hgiven
    obtain ⟨_, rfl, _⟩ := hgiven
    exact hc rfl

/-- **Reading an event breaks off only at the end of a cell beyond durations.** -/
theorem run_step_eq_fault {shared : Shared} {s : State} {ev : Markup.Event} {fault : Fault} :
    (step shared s ev).run = .error fault
      ↔ fault = .duration ∧ ev = .closing "c"
        ∧ ∃ cell, s.cell = some cell ∧ BeyondDuration shared cell := by
  unfold step
  cases ev with
  | opening e => exact iff_of_false (run_start_ne_fault _ _ _ _ _) (by simp)
  | selfClosing e => exact iff_of_false (run_start_ne_fault _ _ _ _ _) (by simp)
  | closing name =>
      rw [Markup.Event.closing.injEq]
      exact run_finish_eq_fault
  | text t => exact iff_of_false (Reading.run_pure_ne_fault _ _) (by simp)

theorem run_ofEvents_eq_fault {shared : Shared} {es : Markup.Events} {fault : Fault} :
    (ofEvents shared es).run = .error fault ↔ fault = .duration ∧ MeetsFault shared es.events := by
  unfold ofEvents
  rw [Reading.run_bind_eq_fault, Reading.run_foldlM_eq_fault]
  constructor
  · intro hgiven
    rcases hgiven with ⟨before, ev, after, s, heq, hbefore, hev⟩ | ⟨s, _, h⟩
    · obtain ⟨rfl, rfl, cell, hcell, hbeyond⟩ := run_step_eq_fault.mp hev
      exact ⟨rfl, before, after, s, cell, heq, hbefore, hcell, hbeyond⟩
    · cases hchecked : es.checked <;> rw [hchecked] at h <;> cases h
  · intro hgiven
    obtain ⟨rfl, before, after, s, cell, heq, hbefore, hcell, hbeyond⟩ := hgiven
    exact .inl ⟨before, _, after, s, heq, hbefore,
      run_step_eq_fault.mpr ⟨rfl, rfl, cell, hcell, hbeyond⟩⟩

theorem run_addTable_ne_fault (p : Package) (path : String) (rels : Relationships) (g : Grid)
    (id : String) (fault : Fault) : (addTable p path rels g id).run ≠ .error fault := by
  unfold addTable
  split
  · exact Reading.run_pure_ne_fault _ _
  · split
    · exact Reading.run_pure_ne_fault _ _
    · dsimp only
      split
      · exact Reading.run_pure_ne_fault _ _
      · next es _ =>
        rw [ne_eq, Reading.run_bind_eq_fault, Reading.run_liftExcept]
        intro hgiven
        rcases hgiven with h | ⟨reference, _, h⟩
        · cases h
        · cases reference <;> exact Reading.run_pure_ne_fault _ _ h

/-- **The only fault in reading a sheet** is a cell beyond durations that is reached before an error. -/
theorem run_read_eq_fault {p : Package} {shared : Shared} {path : String} {fault : Fault} :
    (read p shared path).run = .error fault
      ↔ fault = .duration ∧ ∃ es, p.events? .kept path = some es ∧ MeetsFault shared es.events := by
  unfold read
  cases p.events? .kept path with
  | none => exact iff_of_false (fun h => by cases h) (by simp)
  | some es =>
      dsimp only
      rw [Reading.run_bind_eq_fault, run_ofEvents_eq_fault]
      constructor
      · intro hgiven
        rcases hgiven with ⟨rfl, h⟩ | ⟨s, _, h⟩
        · exact ⟨rfl, es, rfl, h⟩
        · split at h
          · exact absurd h (Reading.run_pure_ne_fault _ _)
          · -- the links and the tables come after the events, and can only be wrong
            rw [Reading.run_bind_eq_fault, Reading.run_liftExcept] at h
            rcases h with h | ⟨rels, _, h⟩
            · cases h
            · obtain ⟨_, id, _, g, _, _, hid⟩ := Reading.run_foldlM_eq_fault.mp h
              exact absurd hid (run_addTable_ne_fault _ _ _ _ _ _)
      · intro hgiven
        obtain ⟨rfl, _, hes, h⟩ := hgiven
        cases hes
        exact .inl ⟨rfl, h⟩

end Sheetwise.Worksheet
