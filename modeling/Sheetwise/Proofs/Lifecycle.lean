import Sheetwise.Proofs.Calls

/-!
# The life of a session

A session is opened, something is asked of it for a while, and it is closed or dropped. The bridge may
fail any of the requests on the way and in any manner. Still the requests it gets are always the same:
those that open the workbook, one for each thing asked, and in the end one that closes the workbook
and one that stops the bridge. Only an opening that fails cuts this short, and if the bridge has been
started by then, it is told to stop.
-/

namespace Sheetwise.Bridge

/-- What can be asked of a session. -/
inductive Inquiry where
  | sheetNames
  | shapes (sheet : String)
  | charts (sheet : String)
  | printArea (sheet : String)
  | pageBreaks (sheet : String)
  | grid (sheet : String)

/-- The command that an inquiry about a workbook is made by. -/
def Inquiry.command (workbook : Nat) : Inquiry → Command
  | .sheetNames => .listSheets workbook
  | .shapes sheet => .getShapes workbook (.name sheet)
  | .charts sheet => .getCharts workbook (.name sheet)
  | .printArea sheet => .getPrintAreas workbook (.name sheet)
  | .pageBreaks sheet => .getPageBreaks workbook (.name sheet)
  | .grid sheet => .getGrid workbook (.name sheet)

/-- How a session ends. -/
inductive Ending where
  | closed
  | dropped

namespace Session

/-- Asks something of a session. -/
def inquire (s : Session) : (q : Inquiry) → Call (q.command s.handle).Answer
  | .sheetNames => s.sheetNames
  | .shapes sheet => s.shapes sheet
  | .charts sheet => s.charts sheet
  | .printArea sheet => s.printArea sheet
  | .pageBreaks sheet => s.pageBreaks sheet
  | .grid sheet => s.grid sheet

/-- Ends a session. -/
def finish (s : Session) : Ending → Call Unit
  | .closed => s.close
  | .dropped => s.drop

/-- Asks one thing after the other, whatever comes of it. -/
def inquireAll (s : Session) : List Inquiry → Call Unit
  | [] => return ()
  | q :: qs => do
    discard (attempt (s.inquire q))
    s.inquireAll qs

/-- A whole session, from opening a workbook to its end. -/
def life (host : Host) (config : Config) (path : String) (qs : List Inquiry) (ending : Ending) :
    Call Unit := do
  let s ← openWorkbook host config path
  s.inquireAll qs
  s.finish ending

/-! ## Asking -/

variable {s : Session}

theorem inquire_eq_call (h : s.isReleased = false) (q : Inquiry) :
    s.inquire q = (q.command s.handle).call := by
  cases q <;>
    simp [inquire, sheetNames, shapes, charts, printArea, pageBreaks, grid, workbook, h,
      Inquiry.command, Command.call]

/-- Each thing asked is one request, and asking never breaks off. -/
theorem sends_inquireAll (h : s.isReleased = false) (qs : List Inquiry) (c : Channel) :
    Sends (s.inquireAll qs) c (qs.map (Inquiry.command s.handle))
      ∧ (s.inquireAll qs).result c = .ok () := by
  induction qs generalizing c with
  | nil => exact ⟨.of_after_eq rfl, rfl⟩
  | cons q qs ih =>
      have hq : Call.result (Functor.discard (attempt (s.inquire q))) c = .ok () := rfl
      have hsends : Sends (Functor.discard (attempt (s.inquire q))) c [q.command s.handle] := by
        rw [inquire_eq_call h]
        exact (sends_call _ c).attempted.discard
      obtain ⟨hrest, hok⟩ := ih (Call.after (Functor.discard (attempt (s.inquire q))) c)
      exact ⟨.bind_of_ok hq hsends hrest, (Call.result_bind_of_ok hq).trans hok⟩

/-! ## Ending -/

/-- Both requests are sent, whatever comes of the first. -/
theorem sends_release (h : s.isReleased = false) (c : Channel) :
    Sends s.release c [.closeWorkbook s.handle, .shutdown] := by
  rw [release, h, if_neg (by decide)]
  refine (sends_call (.closeWorkbook s.handle) c).attempt_bind
    ((sends_call .shutdown _).attempted.bind_of_after_eq fun _ _ => ?_)
  exact after_liftExcept_liftExcept ..

/-- There is nothing left to send for a session that has been released. -/
theorem after_drop_released (s : Session) (c : Channel) : s.released.drop.after c = c := rfl

theorem sends_finish (h : s.isReleased = false) (ending : Ending) (c : Channel) :
    Sends (s.finish ending) c [.closeWorkbook s.handle, .shutdown] := by
  cases ending with
  | dropped => exact (sends_release h c).attempted.discard
  | closed =>
      -- the drop that follows a close finds nothing to do
      refine (sends_release h c).attempted.bind_of_after_eq fun result c => ?_
      have hdrop : s.released.drop.result c = .ok () := rfl
      rw [Call.after_bind_of_ok hdrop, after_drop_released]
      cases result <;> rfl

/-! ## Opening -/

section

variable {host : Host} {config : Config} {path : String} {c : Channel}

theorem after_start_of_error {e : CallError} (h : launch host config = .error e) :
    (start host config).after c = c ∧ (start host config).result c = .error e := by
  rw [start, h]
  exact ⟨rfl, rfl⟩

theorem sends_start (h : launch host config = .ok ()) : Sends (start host config) c [.init] := by
  rw [start, h]
  exact sends_call .init c

/-- A bridge that has been started is stopped if it cannot open the workbook. -/
theorem sends_openWorkbook_of_error {e : CallError} (hlaunch : launch host config = .ok ())
    (hstart : (start host config).result c = .ok ())
    (hopen : (Bridge.openWorkbook path).result ((start host config).after c) = .error e) :
    Sends (openWorkbook host config path) c [.init, .openWorkbook path, .shutdown]
      ∧ (openWorkbook host config path).result c = .error e := by
  constructor
  · refine (sends_start hlaunch).bind_of_ok hstart
      ((sends_call (.openWorkbook path) _).attempt_bind ?_)
    rw [show (Command.openWorkbook path).call.result _ = .error e from hopen]
    exact (sends_call .shutdown _).attempted.discard.bind_of_after_eq fun _ _ => rfl
  · refine (Call.result_bind_of_ok hstart).trans
      ((Call.result_bind_of_ok (result_attempt _ _)).trans ?_)
    rw [hopen]
    rfl

theorem sends_openWorkbook_of_ok {handle : Nat} (hlaunch : launch host config = .ok ())
    (hstart : (start host config).result c = .ok ())
    (hopen : (Bridge.openWorkbook path).result ((start host config).after c) = .ok handle) :
    Sends (openWorkbook host config path) c [.init, .openWorkbook path]
      ∧ (openWorkbook host config path).result c = .ok { handle } := by
  constructor
  · refine (sends_start hlaunch).bind_of_ok hstart
      ((sends_call (.openWorkbook path) _).attempt_bind (.of_after_eq ?_))
    rw [show (Command.openWorkbook path).call.result _ = .ok handle from hopen]
    rfl
  · refine (Call.result_bind_of_ok hstart).trans
      ((Call.result_bind_of_ok (result_attempt _ _)).trans ?_)
    rw [hopen]
    rfl

end

/-! ## The whole session -/

/-- The requests of a session, by how its opening went, when the bridge writes `output`. -/
structure Lifecycle (host : Host) (config : Config) (path : String) (qs : List Inquiry)
    (ending : Ending) (output : List UInt8) (sent : List Request) : Prop where
  /-- Nothing is sent to a bridge that cannot be started. -/
  unlaunched : ∀ e, launch host config = .error e → sent = []
  /-- A bridge that does not start the application is asked nothing more. -/
  unstarted : ∀ e, launch host config = .ok () →
    (start host config).result { unread := output } = .error e → sent = numbered 1 [.init]
  /-- A bridge that does not open the workbook is stopped. -/
  unopened : ∀ e, (start host config).result { unread := output } = .ok () →
    (Bridge.openWorkbook path).result ((start host config).after { unread := output }) = .error e →
    sent = numbered 1 [.init, .openWorkbook path, .shutdown]
  /-- Once open, the workbook is asked about, closed, and the bridge stopped. -/
  opened : ∀ handle, (start host config).result { unread := output } = .ok () →
    (Bridge.openWorkbook path).result ((start host config).after { unread := output })
      = .ok handle →
    sent = numbered 1 ([.init, .openWorkbook path] ++ qs.map (Inquiry.command handle)
      ++ [.closeWorkbook handle, .shutdown])

theorem Sends.sent_eq {α : Type} {call : Call α} {output : List UInt8} {cs : List Command}
    (h : Sends call { unread := output } cs) :
    (call.after { unread := output }).sent = numbered 1 cs :=
  h.sent

theorem launch_of_start {host : Host} {config : Config} {c : Channel}
    (h : (start host config).result c = .ok ()) : launch host config = .ok () := by
  cases hl : launch host config with
  | ok u => rfl
  | error e => rw [(after_start_of_error hl).2] at h; cases h

/--
**What a session sends.** Whatever the bridge writes, and whatever of it the session can use, the
requests are those of its life.
-/
theorem sent_life (host : Host) (config : Config) (path : String) (qs : List Inquiry)
    (ending : Ending) (output : List UInt8) :
    Lifecycle host config path qs ending output
      ((life host config path qs ending).after { unread := output }).sent where
  unlaunched e h := by
    obtain ⟨hafter, hresult⟩ := after_start_of_error (c := { unread := output }) h
    have hopen : (openWorkbook host config path).result { unread := output } = .error e :=
      Call.result_bind_of_error hresult
    exact Sends.sent_eq (.bind_of_error hopen (.bind_of_error hresult (.of_after_eq hafter)))
  unstarted e hlaunch h := by
    have hopen : (openWorkbook host config path).result { unread := output } = .error e :=
      Call.result_bind_of_error h
    exact Sends.sent_eq (.bind_of_error hopen (.bind_of_error h (sends_start hlaunch)))
  unopened e hstart h := by
    obtain ⟨hsends, hresult⟩ := sends_openWorkbook_of_error (launch_of_start hstart) hstart h
    exact Sends.sent_eq (.bind_of_error hresult hsends)
  opened handle hstart h := by
    obtain ⟨hsends, hresult⟩ := sends_openWorkbook_of_ok (launch_of_start hstart) hstart h
    obtain ⟨hasks, hok⟩ := sends_inquireAll (s := ⟨handle, false⟩) rfl qs
      ((openWorkbook host config path).after { unread := output })
    rw [List.append_assoc]
    exact Sends.sent_eq (.bind_of_ok hresult hsends
      (.bind_of_ok hok hasks (sends_finish rfl ending _)))

/-- A host on which any bridge is there and runs. -/
def willing : Host where
  hasFile _ := true
  program _ := .runs

/-- What a bridge writes that answers one request after the other with these outcomes. -/
def written (outcomes : List String) : List UInt8 :=
  (outcomes.zipIdx 1).flatMap fun (outcome, id) =>
    ("\x7b\"id\":" ++ Text.ofNat id ++ "," ++ outcome ++ "\x7d\n").toUTF8.toList

/-- Three bridges: one that is gone at once, one without the workbook, and one with the workbook. -/
theorem sent_life_of_three_bridges :
    ((life willing {} "Z:\\b.xlsx" [.grid "S"] .closed).after { unread := [] }).sent
        = numbered 1 [.init]
      ∧ ((life willing {} "Z:\\b.xlsx" [.grid "S"] .closed).after
          { unread := written ["\"status\":\"ok\"",
            "\"status\":\"error\",\"message\":\"no\""] }).sent
        = numbered 1 [.init, .openWorkbook "Z:\\b.xlsx", .shutdown]
      ∧ ((life willing {} "Z:\\b.xlsx" [.grid "S"] .closed).after
          { unread := written ["\"status\":\"ok\"",
            "\"status\":\"ok\",\"data\":\x7b\"workbook\":5\x7d"] }).sent
        = numbered 1 [.init, .openWorkbook "Z:\\b.xlsx", .getGrid 5 (.name "S"), .closeWorkbook 5,
            .shutdown] :=
  ⟨(sent_life ..).unstarted .notRunning rfl (by decide +kernel),
    (sent_life ..).unopened (.refused "no") (by decide +kernel) (by decide +kernel),
    (sent_life ..).opened 5 (by decide +kernel) (by decide +kernel)⟩

end Session

end Sheetwise.Bridge
