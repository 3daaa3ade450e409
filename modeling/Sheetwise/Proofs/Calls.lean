import Mathlib.Data.List.Basic
import Sheetwise.Bridge.Session

/-!
# What a call does to its channel

A call sends requests and reads lines, and nothing else happens to a channel. So all that there is to
know of it are the commands it sends, and what it makes of the lines it reads. `Sends` tells the first,
along the way a call is put together. The second is told of `send`, which alone reads, and then of the
call of every command: it gives what the data of its response are, if these are of the right kind, and
an error in any other case.
-/

namespace Sheetwise.Bridge

variable {α β : Type}

namespace Call

/-- What a call gives. -/
def result (call : Call α) (c : Channel) : Except CallError α := (call.run.run c).1

/-- The channel after a call. -/
def after (call : Call α) (c : Channel) : Channel := (call.run.run c).2

theorem run_bind_of_ok {call : Call α} {k : α → Call β} {c : Channel} {a : α}
    (h : call.result c = .ok a) : (call >>= k).run.run c = (k a).run.run (call.after c) := by
  rw [ExceptT.run_bind, StateT.run_bind]
  show ExceptT.bindCont k (call.result c) (call.after c) = _
  rw [h]
  rfl

theorem run_bind_of_error {call : Call α} {k : α → Call β} {c : Channel} {e : CallError}
    (h : call.result c = .error e) : (call >>= k).run.run c = (.error e, call.after c) := by
  rw [ExceptT.run_bind, StateT.run_bind]
  show ExceptT.bindCont k (call.result c) (call.after c) = _
  rw [h]
  rfl

theorem after_bind_of_ok {call : Call α} {k : α → Call β} {c : Channel} {a : α}
    (h : call.result c = .ok a) : (call >>= k).after c = (k a).after (call.after c) :=
  congrArg Prod.snd (run_bind_of_ok h)

theorem after_bind_of_error {call : Call α} {k : α → Call β} {c : Channel} {e : CallError}
    (h : call.result c = .error e) : (call >>= k).after c = call.after c :=
  congrArg Prod.snd (run_bind_of_error h)

theorem result_bind_of_ok {call : Call α} {k : α → Call β} {c : Channel} {a : α}
    (h : call.result c = .ok a) : (call >>= k).result c = (k a).result (call.after c) :=
  congrArg Prod.fst (run_bind_of_ok h)

theorem result_bind_of_error {call : Call α} {k : α → Call β} {c : Channel} {e : CallError}
    (h : call.result c = .error e) : (call >>= k).result c = .error e :=
  congrArg Prod.fst (run_bind_of_error h)

end Call

/-! ## Which commands are sent -/

/-- Commands as requests, numbered from a number on. -/
def numbered (first : Nat) (commands : List Command) : List Request :=
  (commands.zipIdx first).map fun e => ⟨e.2, e.1⟩

theorem numbered_append (first : Nat) (before after : List Command) :
    numbered first (before ++ after)
      = numbered first before ++ numbered (first + before.length) after := by
  rw [numbered, List.zipIdx_append, List.map_append, numbered, numbered]

/-- What a call sends through a channel are these commands, under the next numbers. -/
structure Sends (call : Call α) (c : Channel) (commands : List Command) : Prop where
  sent : (call.after c).sent = c.sent ++ numbered c.nextId commands
  nextId : (call.after c).nextId = c.nextId + commands.length

namespace Sends

variable {call : Call α} {k : α → Call β} {c : Channel} {cs cs' : List Command}

theorem of_after_eq (h : call.after c = c) : Sends call c [] where
  sent := by rw [h, numbered, List.zipIdx_nil, List.map_nil, List.append_nil]
  nextId := by rw [h, List.length_nil, Nat.add_zero]

theorem bind_of_ok {a : α} (h : call.result c = .ok a) (hc : Sends call c cs)
    (hk : Sends (k a) (call.after c) cs') : Sends (call >>= k) c (cs ++ cs') where
  sent := by
    rw [Call.after_bind_of_ok h, hk.sent, hc.sent, hc.nextId, numbered_append, List.append_assoc]
  nextId := by
    rw [Call.after_bind_of_ok h, hk.nextId, hc.nextId, List.length_append, Nat.add_assoc]

theorem bind_of_error {e : CallError} (h : call.result c = .error e) (hc : Sends call c cs) :
    Sends (call >>= k) c cs where
  sent := by rw [Call.after_bind_of_error h, hc.sent]
  nextId := by rw [Call.after_bind_of_error h, hc.nextId]

/-- A call sends the same whatever is made of its result, if nothing more is sent then. -/
theorem bind_of_after_eq (hc : Sends call c cs) (hk : ∀ a c, (k a).after c = c) :
    Sends (call >>= k) c cs := by
  cases h : call.result c with
  | error e => exact bind_of_error h hc
  | ok a =>
      rw [← List.append_nil cs]
      exact bind_of_ok h hc (of_after_eq (hk a _))

theorem discard (hc : Sends call c cs) : Sends (discard call) c cs := by
  show Sends ((fun _ => ()) <$> call) c cs
  rw [map_eq_pure_bind]
  exact bind_of_after_eq hc fun _ _ => rfl

end Sends

theorem result_attempt (call : Call α) (c : Channel) :
    (attempt call).result c = .ok (call.result c) := rfl

/-- Telling how two calls ended does nothing to the channel. -/
theorem after_liftExcept_liftExcept (x : Except CallError α) (y : Except CallError β) (c : Channel) :
    Call.after (do let _ ← liftExcept x; liftExcept y) c = c := by
  cases x <;> cases y <;> rfl

/-- An attempt sends what the call does. -/
theorem Sends.attempted {call : Call α} {c : Channel} {cs : List Command} (hc : Sends call c cs) :
    Sends (attempt call) c cs :=
  ⟨hc.sent, hc.nextId⟩

/-- An attempt is followed by the rest, however it ended. -/
theorem Sends.attempt_bind {call : Call α} {k : Except CallError α → Call β} {c : Channel}
    {cs cs' : List Command} (hc : Sends call c cs)
    (hk : Sends (k (call.result c)) (call.after c) cs') : Sends (attempt call >>= k) c (cs ++ cs') :=
  .bind_of_ok (result_attempt call c) hc.attempted hk

/-! ## Sending one command -/

namespace Channel

/-- The next line to read, unless the output has ended. -/
def line? (c : Channel) : Option (List UInt8) := if c.unread = [] then none else some c.takeLine.1

theorem line?_submit (c : Channel) (command : Command) : (c.submit command).line? = c.line? := rfl

/-- Where the output has ended, there is no line to take away. -/
theorem takeLine_of_ended {c : Channel} (h : c.unread = []) : c.takeLine = ([], c) := by
  obtain ⟨nextId, sent, unread⟩ := c
  subst h
  rfl

theorem readResponse_of_ended {c : Channel} (h : c.line? = none) :
    c.readResponse = (.error .notRunning, c.takeLine.2) := by
  have hend : c.unread = [] := by
    by_contra hne
    rw [line?, if_neg hne] at h
    cases h
  rw [readResponse, if_pos hend, takeLine_of_ended hend]

theorem readResponse_of_line {c : Channel} {line : List UInt8} (h : c.line? = some line) :
    c.readResponse = (responseOf line, c.takeLine.2) := by
  rw [line?] at h
  split at h
  · cases h
  · next hne =>
    rw [readResponse, if_neg hne]
    cases h
    rfl

end Channel

/-- A command takes away the next line, if there is one. -/
theorem after_send (command : Command) (c : Channel) :
    (send command).after c = (c.submit command).takeLine.2 := by
  show (c.submit command).readResponse.2 = _
  cases h : (c.submit command).line? with
  | none => rw [Channel.readResponse_of_ended h]
  | some line => rw [Channel.readResponse_of_line h]

/-- Nothing comes of a command when the output has ended. -/
theorem result_send_of_ended {command : Command} {c : Channel} (h : c.line? = none) :
    (send command).result c = .error .notRunning := by
  show (c.submit command).readResponse.1.bind _ = _
  rw [Channel.readResponse_of_ended ((c.line?_submit command).trans h)]
  rfl

/-- What comes of a command is in the next line. -/
theorem result_send_of_line {command : Command} {c : Channel} {line : List UInt8}
    (h : c.line? = some line) :
    (send command).result c = (Channel.responseOf line).bind fun r => r.dataFor c.nextId := by
  show (c.submit command).readResponse.1.bind _ = _
  rw [Channel.readResponse_of_line ((c.line?_submit command).trans h)]

theorem dataFor_eq_ok_iff {r : Response} {id : Nat} {data : Option Payload} :
    r.dataFor id = .ok data ↔ r = ⟨id, .ok data⟩ := by
  obtain ⟨id', outcome⟩ := r
  by_cases hid : id' = id
  · subst hid
    cases outcome <;> simp [Response.dataFor]
  · simp [Response.dataFor, hid]

/-- **Data come of a command only from a line that answers it.** -/
theorem result_send_eq_ok_iff {command : Command} {c : Channel} {data : Option Payload} :
    (send command).result c = .ok data
      ↔ ∃ line, c.line? = some line ∧ Channel.responseOf line = .ok ⟨c.nextId, .ok data⟩ := by
  cases h : c.line? with
  | none => simp [result_send_of_ended h]
  | some line =>
      rw [result_send_of_line h]
      simp only [Option.some.injEq, exists_eq_left']
      cases Channel.responseOf line with
      | error e => simp [Except.bind]
      | ok r => simp [Except.bind, dataFor_eq_ok_iff]

/-- A line that answers another request fails the command. -/
theorem result_send_of_other {command : Command} {c : Channel} {line : List UInt8} {r : Response}
    (h : c.line? = some line) (hr : Channel.responseOf line = .ok r) (hid : r.id ≠ c.nextId) :
    (send command).result c = .error .unexpected := by
  rw [result_send_of_line h, hr]
  show r.dataFor c.nextId = _
  rw [Response.dataFor, if_pos hid]

/-! ## Commands and their answers -/

/-- What a command is answered with. -/
abbrev Command.Answer : Command → Type
  | .init | .closeWorkbook _ | .shutdown => Unit
  | .openWorkbook _ => Nat
  | .listSheets _ => List String
  | .getShapes _ _ => List Reported.Drawing
  | .getCharts _ _ => List Reported.Chart
  | .getPrintAreas _ _ => String
  | .getPageBreaks _ _ => Reported.PageBreaks
  | .getGrid _ _ => Reported.UsedRange

/-- The call that gives a command. -/
def Command.call : (command : Command) → Call command.Answer
  | .init => Functor.discard (send .init)
  | .openWorkbook path => Bridge.openWorkbook path
  | .listSheets workbook => Bridge.listSheets workbook
  | .getShapes workbook sheet => Bridge.shapes workbook sheet
  | .getCharts workbook sheet => Bridge.charts workbook sheet
  | .getPrintAreas workbook sheet => Bridge.printArea workbook sheet
  | .getPageBreaks workbook sheet => Bridge.pageBreaks workbook sheet
  | .getGrid workbook sheet => Bridge.grid workbook sheet
  | .closeWorkbook workbook => Bridge.closeWorkbook workbook
  | .shutdown => Bridge.shutdown

/--
The data of a response are of the kind that a command has to be answered with, and stand for this
answer. Only print areas may be left out, and where nothing is asked for, any data will do.
-/
def Command.Fits : (command : Command) → Option Payload → command.Answer → Prop
  | .init, _, _ | .closeWorkbook _, _, _ | .shutdown, _, _ => True
  | .openWorkbook _, data, handle => data = some (.workbook handle)
  | .listSheets _, data, names => data = some (.sheets names)
  | .getShapes _ _, data, drawings => data = some (.shapes drawings)
  | .getCharts _ _, data, charts => data = some (.charts charts)
  | .getPrintAreas _ _, data, text => data = some (.printArea text) ∨ data = none ∧ text = ""
  | .getPageBreaks _ _, data, breaks => data = some (.pageBreaks breaks)
  | .getGrid _ _, data, range => data = some (.grid range)

theorem discard_send_eq_ask (command : Command) :
    Functor.discard (send command) = ask command fun _ => some () := by
  show (fun _ => ()) <$> send command = _
  rw [map_eq_pure_bind]
  rfl

/-- How a command is called: it is sent, and the data that come of it are looked at. -/
theorem Command.call_eq_ask (command : Command) :
    ∃ kind : Option Payload → Option command.Answer,
      command.call = ask command kind ∧ ∀ data a, kind data = some a ↔ command.Fits data a := by
  cases command with
  | init | closeWorkbook workbook | shutdown =>
      exact ⟨_, discard_send_eq_ask _, fun _ _ => ⟨fun _ => trivial, fun _ => rfl⟩⟩
  | openWorkbook | listSheets | getShapes | getCharts | getPrintAreas | getPageBreaks | getGrid =>
      refine ⟨_, rfl, fun data a => ?_⟩
      cases data with
      | none => simp [Fits, eq_comm]
      | some p => cases p <;> simp [Fits]

/-- Looking at the data does nothing to the channel. -/
theorem after_ask {kind : Option Payload → Option α} (command : Command) (c : Channel) :
    (ask command kind).after c = (send command).after c := by
  cases h : (send command).result c with
  | error e => exact Call.after_bind_of_error h
  | ok data =>
      refine (Call.after_bind_of_ok h).trans ?_
      cases kind data <;> rfl

theorem result_ask_of_error {kind : Option Payload → Option α} {command : Command} {c : Channel}
    {e : CallError} (h : (send command).result c = .error e) :
    (ask command kind).result c = .error e :=
  Call.result_bind_of_error h

theorem result_ask_eq_ok_iff {kind : Option Payload → Option α} {command : Command} {c : Channel}
    {a : α} : (ask command kind).result c = .ok a
      ↔ ∃ data, (send command).result c = .ok data ∧ kind data = some a := by
  cases h : (send command).result c with
  | error e => simp [result_ask_of_error h]
  | ok data =>
      have hkind : (ask command kind).result c
          = (kind data).elim (.error .unexpected) .ok := by
        refine (Call.result_bind_of_ok h).trans ?_
        cases kind data <;> rfl
      rw [hkind]
      cases hk : kind data with
      | none => simp [hk]
      | some a' => simp [hk]

theorem after_call (command : Command) (c : Channel) :
    command.call.after c = (c.submit command).takeLine.2 := by
  obtain ⟨kind, hcall, _⟩ := command.call_eq_ask
  rw [hcall, after_ask, after_send]

/-- A command is sent once, and nothing else is. -/
theorem sends_call (command : Command) (c : Channel) : Sends command.call c [command] where
  sent := by rw [after_call]; rfl
  nextId := by rw [after_call]; rfl

/-- **A command is answered only by a line that is a response to it, with data of its kind.** -/
theorem result_call_eq_ok_iff {command : Command} {c : Channel} {a : command.Answer} :
    command.call.result c = .ok a
      ↔ ∃ line data, c.line? = some line ∧ Channel.responseOf line = .ok ⟨c.nextId, .ok data⟩
          ∧ command.Fits data a := by
  obtain ⟨kind, hcall, hkind⟩ := command.call_eq_ask
  rw [hcall, result_ask_eq_ok_iff]
  simp only [result_send_eq_ok_iff, hkind]
  constructor
  · rintro ⟨data, ⟨line, hline, hr⟩, ha⟩
    exact ⟨line, data, hline, hr, ha⟩
  · rintro ⟨line, data, hline, hr, ha⟩
    exact ⟨data, ⟨line, hline, hr⟩, ha⟩

theorem result_call_of_other {command : Command} {c : Channel} {line : List UInt8} {r : Response}
    (h : c.line? = some line) (hr : Channel.responseOf line = .ok r) (hid : r.id ≠ c.nextId) :
    command.call.result c = .error .unexpected := by
  obtain ⟨kind, hcall, _⟩ := command.call_eq_ask
  rw [hcall, result_ask_of_error (result_send_of_other h hr hid)]

end Sheetwise.Bridge
