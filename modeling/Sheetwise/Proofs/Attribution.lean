import Sheetwise.Proofs.Calls

/-!
# Which line answers which call

The bridge may write any lines, as many as it likes and in any order, and may stop at any time. A call
cannot tell whether the line it reads was written for it. What it can rely on is that calls read one
line after the other and send their commands under one number after the other, so that a line that
carries the number of a call is not taken for the answer to any other. If lines have been lost or put
in, so that the answers come to the wrong calls, then each of these calls fails.

The calls may be any, in any order; what a session asks of its workbook is asked by calls like these.
-/

namespace Sheetwise.Bridge

/-- The lines of what is written, without their ends. The last one may have no end. -/
def lines (bytes : List UInt8) : List (List UInt8) :=
  if bytes = [] then []
  else bytes.takeWhile (· ≠ newline) :: lines ((bytes.dropWhile (· ≠ newline)).drop 1)
termination_by bytes.length
decreasing_by
  have hle := (List.dropWhile_sublist (· ≠ newline) (l := bytes)).length_le
  have hpos := List.length_pos_of_ne_nil ‹bytes ≠ []›
  rw [List.length_drop]
  omega

/-- What is read next is the first line. -/
theorem line?_eq_head? (c : Channel) : c.line? = (lines c.unread).head? := by
  rw [Channel.line?, lines]
  split <;> rfl

/-- What is left to read after a line are the others. -/
theorem lines_takeLine (c : Channel) : lines c.takeLine.2.unread = (lines c.unread).tail := by
  rw [lines.eq_1 c.unread]
  split
  · next h => rw [Channel.takeLine_of_ended h, h, lines, if_pos rfl]; rfl
  · rfl

/-! ## Calls in turn -/

/--
A call that has been made: the command, the number it was sent under, the line that was read for it,
if there was one, and what came of it.
-/
structure Turn where
  id : Nat
  command : Command
  line : Option (List UInt8)
  result : Except CallError command.Answer

/-- The request that a call has sent. -/
def Turn.request (t : Turn) : Request := ⟨t.id, t.command⟩

/-- The call that gives a command next. -/
def Channel.turn (c : Channel) (command : Command) : Turn :=
  ⟨c.nextId, command, c.line?, command.call.result c⟩

/-- The calls that give some commands in turn, and the channel after them. -/
def turns : List Command → Channel → List Turn × Channel
  | [], c => ([], c)
  | command :: commands, c =>
    let rest := turns commands (command.call.after c)
    (c.turn command :: rest.1, rest.2)

/-- Every call is made through a channel as the calls before it have left it. -/
theorem mem_turns {commands : List Command} {c : Channel} {t : Turn} (h : t ∈ (turns commands c).1) :
    ∃ (c' : Channel) (command : Command), t = c'.turn command := by
  induction commands generalizing c with
  | nil => cases h
  | cons command commands ih =>
      rcases List.mem_cons.mp h with rfl | h
      · exact ⟨c, command, rfl⟩
      · exact ih h

/-- The calls send their commands, under one number after the other. -/
theorem request_turns (commands : List Command) (c : Channel) :
    (turns commands c).1.map Turn.request = numbered c.nextId commands
      ∧ (turns commands c).2.sent = c.sent ++ numbered c.nextId commands := by
  induction commands generalizing c with
  | nil => exact ⟨rfl, (List.append_nil _).symm⟩
  | cons command commands ih =>
      obtain ⟨hsent, hid⟩ := sends_call command c
      obtain ⟨hmap, hrest⟩ := ih (command.call.after c)
      rw [hid] at hmap hrest
      have hsplit := numbered_append c.nextId [command] commands
      constructor
      · rw [turns, List.map_cons, hmap]
        exact hsplit.symm
      · rw [turns, hrest, hsent, List.append_assoc]
        exact congrArg (c.sent ++ ·) hsplit.symm

/-- The calls read one line after the other. -/
theorem line_turns (commands : List Command) (c : Channel) :
    (∀ (k : Nat) (t : Turn), (turns commands c).1[k]? = some t → t.line = (lines c.unread)[k]?)
      ∧ lines (turns commands c).2.unread = (lines c.unread).drop commands.length := by
  induction commands generalizing c with
  | nil => exact ⟨fun k t h => (by cases h), rfl⟩
  | cons command commands ih =>
      have hrest : lines (command.call.after c).unread = (lines c.unread).tail := by
        rw [after_call]
        exact lines_takeLine (c.submit command)
      obtain ⟨hlines, hunread⟩ := ih (command.call.after c)
      rw [hrest] at hlines hunread
      constructor
      · intro k t h
        cases k with
        | zero =>
            cases h
            rw [← List.head?_eq_getElem?]
            exact line?_eq_head? c
        | succ k => rw [hlines k t h, List.getElem?_tail]
      · rw [turns, hunread, ← List.drop_one, List.drop_drop, List.length_cons, Nat.add_comm 1]

theorem id_of_getElem?_turns {commands : List Command} {c : Channel} {k : Nat} {t : Turn}
    (h : (turns commands c).1[k]? = some t) : t.id = c.nextId + k := by
  have hrequest : ((turns commands c).1.map Turn.request)[k]? = some t.request := by
    rw [List.getElem?_map, h]; rfl
  rw [(request_turns commands c).1, numbered, List.getElem?_map, List.getElem?_zipIdx] at hrequest
  obtain ⟨e, he, hreq⟩ := Option.map_eq_some_iff.mp hrequest
  obtain ⟨command, _, rfl⟩ := Option.map_eq_some_iff.mp he
  exact (congrArg Request.id hreq).symm

/-! ## Attribution -/

/-- A line is a response to the request of a number. -/
def Answers (line : List UInt8) (id : Nat) : Prop :=
  ∃ outcome, Channel.responseOf line = .ok ⟨id, outcome⟩

theorem answers_iff {line : List UInt8} {id : Nat} :
    Answers line id ↔ (Channel.responseOf line).toOption.map Response.id = some id := by
  cases h : Channel.responseOf line with
  | error e => simp [Answers, h, Except.toOption]
  | ok r =>
      obtain ⟨id', outcome⟩ := r
      simp [Answers, h, Except.toOption]

instance (line : List UInt8) (id : Nat) : Decidable (Answers line id) :=
  decidable_of_iff _ answers_iff.symm

/-- What holds of the calls that give some commands in turn. -/
structure Attributed (commands : List Command) (c : Channel) (log : List Turn) (c' : Channel) :
    Prop where
  /-- Every call sends its own command, under a number that no other has. -/
  requests : log.map Turn.request = numbered c.nextId commands
    ∧ c'.sent = c.sent ++ log.map Turn.request
  /-- Every call reads a line that no other reads, the one that is in its place, if there is one. -/
  ownLine : ∀ (k : Nat) (t : Turn), log[k]? = some t → t.line = (lines c.unread)[k]?
  /-- The lines that no call has read are still there to read. -/
  unread : lines c'.unread = (lines c.unread).drop commands.length
  /-- A call is answered only if its line is a response to it that is ok and has the right data. -/
  answered : ∀ t ∈ log, ∀ a, t.result = .ok a ↔ ∃ line data, t.line = some line
    ∧ Channel.responseOf line = .ok ⟨t.id, .ok data⟩ ∧ t.command.Fits data a
  /--
  As long as the answers to requests come in their order but not in the places of these requests, no
  call gives anything.
  -/
  shifted : ∀ (before answers after : List (List UInt8)) (first : Nat),
    lines c.unread = before ++ answers ++ after →
    (∀ (j : Nat) (line : List UInt8), answers[j]? = some line → Answers line (first + j)) →
    first ≠ c.nextId + before.length →
    ∀ j < answers.length, ∀ t, log[before.length + j]? = some t → t.result = .error .unexpected

/-- **Every call is answered by its own line, or fails.** -/
theorem turns_attributed (commands : List Command) (c : Channel) :
    Attributed commands c (turns commands c).1 (turns commands c).2 where
  requests := by
    obtain ⟨hmap, hsent⟩ := request_turns commands c
    exact ⟨hmap, by rw [hmap, hsent]⟩
  ownLine := (line_turns commands c).1
  unread := (line_turns commands c).2
  answered t ht a := by
    obtain ⟨c', command, rfl⟩ := mem_turns ht
    exact result_call_eq_ok_iff
  shifted before answers after first hlines hanswers hfirst j hj t ht := by
    have hid := id_of_getElem?_turns ht
    have hline := (line_turns commands c).1 _ t ht
    rw [hlines, List.append_assoc, List.getElem?_append_right (Nat.le_add_right _ _),
      Nat.add_sub_cancel_left, List.getElem?_append_left hj, List.getElem?_eq_getElem hj] at hline
    obtain ⟨outcome, hresponse⟩ := hanswers j _ (List.getElem?_eq_getElem hj)
    obtain ⟨c', command, rfl⟩ := mem_turns (List.mem_of_getElem? ht)
    refine result_call_of_other hline hresponse ?_
    show first + j ≠ (c'.turn command).id
    omega

/-- The answers to two requests. -/
def twoAnswers : List (List UInt8) :=
  ["\x7b\"id\":1,\"status\":\"ok\"\x7d", "\x7b\"id\":2,\"status\":\"ok\"\x7d"].map (·.toUTF8.toList)

/-- A bridge that writes the answers in their order, behind a line that is none. -/
def late : Channel where
  unread := ("?".toUTF8.toList :: twoAnswers).flatMap fun line => line ++ [newline]

/-- Each answer is read by the call after the one that it is for. -/
theorem turns_attributed_late :
    ∃ t t', (turns [.init, .openWorkbook "b", .listSheets 1] late).1[1]? = some t
      ∧ (turns [.init, .openWorkbook "b", .listSheets 1] late).1[2]? = some t'
      ∧ t.result = .error .unexpected ∧ t'.result = .error .unexpected := by
  have hlines : lines late.unread = ["?".toUTF8.toList] ++ twoAnswers ++ [] := by decide +kernel
  have hanswers : ∀ (j : Nat) (line : List UInt8), twoAnswers[j]? = some line →
      Answers line (1 + j) := by
    have hall : ∀ j : Fin 2, ∀ line ∈ twoAnswers[j.val]?, Answers line (1 + j.val) := by
      decide +kernel
    intro j line h
    exact hall ⟨j, (List.getElem?_eq_some_iff.mp h).1⟩ line h
  have hshifted := (turns_attributed [.init, .openWorkbook "b", .listSheets 1] late).shifted _ _ _ 1
    hlines hanswers (by decide)
  exact ⟨_, _, rfl, rfl, hshifted 0 (by decide) _ rfl, hshifted 1 (by decide) _ rfl⟩

end Sheetwise.Bridge
