import Sheetwise.NumberFormat

/-!
# Quoted literals in number formats

What a format quotes is shown as it is, so it should not matter to whether the format shows a date. The
scan of a section passes over quoted text, and over brackets, escapes and padding in it, because it goes
to the next quotation mark whatever stands in between. But the sections are cut before the scan, and the
cut does not look for quotation marks. A literal with a semicolon in it ends its section: what follows
is left out, and the literal, without its end, hides nothing more.

So a literal decides in one case only. If the code shows a date by nothing but what stands behind the
literal, it does so unless there is a semicolon in the literal.
-/

namespace Sheetwise

/-! ## Cutting at a mark -/

namespace Text

variable {α : Type} [DecidableEq α] {x : α} {xs : List α}

theorem before_cons_of_ne {y : α} (h : y ≠ x) (xs : List α) :
    before x (y :: xs) = y :: before x xs :=
  List.takeWhile_cons_of_pos (by simpa using h)

theorem before_append_of_notMem (h : x ∉ xs) (ys : List α) :
    before x (xs ++ ys) = xs ++ before x ys := by
  refine List.takeWhile_append_of_pos fun y hy => ?_
  simpa using ne_of_mem_of_not_mem hy h

theorem before_of_notMem (h : x ∉ xs) : before x xs = xs := by
  have happend := before_append_of_notMem h []
  rwa [List.append_nil, show before x [] = [] from rfl, List.append_nil] at happend

theorem before_append_of_mem (h : x ∈ xs) (ys : List α) : before x (xs ++ ys) = before x xs := by
  obtain ⟨front, back, rfl, hfront⟩ := List.eq_append_cons_of_mem h
  have hstop (zs : List α) : before x (x :: zs) = [] := List.takeWhile_cons_of_neg (by simp)
  rw [List.append_assoc, before_append_of_notMem hfront, before_append_of_notMem hfront,
    List.cons_append, hstop, hstop]

theorem after_append_of_notMem (h : x ∉ xs) (ys : List α) : after x (xs ++ ys) = after x ys := by
  have hdrop : (xs ++ ys).dropWhile (fun y => decide (y ≠ x)) = ys.dropWhile fun y => decide (y ≠ x) := by
    refine List.dropWhile_append_of_pos fun y hy => ?_
    simpa using ne_of_mem_of_not_mem hy h
  rw [after, after, hdrop]

theorem after_cons_self (xs : List α) : after x (x :: xs) = xs := by
  rw [after, List.dropWhile_cons_of_neg (by simp), List.drop_one, List.tail_cons]

end Text

namespace NumberFormat

/-! ## Codes without marks -/

/-- The characters that set off a part of a code: quotation mark, escape, padding, bracket, semicolon. -/
def marks : List Char := ['"', '\\', '_', '*', '[', ';']

/-- Whether a character stands for a part of a date or a time. -/
def isDateSymbol (c : Char) : Bool := ['y', 'm', 'd', 'h', 's'].contains c.toLower

/-- Plain characters stand for themselves. -/
theorem symbols_append_of_plain {cs : List Char} (h : ∀ c ∈ cs, c ∉ marks) (rest : List Char) :
    symbols (cs ++ rest) = cs ++ symbols rest := by
  induction cs with
  | nil => rfl
  | cons c cs ih =>
      obtain ⟨hc, hcs⟩ := List.forall_mem_cons.mp h
      simp only [marks, List.mem_cons, not_or] at hc
      obtain ⟨hquote, hescape, hspace, hfill, hbracket, -⟩ := hc
      have hskip : ¬ (c = '\\' ∨ c = '_' ∨ c = '*') :=
        fun h => h.elim hescape fun h => h.elim hspace hfill
      rw [List.cons_append, symbols, if_neg hquote, if_neg hskip, if_neg hbracket, ih hcs,
        List.cons_append]

theorem symbols_of_plain {cs : List Char} (h : ∀ c ∈ cs, c ∉ marks) : symbols cs = cs := by
  have happend := symbols_append_of_plain h []
  rwa [List.append_nil, symbols, List.append_nil] at happend

/-- A literal is passed over, whatever it holds. -/
theorem symbols_quoted {literal : List Char} (h : '"' ∉ literal) (rest : List Char) :
    symbols ('"' :: (literal ++ '"' :: rest)) = symbols rest := by
  rw [symbols, if_pos rfl, Text.after_append_of_notMem h, Text.after_cons_self]

/-- A literal without an end hides all that follows. -/
theorem symbols_unclosed {literal : List Char} (h : '"' ∉ literal) :
    symbols ('"' :: literal) = [] := by
  have hnothing := Text.after_append_of_notMem h []
  rw [List.append_nil] at hnothing
  rw [symbols, if_pos rfl, hnothing, show Text.after '"' [] = [] from rfl, symbols]

/-- The format without a code of its own needs no exception: its name has no symbol of a date in it. -/
theorem isDateCode_eq (code : String) :
    isDateCode code = (symbols (Text.before ';' code.toList)).any isDateSymbol := by
  unfold isDateCode
  dsimp only
  split
  · next hgeneral =>
    generalize Text.before ';' code.toList = cs at hgeneral
    have hletters : ∀ c ∈ cs, c.toLower ∈ "general".toList := by
      rw [← hgeneral]
      exact fun c hc => List.mem_map_of_mem hc
    have hplain : ∀ c ∈ cs, c ∉ marks := by
      have hmarks : ∀ c ∈ marks, c.toLower ∉ "general".toList := by simp [marks]
      exact fun c hc hmark => hmarks c hmark (hletters c hc)
    rw [symbols_of_plain hplain, eq_comm, List.any_eq_false]
    intro c hc
    have hnone : ∀ l ∈ "general".toList, ¬ ['y', 'm', 'd', 'h', 's'].contains l = true := by simp
    exact hnone _ (hletters c hc)
  · rfl

/-! ## Codes with a literal -/

/-- A code that quotes a literal. -/
def quoting (front literal back : String) : String :=
  front ++ "\"" ++ literal ++ "\"" ++ back

theorem toList_quoting (front literal back : String) : (quoting front literal back).toList
    = front.toList ++ '"' :: (literal.toList ++ '"' :: back.toList) := by
  simp [quoting]

/--
What is quoted counts as far as it ends the section: before the literal, and after a literal without a
semicolon, each part of the code shows a date or not by itself.
-/
theorem isDateCode_quoting {front literal back : String} (hfront : ∀ c ∈ front.toList, c ∉ marks)
    (hliteral : '"' ∉ literal.toList) :
    isDateCode (quoting front literal back)
      = (isDateCode front || (!decide (';' ∈ literal.toList) && isDateCode back)) := by
  have hsemicolon : ';' ∉ front.toList := fun h => hfront _ h (by decide)
  have halone : isDateCode front = front.toList.any isDateSymbol := by
    rw [isDateCode_eq, Text.before_of_notMem hsemicolon, symbols_of_plain hfront]
  rw [isDateCode_eq, toList_quoting, Text.before_append_of_notMem hsemicolon,
    Text.before_cons_of_ne (by decide), symbols_append_of_plain hfront, List.any_append, halone]
  by_cases h : ';' ∈ literal.toList
  · have hshort : '"' ∉ Text.before ';' literal.toList :=
      fun hmem => hliteral ((List.takeWhile_sublist _).subset hmem)
    rw [Text.before_append_of_mem h, symbols_unclosed hshort, decide_eq_true h]
    rfl
  · rw [Text.before_append_of_notMem h, Text.before_cons_of_ne (by decide), symbols_quoted hliteral,
      ← isDateCode_eq, decide_eq_false h]
    rfl

/--
**One literal can take the place of another unless a semicolon makes the difference**: there is one in
one of them and none in the other, and the code shows a date by what follows the literal and by nothing
else. Brackets, escapes and the letters of dates in a literal never matter.
-/
theorem isDate_quoting_iff {id : Nat} {front a b back : String}
    (hfront : ∀ c ∈ front.toList, c ∉ marks) (ha : '"' ∉ a.toList) (hb : '"' ∉ b.toList) :
    isDate id (some (quoting front a back)) = isDate id (some (quoting front b back))
      ↔ (';' ∈ a.toList ↔ ';' ∈ b.toList) ∨ isDateCode front = true ∨ isDateCode back = false := by
  show isDateCode _ = isDateCode _ ↔ _
  rw [isDateCode_quoting hfront ha, isDateCode_quoting hfront hb]
  by_cases hsa : ';' ∈ a.toList <;> by_cases hsb : ';' ∈ b.toList <;>
    cases isDateCode front <;> cases isDateCode back <;> simp [hsa, hsb]

theorem isDate_quoting_iff_brackets :
    (∀ c ∈ "0 ".toList, c ∉ marks) ∧ '"' ∉ "[yy\\;".toList ∧ '"' ∉ "_;]d".toList
      ∧ (isDate 164 (some (quoting "0 " "[yy\\;" " mmm")) = isDate 164 (some (quoting "0 " "_;]d" " mmm"))
        ↔ (';' ∈ "[yy\\;".toList ↔ ';' ∈ "_;]d".toList) ∨ isDateCode "0 " = true
          ∨ isDateCode " mmm" = false) :=
  have hfront : ∀ c ∈ "0 ".toList, c ∉ marks := by simp [marks]
  ⟨hfront, by decide, by decide, isDate_quoting_iff hfront (by decide) (by decide)⟩

/-- **A semicolon in a literal hides the date behind it**, which any other literal leaves to be seen. -/
theorem date_hidden_behind_semicolon :
    (∀ c ∈ "".toList, c ∉ marks) ∧ '"' ∉ ";".toList ∧ '"' ∉ "x".toList
      ∧ isDate 164 (some (quoting "" ";" "yyyy")) = false
      ∧ isDate 164 (some (quoting "" "x" "yyyy")) = true := by
  refine ⟨by simp, by decide, by decide, ?_, ?_⟩ <;> decide +kernel

end NumberFormat

end Sheetwise
