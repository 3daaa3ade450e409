import Sheetwise.Proofs.JsonNumbers

/-!
# JSON text read back

A value is read back from its text. Reading has two parts, and so has this. Taken apart by the grammar, the
text of a value gives the value as it is *written*, with its numbers as digits and its strings with their
escapes; and what is written of a value means that value.

Nothing in a text may be read as more or less than it is. A string ends at the first quotation mark that is
not escaped, and none of its own is left so. A value that is not a string ends before the mark behind it.
The fuel of the reader is the length of the text, and each of its steps takes at least one character.
What the text does not tell is left out: an integer of more than 64 bits is read as a floating-point number,
an infinite one is written as no number at all, and what is nested too deep is not read.
-/

namespace Sheetwise.Json

/-! ## Strings -/

/-- The spelling of a text inside quotation marks. -/
def spelling (cs : List Char) : List Char := cs.flatMap escape

theorem hexDigit_pair (n : Fin 32) :
    Text.hex? ['0', '0', hexDigit (n / 16), hexDigit (n % 16)] = some n.val
      ∧ ['0', '0', hexDigit (n / 16), hexDigit (n % 16)].all Text.isHexDigit = true := by
  revert n
  decide

/-- A character stands for itself, or it is escaped by a letter or by its code. -/
theorem escape_cases (c : Char) :
    (escape c = [c] ∧ c ≠ '"' ∧ c ≠ '\\' ∧ ¬ c.toNat < 0x20)
      ∨ (∃ e, escape c = ['\\', e] ∧ e ≠ 'u' ∧ escaped? e = some c)
      ∨ ∃ a b, escape c = ['\\', 'u', '0', '0', a, b] ∧ Text.hex? ['0', '0', a, b] = some c.toNat
        ∧ ['0', '0', a, b].all Text.isHexDigit = true ∧ c.toNat < 0x20 := by
  unfold escape
  split_ifs with hquote hback hb ht hn hf hr hcode
  · exact .inr (.inl ⟨'"', rfl, by decide, by rw [hquote]; rfl⟩)
  · exact .inr (.inl ⟨'\\', rfl, by decide, by rw [hback]; rfl⟩)
  · exact .inr (.inl ⟨'b', rfl, by decide, hb ▸ rfl⟩)
  · exact .inr (.inl ⟨'t', rfl, by decide, ht ▸ rfl⟩)
  · exact .inr (.inl ⟨'n', rfl, by decide, hn ▸ rfl⟩)
  · exact .inr (.inl ⟨'f', rfl, by decide, hf ▸ rfl⟩)
  · exact .inr (.inl ⟨'r', rfl, by decide, hr ▸ rfl⟩)
  · obtain ⟨hvalue, hdigits⟩ := hexDigit_pair ⟨c.toNat, hcode⟩
    exact .inr (.inr ⟨_, _, rfl, hvalue, hdigits, hcode⟩)
  · exact .inl ⟨rfl, hquote, hback, hcode⟩

/-- A spelling is read up to the quotation mark after it. -/
theorem spelling?_spelling (cs rest : List Char) :
    spelling? (spelling cs ++ '"' :: rest) = some (spelling cs, rest) := by
  unfold spelling
  induction cs with
  | nil => rfl
  | cons c cs ih =>
      rw [List.flatMap_cons, List.append_assoc]
      rcases escape_cases c with ⟨h, hquote, hback, hcode⟩ | ⟨e, h, hu, he⟩ | ⟨a, b, h, -, hdigits, -⟩
      · rw [h, List.singleton_append, spelling?, if_neg hcode, ih]
        · rfl
        · exact hquote
        · exact fun _ _ _ _ _ hc => absurd hc hback
        · exact fun _ _ hc => absurd hc hback
      · rw [h, List.cons_append, List.singleton_append, spelling?, he, ih]
        · rfl
        · exact fun _ _ _ _ _ hc => absurd hc hu
      · simp only [h, List.cons_append, List.nil_append, spelling?]
        rw [if_pos hdigits, ih]
        rfl

/-- The characters of a spelling are those that were spelled. -/
theorem unescape?_spelling (cs : List Char) : unescape? (spelling cs) = some cs := by
  unfold spelling
  induction cs with
  | nil => rfl
  | cons c cs ih =>
      rw [List.flatMap_cons]
      rcases escape_cases c with ⟨h, -, hback, -⟩ | ⟨e, h, hu, he⟩ | ⟨a, b, h, hvalue, -, hcode⟩
      · rw [h, List.singleton_append, unescape?, ih]
        · rfl
        · exact fun _ _ _ _ _ hc => absurd hc hback
        · exact fun _ _ hc => absurd hc hback
      · rw [h, List.cons_append, List.singleton_append, unescape?, he, ih]
        · rfl
        · exact fun _ _ _ _ _ hc => absurd hc hu
      · simp only [h, List.cons_append, List.nil_append, unescape?]
        rw [hvalue, ih]
        dsimp only
        rw [if_neg (by omega), if_neg (by omega), Option.map_some, Char.ofNat_toNat]

/-! ## Values -/

mutual

/-- A value as it is written. -/
def written : Json → Written
  | .null => .null
  | .bool b => .bool b
  | .int n => .number (.ofInt n)
  | .float x => .number (.ofDecimal (Binary64.isNegative x) (decimal x).1 (decimal x).2)
  | .str s => .str (spelling s.toList)
  | .arr xs => .arr (writtenItems xs)
  | .obj ms => .obj (writtenMembers ms)

/-- The items of an array as they are written. -/
def writtenItems : List Json → List Written
  | [] => []
  | x :: xs => written x :: writtenItems xs

/-- The members of an object as they are written. -/
def writtenMembers : List (String × Json) → List (List Char × Written)
  | [] => []
  | (name, x) :: ms => (spelling name.toList, written x) :: writtenMembers ms

end

/--
A value that its text tells: its integers have 64 bits, its floating-point numbers are finite, and it is
nested at most `depth` deep.
-/
inductive Writable : Nat → Json → Prop where
  | null {depth : Nat} : Writable depth .null
  | bool {depth : Nat} {b : Bool} : Writable depth (.bool b)
  | int {depth : Nat} {n : Int} : IsInteger n → Writable depth (.int n)
  | float {depth : Nat} {x : Float} : Binary64.isFinite x → Writable depth (.float x)
  | str {depth : Nat} {s : String} : Writable depth (.str s)
  | arr {depth : Nat} {items : List Json} :
      (∀ x ∈ items, Writable depth x) → Writable (depth + 1) (.arr items)
  | obj {depth : Nat} {members : List (String × Json)} :
      (∀ m ∈ members, Writable depth m.2) → Writable (depth + 1) (.obj members)

theorem Writable.succ {depth : Nat} {j : Json} (h : Writable depth j) : Writable (depth + 1) j := by
  induction h with
  | null => exact .null
  | bool => exact .bool
  | int hn => exact .int hn
  | float hx => exact .float hx
  | str => exact .str
  | arr _ ih => exact .arr ih
  | obj _ ih => exact .obj ih

theorem skipSpaces_cons {c : Char} {cs : List Char} (h : isSpace c = false) :
    skipSpaces (c :: cs) = c :: cs :=
  List.dropWhile_cons_of_neg (by rw [h]; decide)

/-! What a reader does with the next character. -/

namespace Written

variable {fuel : Nat} {cs rest rest' name : List Char} {x : Written}

theorem value_quote (fuel : Nat) (cs : List Char) :
    value (fuel + 1) ('"' :: cs) = (spelling? cs).map fun (s, rest) => (.str s, rest) :=
  rfl

theorem value_bracket (h : (skipSpaces cs).head? ≠ some ']') :
    value (fuel + 1) ('[' :: cs) = (items fuel cs).map fun (xs, rest) => (.arr xs, rest) := by
  rw [value]
  simp only [skipSpaces_cons (show isSpace '[' = false by decide)]
  split
  · next heq =>
    rw [heq] at h
    exact absurd rfl h
  · rfl

theorem value_brace (h : (skipSpaces cs).head? ≠ some '\x7d') :
    value (fuel + 1) ('\x7b' :: cs) = (members fuel cs).map fun (ms, rest) => (.obj ms, rest) := by
  rw [value]
  simp only [skipSpaces_cons (show isSpace '\x7b' = false by decide)]
  split
  · next heq =>
    rw [heq] at h
    exact absurd rfl h
  · rfl

theorem items_next (h : value fuel cs = some (x, ',' :: rest)) :
    items (fuel + 1) cs = (items fuel rest).map fun (xs, rest) => (x :: xs, rest) := by
  rw [items, h]
  rfl

theorem items_last (h : value fuel cs = some (x, ']' :: rest)) :
    items (fuel + 1) cs = some ([x], rest) := by
  rw [items, h]
  rfl

theorem members_next (hname : spelling? cs = some (name, ':' :: rest))
    (h : value fuel rest = some (x, ',' :: rest')) : members (fuel + 1) ('"' :: cs)
      = (members fuel rest').map fun (ms, rest) => ((name, x) :: ms, rest) := by
  rw [members]
  simp only [skipSpaces_cons (show isSpace '"' = false by decide), hname,
    skipSpaces_cons (show isSpace ':' = false by decide), h]
  rfl

theorem members_last (hname : spelling? cs = some (name, ':' :: rest))
    (h : value fuel rest = some (x, '\x7d' :: rest')) :
    members (fuel + 1) ('"' :: cs) = some ([(name, x)], rest') := by
  rw [members]
  simp only [skipSpaces_cons (show isSpace '"' = false by decide), hname,
    skipSpaces_cons (show isSpace ':' = false by decide), h]
  rfl

end Written

/-- A number begins with its sign or with a digit. -/
theorem Numeral.WellFormed.exists_chars {n : Numeral} (h : n.WellFormed) :
    ∃ c cs, n.chars = c :: cs ∧ (c = '-' ∨ Text.isDigit c = true) := by
  obtain ⟨d, ds, hds⟩ := List.exists_cons_of_ne_nil h.some_digit
  have hd : Text.isDigit d = true := h.whole d (by rw [hds]; exact List.mem_cons_self)
  rw [Numeral.chars, hds]
  cases n.negative with
  | true => exact ⟨'-', _, rfl, .inl rfl⟩
  | false => exact ⟨d, _, rfl, .inr hd⟩

theorem isSpace_of_sign_or_digit {c : Char} (h : c = '-' ∨ Text.isDigit c = true) :
    isSpace c = false ∧ c ≠ ']' := by
  rcases h with rfl | h
  · decide
  · refine ⟨?_, by rintro rfl; exact absurd h (by decide)⟩
    by_contra hspace
    simp only [isSpace, Bool.not_eq_false, Bool.or_eq_true, decide_eq_true_eq] at hspace
    rcases hspace with ((rfl | rfl) | rfl) | rfl <;> exact absurd h (by decide)

theorem Written.value_number {n : Numeral} (h : n.WellFormed) {rest : List Char} (hrest : Ends rest)
    (fuel : Nat) : value (fuel + 1) (n.chars ++ rest) = some (.number n, rest) := by
  obtain ⟨c, cs, hcs, hc⟩ := h.exists_chars
  have hread := Numeral.numeral?_chars h hrest
  rw [hcs, List.cons_append] at hread ⊢
  rw [value, skipSpaces_cons (isSpace_of_sign_or_digit hc).1]
  -- a number begins with no mark and no letter, so only the last alternative is left
  split
  case h_7 => rw [hread]; rfl
  all_goals
    next heq =>
    cases heq
    exact absurd hc (by decide)

theorem chars_int (n : Int) : chars (.int n) = (Numeral.ofInt n).chars := by
  rw [chars, Numeral.chars_ofInt]

theorem chars_float {x : Float} (h : Binary64.isFinite x) : chars (.float x)
    = (Numeral.ofDecimal (Binary64.isNegative x) (decimal x).1 (decimal x).2).chars := by
  rw [chars, if_pos h, Numeral.chars_ofDecimal]

theorem wellFormed_float {x : Float} (h : Binary64.isFinite x) :
    (Numeral.ofDecimal (Binary64.isNegative x) (decimal x).1 (decimal x).2).WellFormed :=
  Numeral.wellFormed_ofDecimal _ _ _ (decimal_zero h)

/-- A value begins with a character that is no space and closes nothing. -/
theorem Writable.exists_chars {depth : Nat} {j : Json} (h : Writable depth j) :
    ∃ c cs, j.chars = c :: cs ∧ isSpace c = false ∧ c ≠ ']' := by
  have hnumber {n : Numeral} (hn : n.WellFormed) :
      ∃ c cs, n.chars = c :: cs ∧ isSpace c = false ∧ c ≠ ']' := by
    obtain ⟨c, cs, hcs, hc⟩ := hn.exists_chars
    exact ⟨c, cs, hcs, isSpace_of_sign_or_digit hc⟩
  cases h with
  | null => exact ⟨_, _, rfl, rfl, by decide⟩
  | @bool _ b => cases b <;> exact ⟨_, _, rfl, rfl, by decide⟩
  | int =>
      rw [chars_int]
      exact hnumber (Numeral.wellFormed_ofInt _)
  | float hx =>
      rw [chars_float hx]
      exact hnumber (wellFormed_float hx)
  | str => exact ⟨_, _, rfl, rfl, by decide⟩
  | arr => exact ⟨_, _, rfl, rfl, by decide⟩
  | obj => exact ⟨_, _, rfl, rfl, by decide⟩

/-- A value is read from its characters, if nothing behind them goes on with it. -/
def Reads (j : Json) : Prop := ∀ fuel rest, j.chars.length ≤ fuel → Ends rest →
  Written.value (fuel + 1) (j.chars ++ rest) = some (j.written, rest)

theorem Reads.value {j : Json} (h : Reads j) {fuel : Nat} {rest : List Char}
    (hfuel : j.chars.length < fuel) (hrest : Ends rest) :
    Written.value fuel (j.chars ++ rest) = some (j.written, rest) := by
  obtain ⟨fuel, rfl⟩ := Nat.exists_eq_add_one_of_ne_zero (Nat.ne_zero_of_lt hfuel)
  exact h fuel rest (Nat.le_of_lt_succ hfuel) hrest

theorem ends_comma (rest : List Char) : Ends (',' :: rest) := by
  rintro _ ⟨⟩
  exact .inl rfl

theorem ends_bracket (rest : List Char) : Ends (']' :: rest) := by
  rintro _ ⟨⟩
  exact .inr (.inl rfl)

theorem ends_brace (rest : List Char) : Ends ('\x7d' :: rest) := by
  rintro _ ⟨⟩
  exact .inr (.inr rfl)

/-- The items of an array are read up to its closing bracket. -/
theorem items_chars {xs : List Json} (hne : xs ≠ []) (h : ∀ x ∈ xs, Reads x) (rest : List Char)
    {fuel : Nat} (hfuel : (joinCommas (itemChars xs)).length + 1 < fuel) :
    Written.items fuel (joinCommas (itemChars xs) ++ ']' :: rest) = some (writtenItems xs, rest) := by
  induction xs generalizing fuel with
  | nil => exact absurd rfl hne
  | cons x xs ih =>
      rw [List.forall_mem_cons] at h
      obtain ⟨fuel, rfl⟩ := Nat.exists_eq_add_one_of_ne_zero (Nat.ne_zero_of_lt hfuel)
      cases xs with
      | nil =>
          have hchars : joinCommas (itemChars [x]) = x.chars := rfl
          rw [hchars] at hfuel ⊢
          exact Written.items_last (h.1.value (by omega) (ends_bracket rest))
      | cons y ys =>
          have hchars : joinCommas (itemChars (x :: y :: ys))
              = x.chars ++ ',' :: joinCommas (itemChars (y :: ys)) := rfl
          -- the comma pays for the step from one item to the next
          rw [hchars, List.length_append, List.length_cons] at hfuel
          rw [hchars, List.append_assoc, List.cons_append,
            Written.items_next (h.1.value (by omega) (ends_comma _)),
            ih (List.cons_ne_nil _ _) h.2 (by omega)]
          rfl

/-- A name in quotation marks is read up to what follows it. -/
theorem spelling?_quoted (name : String) (rest : List Char) :
    ∃ cs, quoted name ++ rest = '"' :: cs ∧ spelling? cs = some (spelling name.toList, rest) := by
  refine ⟨spelling name.toList ++ '"' :: rest, ?_, spelling?_spelling _ _⟩
  rw [quoted, List.cons_append, List.append_assoc]
  rfl

/-- The members of an object are read up to its closing brace. -/
theorem members_chars {ms : List (String × Json)} (hne : ms ≠ []) (h : ∀ m ∈ ms, Reads m.2)
    (rest : List Char) {fuel : Nat} (hfuel : (joinCommas (memberChars ms)).length + 1 < fuel) :
    Written.members fuel (joinCommas (memberChars ms) ++ '\x7d' :: rest)
      = some (writtenMembers ms, rest) := by
  induction ms generalizing fuel with
  | nil => exact absurd rfl hne
  | cons m ms ih =>
      rw [List.forall_mem_cons] at h
      obtain ⟨name, x⟩ := m
      obtain ⟨hx, hms⟩ : Reads x ∧ _ := h
      obtain ⟨fuel, rfl⟩ := Nat.exists_eq_add_one_of_ne_zero (Nat.ne_zero_of_lt hfuel)
      cases ms with
      | nil =>
          have hchars : joinCommas (memberChars [(name, x)]) = quoted name ++ ':' :: x.chars := rfl
          rw [hchars, List.length_append, List.length_cons] at hfuel
          rw [hchars, List.append_assoc, List.cons_append]
          obtain ⟨cs, hcs, hname⟩ := spelling?_quoted name (':' :: (x.chars ++ '\x7d' :: rest))
          rw [hcs]
          exact Written.members_last hname (hx.value (by omega) (ends_brace rest))
      | cons m' ms =>
          have hchars : joinCommas (memberChars ((name, x) :: m' :: ms))
              = quoted name ++ ':' :: (x.chars ++ ',' :: joinCommas (memberChars (m' :: ms))) := by
            simp [memberChars, joinCommas]
          rw [hchars] at hfuel ⊢
          simp only [List.length_append, List.length_cons] at hfuel
          simp only [List.append_assoc, List.cons_append]
          obtain ⟨cs, hcs, hname⟩ := spelling?_quoted name
            (':' :: (x.chars ++ ',' :: (joinCommas (memberChars (m' :: ms)) ++ '\x7d' :: rest)))
          rw [hcs, Written.members_next hname (hx.value (by omega) (ends_comma _)),
            ih (List.cons_ne_nil _ _) hms (by omega)]
          rfl

/-- What is joined by commas begins as its first part does. -/
theorem head?_joinCommas {c : Char} (hc : isSpace c = false) (cs : List Char) (xs : List (List Char))
    (rest : List Char) : (skipSpaces (joinCommas ((c :: cs) :: xs) ++ rest)).head? = some c := by
  cases xs with
  | nil => rw [joinCommas, List.cons_append, skipSpaces_cons hc, List.head?_cons]
  | cons x xs =>
      rw [joinCommas, List.cons_append, List.cons_append, skipSpaces_cons hc, List.head?_cons]
      exact List.cons_ne_nil _ _

/-- **A value is read from its characters.** -/
theorem Writable.reads {depth : Nat} {j : Json} (h : Writable depth j) : Reads j := by
  induction h with
  | null => exact fun _ _ _ _ => rfl
  | @bool _ b => cases b <;> exact fun _ _ _ _ => rfl
  | int =>
      intro fuel rest _ hrest
      rw [chars_int, written]
      exact Written.value_number (Numeral.wellFormed_ofInt _) hrest fuel
  | float hx =>
      intro fuel rest _ hrest
      rw [chars_float hx, written]
      exact Written.value_number (wellFormed_float hx) hrest fuel
  | @str _ s =>
      intro fuel rest _ _
      obtain ⟨cs, hcs, hread⟩ := spelling?_quoted s rest
      rw [chars, written, hcs, Written.value_quote, hread]
      rfl
  | @arr _ xs hitems ih =>
      intro fuel rest hfuel _
      rw [chars, List.length_cons, List.length_append, List.length_singleton] at hfuel
      rw [chars, written, List.cons_append, List.append_assoc, List.singleton_append]
      cases xs with
      | nil => rfl
      | cons x xs =>
          have hopen : (skipSpaces (joinCommas (itemChars (x :: xs)) ++ ']' :: rest)).head? ≠ some ']' := by
            obtain ⟨c, cs, hcs, hspace, hclose⟩ := (hitems x List.mem_cons_self).exists_chars
            rw [itemChars, hcs, head?_joinCommas hspace]
            exact fun heq => hclose (Option.some.inj heq)
          rw [Written.value_bracket hopen, items_chars (List.cons_ne_nil _ _) ih rest (by omega)]
          rfl
  | @obj _ ms _ ih =>
      intro fuel rest hfuel _
      rw [chars, List.length_cons, List.length_append, List.length_singleton] at hfuel
      rw [chars, written, List.cons_append, List.append_assoc, List.singleton_append]
      cases ms with
      | nil => rfl
      | cons m ms =>
          have hopen : (skipSpaces (joinCommas (memberChars (m :: ms)) ++ '\x7d' :: rest)).head?
              ≠ some '\x7d' := by
            rw [memberChars, quoted, List.cons_append, head?_joinCommas (by decide)]
            decide
          rw [Written.value_brace hopen, members_chars (List.cons_ne_nil _ _) ih rest (by omega)]
          rfl

/-! ## What a written value means -/

theorem values?_writtenItems {depth : Nat} {xs : List Json}
    (h : ∀ x ∈ xs, Written.value? depth x.written = some x) :
    Written.values? depth (writtenItems xs) = some xs := by
  induction xs with
  | nil => rfl
  | cons x xs ih =>
      rw [List.forall_mem_cons] at h
      rw [writtenItems, Written.values?, h.1, ih h.2]

theorem entries?_writtenMembers {depth : Nat} {ms : List (String × Json)}
    (h : ∀ m ∈ ms, Written.value? depth m.2.written = some m.2) :
    Written.entries? depth (writtenMembers ms) = some ms := by
  induction ms with
  | nil => rfl
  | cons m ms ih =>
      rw [List.forall_mem_cons] at h
      rw [writtenMembers, Written.entries?, unescape?_spelling, h.1, ih h.2]
      dsimp only
      rw [String.ofList_toList]

/-- **What is written of a value means that value.** -/
theorem Writable.value?_written {depth : Nat} {j : Json} (h : Writable depth j) :
    Written.value? depth j.written = some j := by
  induction h with
  | null => rfl
  | bool => rfl
  | int hn => exact Numeral.value?_ofInt hn
  | float hx => exact Numeral.value?_ofDecimal hx
  | str =>
      rw [written, Written.value?, unescape?_spelling, Option.map_some, String.ofList_toList]
  | arr _ ih => rw [written, Written.value?, values?_writtenItems ih, Option.map_some]
  | obj _ ih => rw [written, Written.value?, entries?_writtenMembers ih, Option.map_some]

/-- A text is taken apart into what was written. -/
theorem Writable.ofText?_text {depth : Nat} {j : Json} (h : Writable depth j) :
    Written.ofText? j.text = some j.written := by
  have hread := h.reads j.chars.length [] le_rfl fun _ hc => by cases hc
  rw [List.append_nil] at hread
  rw [Written.ofText?, text, String.toList_ofList, hread]
  rfl

/-- **A value is read back from its text**, if it is nested no deeper than is read. -/
theorem ofText?_text {j : Json} (h : Writable maxDepth j) : ofText? j.text = some j := by
  rw [ofText?, h.ofText?_text, Option.bind_some, h.value?_written]

end Sheetwise.Json
