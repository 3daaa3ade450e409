import Sheetwise.Proofs.Listing
import Sheetwise.Proofs.Numerals
import Sheetwise.SeriesFormula

/-!
# Series formulas that are written and read

The names of sheets and the texts in a formula may have commas in them, brackets, and quotes of the other
kind. The scan that looks for the ends of arguments keeps track of both kinds of quotes and of the depth in
brackets. Each part of an argument leaves that state as it found it: what is bare never changes it, quotes
turn quoting on and off again, also where one inside is written twice, and brackets close what they open.
Between the parts of an argument there are commas only inside its brackets. So the first comma that the
scan takes for an end is the one behind the argument, and what it has read by then is the argument.

Whether an argument is a reference is seen from its first character, but for numbers. Nothing that names a
sheet is a number, because of the mark behind the name.
-/

namespace Sheetwise.SeriesFormula

/-! ## Formulas as they are written -/

/-- A character that stands for itself: it is no blank, and it does not quote, bracket or separate. -/
def isBare (c : Char) : Bool :=
  !Text.isBlank c && !(['\'', '"', '(', ')', '\x7b', '\x7d', ','].contains c)

theorem isBare_iff {c : Char} : isBare c = true ↔ Text.isBlank c = false ∧ c ≠ '\'' ∧ c ≠ '"' ∧ c ≠ '('
    ∧ c ≠ ')' ∧ c ≠ '\x7b' ∧ c ≠ '\x7d' ∧ c ≠ ',' := by
  simp [isBare]

theorem isBare_of_isReadable {c : Char} (h : Text.isReadable c = true) : isBare c = true := by
  have hmarks : ∀ c ∈ ['\'', '"', '(', ')', '\x7b', '\x7d', ','], Text.isReadable c = false := by
    simp [Text.isReadable, Text.isPlain, Text.isLetter, Text.isDigit]
  have hother : ['\'', '"', '(', ')', '\x7b', '\x7d', ','].contains c = false := by
    rw [List.contains_eq_mem, decide_eq_false_iff_not]
    intro hmem
    rw [hmarks c hmem] at h
    cases h
  have hblank : Text.isBlank c = false := by
    simp only [Text.isReadable, Bool.or_eq_true, beq_iff_eq] at h
    rcases h with ((h | rfl) | rfl) | rfl
    · exact Text.isBlank_of_isPlain h
    all_goals decide
  rw [isBare, hblank, hother]
  rfl

/-- Text that needs no quotes, such as letters, digits, underscores and points. -/
structure Bare where
  chars : List Char
  bare : ∀ c ∈ chars, isBare c = true

/-- A given text that is found to need no quotes. -/
def Bare.ofText (text : String) (h : text.toList.all isBare = true := by decide) : Bare where
  chars := text.toList
  bare := List.all_eq_true.mp h

/-- The name of a sheet, bare or in apostrophes. -/
inductive SheetName where
  | bare (name : Bare)
  | quoted (name : List Char)

/-- A range on a sheet. -/
structure Area where
  sheet : SheetName
  range : Bare

/-- A number or a text. -/
inductive Constant where
  | number (n : Numeral)
  | text (cs : List Char)

/-- An argument of a formula: an array is given by its rows. -/
inductive Argument where
  | empty
  | constant (c : Constant)
  | array (rows : List (List Constant))
  | area (a : Area)
  | areas (first : Area) (rest : List Area)

/-- The characters of a name, in which an apostrophe is written twice if there are apostrophes around it. -/
def SheetName.chars : SheetName → List Char
  | bare name => name.chars
  | quoted name => Reference.quoteName name

/-- The characters of an area. -/
def Area.chars (a : Area) : List Char := a.sheet.chars ++ '!' :: a.range.chars

/-- The characters of a constant; a quotation mark in a text is written twice. -/
def Constant.chars : Constant → List Char
  | number n => n.chars
  | text cs => '"' :: (Text.double '"' cs ++ ['"'])

/-- The characters of a row of an array. -/
def rowChars (row : List Constant) : List Char := [','].intercalate (row.map Constant.chars)

/-- The characters of an argument. -/
def Argument.chars : Argument → List Char
  | empty => []
  | constant c => c.chars
  | array rows => '\x7b' :: ([';'].intercalate (rows.map rowChars) ++ ['\x7d'])
  | area a => a.chars
  | areas first rest => '(' :: ([','].intercalate ((first :: rest).map Area.chars) ++ [')'])

/-- Whether an argument refers to cells. -/
def Argument.isReference : Argument → Bool
  | area _ | areas .. => true
  | _ => false

/-- The text of an argument, if it is a reference. -/
def Argument.reference? (a : Argument) : Option String :=
  if a.isReference then some (String.ofList a.chars) else none

/-- The characters of the arguments of a formula; the last one is the place of the series in the chart. -/
def argumentChars (name x y : Argument) (order : Nat) : List (List Char) :=
  [name.chars, x.chars, y.chars, Text.digitsOf order]

/-- The word that a series formula begins with. -/
def word : List Char := ['S', 'E', 'R', 'I', 'E', 'S']

/-- A series formula as text. -/
def formula (name x y : Argument) (order : Nat) : String :=
  String.ofList ('=' :: (word ++ '(' :: ([','].intercalate (argumentChars name x y order) ++ [')'])))

/-! ## The state of the scan -/

/-- The scan is outside quotes, in so many brackets. -/
def within (depth : Nat) : Nesting := { depth }

theorem separates_of_ne {n : Nesting} {c : Char} (h : c ≠ ',') : n.separates c = false := by
  rw [Nesting.separates, beq_false_of_ne h]
  rfl

theorem separates_within_succ (depth : Nat) (c : Char) : (within (depth + 1)).separates c = false := by
  rw [Nesting.separates]
  exact Bool.and_false _

/-- From one state of the scan to another, some characters are read, and none of them separates. -/
inductive Passes : Nesting → List Char → Nesting → Prop where
  | nil (n : Nesting) : Passes n [] n
  | cons {n last : Nesting} {c : Char} {cs : List Char} : n.separates c = false →
      Passes (n.after c) cs last → Passes n (c :: cs) last

namespace Passes

variable {n m last : Nesting} {cs rest : List Char}

theorem append (h : Passes n cs m) (hrest : Passes m rest last) : Passes n (cs ++ rest) last := by
  induction h with
  | nil n => exact hrest
  | cons hc _ ih => exact .cons hc (ih hrest)

theorem singleton {c : Char} (hc : n.separates c = false) (h : n.after c = m) : Passes n [c] m :=
  .cons hc (h ▸ .nil m)

/-- What leaves the state as it is may be repeated, with something between that leaves it too. -/
theorem intercalate {sep : Char} {parts : List (List Char)} (hsep : Passes n [sep] n)
    (h : ∀ p ∈ parts, Passes n p n) : Passes n ([sep].intercalate parts) n := by
  induction parts with
  | nil => exact .nil n
  | cons p parts ih =>
      obtain ⟨hp, hparts⟩ := List.forall_mem_cons.mp h
      cases parts with
      | nil => rwa [List.intercalate_singleton]
      | cons q parts =>
          rw [List.intercalate_cons_cons]
          exact (hp.append hsep).append (ih hparts)

/-- Bare text leaves every state as it is, also that inside quotes. -/
theorem of_bare (h : ∀ c ∈ cs, isBare c = true) (n : Nesting) : Passes n cs n := by
  induction cs with
  | nil => exact .nil n
  | cons c cs ih =>
      obtain ⟨hc, hcs⟩ := List.forall_mem_cons.mp h
      obtain ⟨-, happ, hquot, hop, hcl, hopb, hclb, hcomma⟩ := isBare_iff.mp hc
      have hafter : n.after c = n := by
        simp [Nesting.after, happ, hquot, hop, hcl, hopb, hclb]
      refine .cons (separates_of_ne hcomma) ?_
      rw [hafter]
      exact ih hcs

end Passes

/-- A character that turns from one state of the scan into another, where all but it is quoted, and back. -/
structure Quotes (q : Char) (n m : Nesting) : Prop where
  starts : n.separates q = false
  opens : n.after q = m
  closes : m.after q = n
  keeps : ∀ c, c ≠ q → m.after c = m
  hides : ∀ c, m.separates c = false

theorem quotes_apostrophe (depth : Nat) :
    Quotes '\'' (within depth) { inApostrophes := true, depth } where
  starts := separates_of_ne (by decide)
  opens := rfl
  closes := rfl
  keeps c hc := by
    simp [Nesting.after, Nesting.isOpen, hc]
  hides c := by
    simp [Nesting.separates, Nesting.isOpen]

theorem quotes_mark (depth : Nat) : Quotes '"' (within depth) { inQuotes := true, depth } where
  starts := separates_of_ne (by decide)
  opens := rfl
  closes := rfl
  keeps c hc := by
    simp [Nesting.after, Nesting.isOpen, hc]
  hides c := by
    simp [Nesting.separates, Nesting.isOpen]

namespace Passes

variable {n m : Nesting} {q : Char}

/-- Two quotes leave the text after them quoted, and so does anything else that is quoted. -/
theorem double (h : Quotes q n m) (cs : List Char) : Passes m (Text.double q cs) m := by
  induction cs with
  | nil => exact .nil m
  | cons c cs ih =>
      rw [Text.double_cons]
      refine append ?_ ih
      by_cases hc : c = q
      · -- quoting goes off and on again with nothing in between
        rw [if_pos hc]
        exact .cons (h.hides q) (h.closes ▸ singleton h.starts h.opens)
      · rw [if_neg hc]
        exact singleton (h.hides c) (h.keeps c hc)

/-- **A text in quotes leaves the state as it is, whatever it is made of.** -/
theorem quoted (h : Quotes q n m) (cs : List Char) :
    Passes n (q :: (Text.double q cs ++ [q])) n := by
  refine .cons h.starts ?_
  rw [h.opens]
  exact (double h cs).append (singleton (h.hides q) h.closes)

/-- Brackets are left where they were entered, and inside them commas do not separate. -/
theorem bracketed {opening closing : Char} {cs : List Char} {depth : Nat} (hne : opening ≠ ',')
    (hopens : (within depth).after opening = within (depth + 1))
    (hcloses : (within (depth + 1)).after closing = within depth)
    (h : Passes (within (depth + 1)) cs (within (depth + 1))) :
    Passes (within depth) (opening :: (cs ++ [closing])) (within depth) := by
  refine .cons (separates_of_ne hne) ?_
  rw [hopens]
  exact h.append (singleton (separates_within_succ depth closing) hcloses)

end Passes

/-! ## Arguments are passed -/

theorem bare_numeral (n : Numeral) : ∀ c ∈ n.chars, isBare c = true := by
  obtain ⟨x, hx⟩ := n.exists_float?
  have hread := Text.isReadable_of_float? hx
  rw [String.toList_ofList] at hread
  exact fun c hc => isBare_of_isReadable (hread c hc)

theorem Constant.passes (c : Constant) (depth : Nat) : Passes (within depth) c.chars (within depth) := by
  cases c with
  | number n => exact .of_bare (bare_numeral n) _
  | text cs => exact .quoted (quotes_mark depth) cs

theorem Area.passes (a : Area) (depth : Nat) : Passes (within depth) a.chars (within depth) := by
  have hrange : Passes (within depth) ('!' :: a.range.chars) (within depth) :=
    .of_bare (List.forall_mem_cons.mpr ⟨by decide, a.range.bare⟩) _
  refine .append ?_ hrange
  cases a.sheet with
  | bare name => exact .of_bare name.bare _
  | quoted name => exact .quoted (quotes_apostrophe depth) name

theorem passes_rowChars (row : List Constant) (depth : Nat) :
    Passes (within (depth + 1)) (rowChars row) (within (depth + 1)) := by
  refine .intercalate (.singleton (separates_within_succ depth ',') rfl) fun p hp => ?_
  obtain ⟨c, -, rfl⟩ := List.mem_map.mp hp
  exact c.passes (depth + 1)

/-- **The scan is where it was behind an argument**, and has met no comma that separates. -/
theorem Argument.passes (a : Argument) : Passes (within 0) a.chars (within 0) := by
  cases a with
  | empty => exact .nil _
  | constant c => exact c.passes 0
  | area a => exact a.passes 0
  | array rows =>
      refine .bracketed (by decide) rfl rfl ?_
      refine .intercalate (.singleton (separates_within_succ 0 ';') rfl) fun p hp => ?_
      obtain ⟨row, -, rfl⟩ := List.mem_map.mp hp
      exact passes_rowChars row 0
  | areas first rest =>
      refine .bracketed (by decide) rfl rfl ?_
      refine .intercalate (.singleton (separates_within_succ 0 ',') rfl) fun p hp => ?_
      obtain ⟨a, -, rfl⟩ := List.mem_map.mp hp
      exact a.passes 1

theorem passes_digitsOf (order : Nat) : Passes (within 0) (Text.digitsOf order) (within 0) := by
  refine .of_bare (fun c hc => ?_) _
  exact isBare_of_isReadable (Text.isReadable_of_isDigit (Text.isDigit_of_mem_digitsOf hc))

/-! ## Arguments are cut where they end -/

theorem splitArguments_append {n m : Nesting} {cs rest arg : List Char} {args : List (List Char)}
    (h : Passes n cs m) (hrest : splitArguments m rest = arg :: args) :
    splitArguments n (cs ++ rest) = (cs ++ arg) :: args := by
  induction h with
  | nil n => exact hrest
  | cons hc _ ih =>
      rw [List.cons_append, splitArguments, if_neg (by rw [hc]; decide), ih hrest]
      rfl

/-- Arguments are cut where they were joined. -/
theorem splitArguments_intercalate {args : List (List Char)} (hne : args ≠ [])
    (h : ∀ a ∈ args, Passes (within 0) a (within 0)) :
    splitArguments (within 0) ([','].intercalate args) = args := by
  induction args with
  | nil => exact absurd rfl hne
  | cons a args ih =>
      obtain ⟨ha, hargs⟩ := List.forall_mem_cons.mp h
      cases args with
      | nil => rw [List.intercalate_singleton, ← List.append_nil a, splitArguments_append ha rfl]
      | cons b args =>
          have hrest : splitArguments (within 0) (',' :: [','].intercalate (b :: args))
              = [] :: b :: args := by
            rw [splitArguments, if_pos (by decide), ih (List.cons_ne_nil b args) hargs]
          rw [List.intercalate_cons_cons, List.append_assoc, List.singleton_append,
            splitArguments_append ha hrest, List.append_nil]

theorem splitArguments_argumentChars (name x y : Argument) (order : Nat) :
    splitArguments (within 0) ([','].intercalate (argumentChars name x y order))
      = argumentChars name x y order := by
  refine splitArguments_intercalate (List.cons_ne_nil _ _) ?_
  simp only [argumentChars, List.forall_mem_cons]
  exact ⟨name.passes, x.passes, y.passes, passes_digitsOf order, List.forall_mem_nil _⟩

/-! ## Which arguments are references -/

theorem trimChars_of_bare {cs : List Char} (h : ∀ c ∈ cs, isBare c = true) :
    Text.trimChars cs = cs :=
  Text.trimChars_eq_self (fun c hc => (isBare_iff.mp (h c (List.mem_of_mem_head? hc))).1)
    fun c hc => (isBare_iff.mp (h c (List.mem_of_getLast? hc))).1

theorem reference?_of_trimmed {c : Char} {cs : List Char} (h : Text.trimChars (c :: cs) = c :: cs) :
    reference? (c :: cs) = if c = '"' ∨ c = '\x7b' ∨ (Text.float? (String.ofList (c :: cs))).isSome
      then none else some (String.ofList (c :: cs)) := by
  rw [reference?, h, String.toList_ofList]

/-- The first character of an area does not quote a text or open an array. -/
theorem Area.head? (a : Area) :
    ∀ c ∈ a.chars.head?, Text.isBlank c = false ∧ c ≠ '"' ∧ c ≠ '\x7b' := by
  unfold Area.chars
  cases a.sheet with
  | quoted name =>
      rintro _ ⟨⟩
      decide
  | bare name =>
      rcases hname : name.chars with _ | ⟨d, ds⟩
      · rw [SheetName.chars, hname]
        rintro _ ⟨⟩
        decide
      · rw [SheetName.chars, hname]
        rintro _ ⟨⟩
        have hbare := name.bare d (hname ▸ List.mem_cons_self)
        obtain ⟨hblank, -, hmark, -, -, hbrace, -⟩ := isBare_iff.mp hbare
        exact ⟨hblank, hmark, hbrace⟩

theorem Area.trimChars_chars (a : Area) : Text.trimChars a.chars = a.chars := by
  refine Text.trimChars_eq_self (fun c hc => (a.head? c hc).1) fun c hc => ?_
  rw [Area.chars, List.getLast?_append_of_ne_nil _ (List.cons_ne_nil _ _)] at hc
  have hbare : ∀ c ∈ '!' :: a.range.chars, isBare c = true :=
    List.forall_mem_cons.mpr ⟨by decide, a.range.bare⟩
  exact (isBare_iff.mp (hbare c (List.mem_of_getLast? hc))).1

/-- What names a sheet is not read as a number. -/
theorem float?_of_mark {cs : List Char} (h : '!' ∈ cs) : Text.float? (String.ofList cs) = none := by
  cases hfloat : Text.float? (String.ofList cs) with
  | none => rfl
  | some x =>
      have hread := Text.isReadable_of_float? hfloat '!' (by rwa [String.toList_ofList])
      exact absurd hread (by decide)

theorem Area.mark_mem (a : Area) : '!' ∈ a.chars := List.mem_append_right _ List.mem_cons_self

theorem reference?_of_float? {cs : List Char} {x : Float} (htrim : Text.trimChars cs = cs)
    (hfloat : Text.float? (String.ofList cs) = some x) : reference? cs = none := by
  cases cs with
  | nil => rfl
  | cons c cs =>
      rw [reference?_of_trimmed htrim, hfloat]
      exact if_pos (Or.inr (Or.inr rfl))

theorem reference?_eq_some {cs : List Char} (htrim : Text.trimChars cs = cs) (hmark : '!' ∈ cs)
    (hhead : ∀ c ∈ cs.head?, c ≠ '"' ∧ c ≠ '\x7b') : reference? cs = some (String.ofList cs) := by
  obtain ⟨c, cs, rfl⟩ := List.exists_cons_of_ne_nil (List.ne_nil_of_mem hmark)
  obtain ⟨hquote, hbrace⟩ := hhead c rfl
  rw [reference?_of_trimmed htrim, float?_of_mark hmark]
  exact if_neg (by simp [hquote, hbrace])

/-- **Of an argument, its text is kept if it is a reference, and else nothing.** -/
theorem Argument.reference?_chars (a : Argument) :
    SeriesFormula.reference? a.chars = a.reference? := by
  cases a with
  | empty => rfl
  | constant c =>
      cases c with
      | text cs =>
          exact (reference?_of_trimmed (Text.trimChars_enclosed (by decide) (by decide) _)).trans
            (if_pos (Or.inl rfl))
      | number n =>
          obtain ⟨x, hx⟩ := n.exists_float?
          exact reference?_of_float? (trimChars_of_bare (bare_numeral n)) hx
  | array rows =>
      exact (reference?_of_trimmed (Text.trimChars_enclosed (by decide) (by decide) _)).trans
        (if_pos (Or.inr (Or.inl rfl)))
  | area a =>
      exact reference?_eq_some a.trimChars_chars a.mark_mem fun c hc => (a.head? c hc).2
  | areas first rest =>
      refine reference?_eq_some (Text.trimChars_enclosed (by decide) (by decide) _) ?_ ?_
      · refine List.mem_cons_of_mem _ (List.mem_append_left _ ?_)
        rw [List.map_cons]
        cases rest with
        | nil =>
            rw [List.map_nil, List.intercalate_singleton]
            exact first.mark_mem
        | cons a rest =>
            rw [List.map_cons, List.intercalate_cons_cons]
            exact List.mem_append_left _ (List.mem_append_left _ first.mark_mem)
      · rintro _ ⟨⟩
        decide

/-! ## Formulas -/

/-- What stands behind the word of a formula is read as arguments if it is in brackets. -/
theorem ofChars?_of_inner (inner : List Char) :
    ofChars? ('=' :: (word ++ '(' :: (inner ++ [')'])))
      = some (let args := splitArguments (within 0) inner
          { name := args[0]?.bind reference?, x := args[1]?.bind reference?,
            y := args[2]?.bind reference? }) := by
  have hstart : (word ++ '(' :: (inner ++ [')'])).head? = some 'S' := rfl
  have hend : (word ++ '(' :: (inner ++ [')'])).getLast? = some ')' := by
    rw [← List.cons_append, ← List.append_assoc, List.getLast?_concat]
  have houter : Text.trimChars ('=' :: (word ++ '(' :: (inner ++ [')'])))
      = '=' :: (word ++ '(' :: (inner ++ [')'])) := by
    have hend' : ('=' :: (word ++ '(' :: (inner ++ [')']))).getLast? = some ')' := by
      rw [List.getLast?_cons, hend]
      rfl
    exact Text.trimChars_of_ends rfl hend' (by decide) (by decide)
  have hbody : Text.trimChars (word ++ '(' :: (inner ++ [')']))
      = word ++ '(' :: (inner ++ [')']) :=
    Text.trimChars_of_ends hstart hend (by decide) (by decide)
  have hequals : ('=' :: (word ++ '(' :: (inner ++ [')']))).dropWhile (· = '=')
      = word ++ '(' :: (inner ++ [')']) := by
    simp [word]
  have hname : (word ++ '(' :: (inner ++ [')'])).takeWhile (· ≠ '(') = word := by
    simp [word]
  have hrest : (word ++ '(' :: (inner ++ [')'])).dropWhile (· ≠ '(') = '(' :: (inner ++ [')']) := by
    simp [word]
  have hword : (Text.trimChars word).map Char.toUpper = "SERIES".toList := by decide
  unfold ofChars?
  dsimp only
  rw [houter, hequals, hbody, hname, hrest]
  dsimp only
  rw [if_pos ⟨hword, hend⟩, List.dropLast_concat]
  rfl

/--
**A series formula is read as it was written.** Whatever its first three arguments are, and whatever the
names of sheets and the texts in them are made of, the formula is read, and of each argument its own text
is kept if it is a reference, and nothing if it is empty, a number, a text or an array.
-/
theorem parse?_formula (name x y : Argument) (order : Nat) :
    parse? (formula name x y order)
      = some { name := name.reference?, x := x.reference?, y := y.reference? } := by
  unfold parse? formula
  rw [String.toList_ofList, ofChars?_of_inner, splitArguments_argumentChars]
  show some (SeriesRefs.mk (SeriesFormula.reference? name.chars) (SeriesFormula.reference? x.chars)
    (SeriesFormula.reference? y.chars)) = _
  rw [name.reference?_chars, x.reference?_chars, y.reference?_chars]

/-- Areas on two sheets, one of them with a comma, quotes and a bracket in its name. -/
def hostileAreas : Argument :=
  .areas ⟨.quoted "Q1, \"Sales\" (it's".toList, .ofText "$A$2:$A$3"⟩
    [⟨.bare (.ofText "Sheet_2.b"), .ofText "A5"⟩]

/-- An array of two rows, with a number in the first and nothing but quotes and a brace in the second. -/
def hostileArray : Argument :=
  .array [
    [.text "a, 'b".toList,
      .number { sign := some .minus, whole := [1], fraction := some [5], someDigit := by decide }],
    [.text "\"\x7d".toList]]

example : formula .empty hostileAreas hostileArray 12
    = "=SERIES(,('Q1, \"Sales\" (it''s'!$A$2:$A$3,Sheet_2.b!A5),"
      ++ "\x7b\"a, 'b\",-1.5;\"\"\"\x7d\"\x7d,12)" := by
  decide +kernel

end Sheetwise.SeriesFormula
