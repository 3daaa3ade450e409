import Sheetwise.Proofs.Spelling
import Sheetwise.Text.Numeral

/-!
# What is read as a double

A numeral is a sign, digits with a point among them, and an exponent, of which only a digit has to be
there. Every numeral is read as a double. Other texts are too, but none that has anything else in it than
letters, digits, points and signs: what is left of a text when its sign is taken off is either read digit
by digit or compared with a few words.
-/

namespace Sheetwise

/-! ## Numerals -/

/-- A sign that is written. -/
inductive Numeral.Sign where
  | plus
  | minus
deriving DecidableEq

namespace Numeral

/-- The characters of a sign, if there is one. -/
def signChars : Option Sign → List Char
  | none => []
  | some .plus => ['+']
  | some .minus => ['-']

/-- The characters of some digits. -/
def digitChars (ds : List (Fin 10)) : List Char := ds.map fun d : Fin 10 => Nat.digitChar d.val

/-- An exponent: a letter of either case, a sign and at least one digit. -/
structure Exponent where
  capital : Bool := true
  sign : Option Sign := none
  digits : List (Fin 10)
  someDigit : digits ≠ []

/-- The characters of an exponent. -/
def Exponent.chars (e : Exponent) : List Char :=
  (if e.capital then 'E' else 'e') :: (signChars e.sign ++ digitChars e.digits)

end Numeral

/-- A number as it is written, with at least one digit before or behind its point. -/
structure Numeral where
  sign : Option Numeral.Sign := none
  whole : List (Fin 10)
  /-- The digits behind the point, if there is one. -/
  fraction : Option (List (Fin 10)) := none
  exponent : Option Numeral.Exponent := none
  someDigit : whole ++ fraction.getD [] ≠ []

namespace Numeral

/-- The characters behind the digits of a number. -/
def tailChars (n : Numeral) : List Char := (n.exponent.map Exponent.chars).getD []

/-- The characters of a number without its sign. -/
def bodyChars (n : Numeral) : List Char :=
  match n.fraction with
  | some ds => digitChars n.whole ++ '.' :: (digitChars ds ++ n.tailChars)
  | none => digitChars n.whole ++ n.tailChars

/-- The characters of a number. -/
def chars (n : Numeral) : List Char := signChars n.sign ++ n.bodyChars

/-! ## Numerals are read -/

theorem isDigit_of_mem_digitChars {ds : List (Fin 10)} {c : Char} (h : c ∈ digitChars ds) :
    Text.isDigit c = true := by
  obtain ⟨d, -, rfl⟩ := List.mem_map.mp h
  exact (by decide : ∀ d : Fin 10, Text.isDigit (Nat.digitChar d.val) = true) d

theorem digitChars_ne_nil {ds : List (Fin 10)} (h : ds ≠ []) : digitChars ds ≠ [] :=
  mt List.map_eq_nil_iff.mp h

theorem exists_digits?_digitChars {ds : List (Fin 10)} (h : ds ≠ []) :
    ∃ n, Text.digits? (digitChars ds) = some n := by
  refine ⟨_, if_pos ⟨digitChars_ne_nil h, ?_⟩⟩
  exact List.all_eq_true.mpr fun c => isDigit_of_mem_digitChars

/-- What has no sign of its own is read behind a sign or without. -/
theorem exists_exponent? (sign : Option Sign) {ds : List (Fin 10)} (h : ds ≠ []) :
    ∃ e, Text.exponent? (signChars sign ++ digitChars ds) = some e := by
  obtain ⟨n, hn⟩ := exists_digits?_digitChars h
  match sign with
  | some .plus => exact ⟨n, by simp [signChars, Text.exponent?, hn]⟩
  | some .minus => exact ⟨-n, by simp [signChars, Text.exponent?, hn]⟩
  | none =>
      have hplain : ∀ c ∈ (digitChars ds).head?, c ≠ '-' ∧ c ≠ '+' := fun c hc =>
        Text.ne_sign_of_isDigit (isDigit_of_mem_digitChars (List.mem_of_mem_head? hc))
      rw [signChars, List.nil_append, Text.exponent?]
      · exact ⟨n, by simp [hn]⟩
      · exact fun cs hcs => (hplain '-' (by rw [hcs]; rfl)).1 rfl
      · exact fun cs hcs => (hplain '+' (by rw [hcs]; rfl)).2 rfl

/-- Behind the digits of a number there is nothing more, or an exponent. -/
def Tail (cs : List Char) : Prop :=
  cs = [] ∨ ∃ c tail e, cs = c :: tail ∧ (c = 'e' ∨ c = 'E') ∧ Text.exponent? tail = some e

theorem tail_tailChars (n : Numeral) : Tail n.tailChars := by
  unfold tailChars
  cases n.exponent with
  | none => exact Or.inl rfl
  | some e =>
      obtain ⟨x, hx⟩ := exists_exponent? e.sign e.someDigit
      refine Or.inr ⟨_, _, x, rfl, ?_, hx⟩
      cases e.capital with
      | false => exact Or.inl rfl
      | true => exact Or.inr rfl

theorem Tail.head? {cs : List Char} (h : Tail cs) : ∀ c ∈ cs.head?, Text.isDigit c = false ∧ c ≠ '.' := by
  rcases h with rfl | ⟨c, tail, e, rfl, hc, -⟩
  · exact fun c hc => by cases hc
  · rintro _ ⟨⟩
    rcases hc with rfl | rfl <;> decide

/-- With an exponent or without, there is a value. -/
theorem exists_value {cs : List Char} (h : Tail cs) (value : Int → Float) :
    ∃ x, (match cs with
      | [] => some (value 0)
      | c :: tail => if c = 'e' ∨ c = 'E' then (Text.exponent? tail).map value else none) = some x := by
  rcases h with rfl | ⟨c, tail, e, rfl, hc, he⟩
  · exact ⟨value 0, rfl⟩
  · exact ⟨value e, by dsimp only; rw [if_pos hc, he]; rfl⟩

/-- **A number without its sign is read**, whether it has a point and an exponent or not. -/
theorem exists_unsignedDecimal?_bodyChars (n : Numeral) (negative : Bool) :
    ∃ x, Text.unsignedDecimal? negative n.bodyChars = some x := by
  have hsome := n.someDigit
  have htail := tail_tailChars n
  have htailHead : ∀ c ∈ n.tailChars.head?, Text.isDigit c = false := fun c hc => (htail.head? c hc).1
  unfold bodyChars Text.unsignedDecimal?
  cases hfraction : n.fraction with
  | none =>
      rw [hfraction, Option.getD_none, List.append_nil] at hsome
      obtain ⟨hwhole, hrest⟩ := Text.span_digits (fun _ => isDigit_of_mem_digitChars) htailHead
      dsimp only
      rw [hwhole, hrest]
      split
      · next tail hpoint =>
        rw [hpoint] at htail
        exact absurd rfl (htail.head? '.' rfl).2
      · dsimp only
        rw [List.append_nil, if_neg (digitChars_ne_nil hsome)]
        exact exists_value htail fun e => Text.nearestDecimal negative _ (e - _)
  | some ds =>
      rw [hfraction, Option.getD_some] at hsome
      have hdigits : digitChars n.whole ++ digitChars ds ≠ [] := by
        have hne := digitChars_ne_nil hsome
        rwa [digitChars, List.map_append] at hne
      have hpoint : ∀ c ∈ ('.' :: (digitChars ds ++ n.tailChars)).head?, Text.isDigit c = false := by
        rintro _ ⟨⟩
        decide
      obtain ⟨hwhole, hafter⟩ := Text.span_digits (fun _ => isDigit_of_mem_digitChars) hpoint
      obtain ⟨hbehind, hrest⟩ := Text.span_digits (fun _ => isDigit_of_mem_digitChars) htailHead
      dsimp only
      rw [hwhole, hafter]
      split
      · next tail hbehindPoint =>
        cases hbehindPoint
        dsimp only
        rw [hbehind, hrest, if_neg hdigits]
        exact exists_value htail fun e => Text.nearestDecimal negative _ (e - _)
      · next hnoPoint => exact absurd rfl (hnoPoint _)

/-- A number without its sign begins with a digit or with its point. -/
theorem head?_bodyChars (n : Numeral) : ∀ c ∈ n.bodyChars.head?, c ≠ '-' ∧ c ≠ '+' := by
  have hdigit (d : Fin 10) : Nat.digitChar d.val ≠ '-' ∧ Nat.digitChar d.val ≠ '+' := by
    revert d
    decide
  have hsome := n.someDigit
  unfold bodyChars
  cases hwhole : n.whole with
  | cons d ds =>
      cases n.fraction <;> rintro _ ⟨⟩ <;> exact hdigit d
  | nil =>
      -- without a digit before it there is a point
      cases hfraction : n.fraction with
      | none =>
          rw [hwhole, hfraction] at hsome
          exact absurd rfl hsome
      | some ds =>
          rintro _ ⟨⟩
          decide

/-- **Every number that is written is read as a double.** -/
theorem exists_float? (n : Numeral) : ∃ x, Text.float? (String.ofList n.chars) = some x := by
  have hread (negative : Bool) : ∃ x, (Text.unsignedDecimal? negative n.bodyChars).or
      (Text.numberWord? negative n.bodyChars) = some x := by
    obtain ⟨x, hx⟩ := exists_unsignedDecimal?_bodyChars n negative
    exact ⟨x, by rw [hx]; rfl⟩
  unfold chars Text.float?
  rw [String.toList_ofList]
  match n.sign with
  | some .plus => exact hread false
  | some .minus => exact hread true
  | none =>
      dsimp only [signChars, List.nil_append]
      split
      · next cs hcs => exact absurd rfl (n.head?_bodyChars '-' (by rw [hcs]; rfl)).1
      · next cs hcs => exact absurd rfl (n.head?_bodyChars '+' (by rw [hcs]; rfl)).2
      · exact hread false

end Numeral

/-! ## What is not read -/

namespace Text

/-- The characters of which texts are made that are read as doubles. -/
def isReadable (c : Char) : Bool := isPlain c || c == '.' || c == '+' || c == '-'

theorem isReadable_of_isDigit {c : Char} (h : isDigit c = true) : isReadable c = true := by
  rw [isReadable, isPlain, h, Bool.or_true]
  rfl

theorem isReadable_of_exponent? {cs : List Char} {e : Int} (h : exponent? cs = some e) :
    ∀ c ∈ cs, isReadable c = true := by
  have hread {cs : List Char} (h : digits? cs ≠ none) : ∀ c ∈ cs, isReadable c = true := by
    obtain ⟨n, hn⟩ := Option.ne_none_iff_exists'.mp h
    exact fun c hc => isReadable_of_isDigit ((isDigit_of_digits? hn).2 c hc)
  unfold exponent? at h
  split at h
  · exact List.forall_mem_cons.mpr ⟨by decide, hread fun hnone => by rw [hnone] at h; cases h⟩
  · exact List.forall_mem_cons.mpr ⟨by decide, hread fun hnone => by rw [hnone] at h; cases h⟩
  · exact hread fun hnone => by rw [hnone] at h; cases h

/-- Digits are readable, so a text is if what is left of it behind its first digits is. -/
theorem isReadable_of_dropWhile {cs : List Char}
    (h : ∀ c ∈ cs.dropWhile isDigit, isReadable c = true) : ∀ c ∈ cs, isReadable c = true := by
  intro c hc
  rw [← List.takeWhile_append_dropWhile (p := isDigit) (l := cs), List.mem_append] at hc
  rcases hc with hc | hc
  · exact isReadable_of_isDigit (List.mem_takeWhile_imp hc)
  · exact h c hc

theorem isReadable_of_unsignedDecimal? {negative : Bool} {cs : List Char} {x : Float}
    (h : unsignedDecimal? negative cs = some x) : ∀ c ∈ cs, isReadable c = true := by
  have htail (value : Int → Float) {rest : List Char}
      (h : (match rest with
        | [] => some (value 0)
        | c :: tail => if c = 'e' ∨ c = 'E' then (exponent? tail).map value else none) = some x) :
      ∀ c ∈ rest, isReadable c = true := by
    cases rest with
    | nil => exact List.forall_mem_nil _
    | cons c tail =>
        dsimp only at h
        split at h
        · next hc =>
          obtain ⟨e, he, -⟩ := Option.map_eq_some_iff.mp h
          refine List.forall_mem_cons.mpr ⟨?_, isReadable_of_exponent? he⟩
          rcases hc with rfl | rfl <;> decide
        · cases h
  refine isReadable_of_dropWhile ?_
  unfold unsignedDecimal? at h
  dsimp only at h
  split at h
  · next tail hpoint =>
    rw [hpoint]
    dsimp only at h
    split at h
    · cases h
    · have hbehind := htail (fun e => nearestDecimal negative _ (e - _)) h
      exact List.forall_mem_cons.mpr ⟨by decide, isReadable_of_dropWhile hbehind⟩
  · dsimp only at h
    split at h
    · cases h
    · exact htail (fun e => nearestDecimal negative _ (e - _)) h

/-- Only letters have a small letter. -/
theorem isLetter_of_toLower {c : Char} (h : isLetter c.toLower = true) : isLetter c = true := by
  by_cases hcapital : 'A' ≤ c ∧ c ≤ 'Z'
  · rw [isLetter, decide_eq_true hcapital.1, decide_eq_true hcapital.2]
    exact Bool.or_true _
  · have hlower : c.toLower = c := dif_neg hcapital
    rwa [hlower] at h

theorem isReadable_of_numberWord? {negative : Bool} {cs : List Char} {x : Float}
    (h : numberWord? negative cs = some x) : ∀ c ∈ cs, isReadable c = true := by
  have hletters : (String.ofList (cs.map Char.toLower)).toList.all isLetter = true := by
    unfold numberWord? at h
    dsimp only at h
    split at h
    · next hinf => rcases hinf with hinf | hinf <;> rw [hinf] <;> decide
    · split at h
      · next hnan =>
        rw [hnan]
        decide
      · cases h
  rw [String.toList_ofList, List.all_map, List.all_eq_true] at hletters
  intro c hc
  rw [isReadable, isPlain, isLetter_of_toLower (hletters c hc)]
  rfl

/-- **A text that is read as a double is made of letters, digits, points and signs.** -/
theorem isReadable_of_float? {s : String} {x : Float} (h : float? s = some x) :
    ∀ c ∈ s.toList, isReadable c = true := by
  have hread {negative : Bool} {cs : List Char}
      (h : (unsignedDecimal? negative cs).or (numberWord? negative cs) = some x) :
      ∀ c ∈ cs, isReadable c = true := by
    rcases Option.or_eq_some_iff.mp h with h | ⟨-, h⟩
    · exact isReadable_of_unsignedDecimal? h
    · exact isReadable_of_numberWord? h
  unfold float? at h
  dsimp only at h
  split at h
  · next hs =>
    rw [hs]
    exact List.forall_mem_cons.mpr ⟨by decide, hread h⟩
  · next hs =>
    rw [hs]
    exact List.forall_mem_cons.mpr ⟨by decide, hread h⟩
  · exact hread h

end Text

end Sheetwise
