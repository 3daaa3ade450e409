import Sheetwise.Text.Basic

/-!
# Tokens of markup

Markup is read as a sequence of bytes. It falls into runs of text and what stands between angle
brackets: start tags, end tags, and items that carry no data, such as comments. Every byte belongs to
some token, and each token ends where the next begins, so one pass suffices and nothing is reread.
-/

namespace Sheetwise.Markup

/-- A sequence of bytes. -/
abbrev Bytes := List UInt8

/-- The byte of an ASCII character. -/
def byte (c : Char) : UInt8 := c.toNat.toUInt8

/-- The bytes of an ASCII text. -/
def bytes (s : String) : Bytes := s.toList.map byte

/-- The blanks of markup. -/
def isBlank (b : UInt8) : Bool := (bytes " \t\r\n").contains b

/-- A piece of markup. -/
inductive Token where
  /-- A run of text between two items of markup. -/
  | text (run : Bytes)
  /-- What stands between the brackets of a start tag, with the slash of one that is its own end. -/
  | opening (body : Bytes)
  /-- What stands between the slash and the closing bracket of an end tag. -/
  | closing (body : Bytes)
  /-- A comment, an instruction, a document type or a section of character data: nothing to read. -/
  | skipped
  /-- Markup that cannot be read, with all that follows. -/
  | illFormed
deriving DecidableEq, Repr

/-- Whether text starts with a word of ASCII characters, in any case. -/
def startsWith (word : String) (bs : Bytes) : Bool :=
  let lower (b : UInt8) : UInt8 := if byte 'A' ≤ b ∧ b ≤ byte 'Z' then b + 32 else b
  (bs.take word.length).map lower == (bytes word).map lower

/--
A tag up to the first closing bracket that is not between quotation marks, and what follows that
bracket. A tag cut off by the end of the text is taken as it is.
-/
def tagBody (quote : Option UInt8) : Bytes → Bytes × Bytes
  | [] => ([], [])
  | b :: rest =>
    if quote = none ∧ b = byte '>' then ([], rest)
    else
      let quote := match quote with
        | some q => if b = q then none else some q
        | none => if b = byte '"' ∨ b = byte '\'' then some b else none
      let (body, after) := tagBody quote rest
      (b :: body, after)

/--
An item up to the first closing bracket at which it may end, and what follows that bracket. Whether it
may end there is asked of what comes before, last byte first.
-/
def itemBody (mayEnd : Bytes → Bool) (seen : Bytes) : Bytes → Option (Bytes × Bytes)
  | [] => none
  | b :: rest =>
    if b = byte '>' ∧ mayEnd seen then some (seen.reverse, rest)
    else itemBody mayEnd (b :: seen) rest

/-- The token of an item that starts with an exclamation mark, and what follows it. -/
def item (mayEnd isItem : Bytes → Bool) (bs : Bytes) : Token × Bytes :=
  match itemBody mayEnd [] bs with
  | some (body, after) => (if isItem body then .skipped else .illFormed, after)
  | none => (.illFormed, [])

/-- Whether a comment may end after some bytes, last byte first: its two pairs of dashes are apart. -/
def commentMayEnd (seen : Bytes) : Bool :=
  decide (3 < seen.length) && seen.take 2 == bytes "--"

/-- Whether a document type may end after some bytes: every bracket in it is closed. -/
def doctypeMayEnd (seen : Bytes) : Bool := seen.count (byte '<') == seen.count (byte '>')

/-- Whether an item is a document type that says something. -/
def isDoctype (body : Bytes) : Bool :=
  startsWith "DOCTYPE" body && (body.drop 7).any fun b => !isBlank b

/-- The token after an opening bracket and an exclamation mark, and what follows it. -/
def declaration (bs : Bytes) : Token × Bytes :=
  match bs.head? with
  | none => (.illFormed, [])
  | some b =>
    if b = byte '-' then item commentMayEnd (startsWith "--") bs
    else if b = byte '[' then item (fun seen => seen.take 2 == bytes "]]") (startsWith "[CDATA[") bs
    else if b = byte 'D' ∨ b = byte 'd' then item doctypeMayEnd isDoctype bs
    else (.illFormed, [])

/-- Whether the text after an opening bracket and a question mark ends as an instruction does. -/
def isInstruction (body : Bytes) : Bool :=
  decide (2 ≤ body.length) && body.getLast? == some (byte '?')

/-- The token after an opening bracket and the byte `b`, and what follows it. -/
def tagged (b : UInt8) (rest : Bytes) : Token × Bytes :=
  if b = byte '!' then declaration rest
  else if b = byte '/' then (.closing (Text.before (byte '>') rest), Text.after (byte '>') rest)
  else if b = byte '?' then
    (if isInstruction (Text.before (byte '>') rest) then .skipped else .illFormed,
      Text.after (byte '>') rest)
  else
    let (body, after) := tagBody none (b :: rest)
    (.opening body, after)

theorem length_tagBody_le (quote : Option UInt8) (bs : Bytes) :
    (tagBody quote bs).2.length ≤ bs.length := by
  induction bs generalizing quote with
  | nil => simp [tagBody]
  | cons b rest ih =>
    unfold tagBody
    split
    · simp
    · exact Nat.le_succ_of_le (ih _)

theorem length_itemBody_le {mayEnd : Bytes → Bool} {seen bs body after : Bytes}
    (h : itemBody mayEnd seen bs = some (body, after)) : after.length ≤ bs.length := by
  induction bs generalizing seen with
  | nil => simp [itemBody] at h
  | cons b rest ih =>
    unfold itemBody at h
    split at h
    · cases h; simp
    · exact Nat.le_succ_of_le (ih h)

theorem length_item_le (mayEnd isItem : Bytes → Bool) (bs : Bytes) :
    (item mayEnd isItem bs).2.length ≤ bs.length := by
  unfold item
  split
  · exact length_itemBody_le (by assumption)
  · simp

theorem length_declaration_le (bs : Bytes) : (declaration bs).2.length ≤ bs.length := by
  unfold declaration
  split
  · simp
  · split
    · exact length_item_le _ _ _
    · split
      · exact length_item_le _ _ _
      · split
        · exact length_item_le _ _ _
        · simp

theorem length_tagged_le (b : UInt8) (rest : Bytes) :
    (tagged b rest).2.length ≤ rest.length + 1 := by
  unfold tagged
  split
  · exact Nat.le_succ_of_le (length_declaration_le _)
  · split
    · exact Nat.le_succ_of_le (Text.length_after_le _ _)
    · split
      · exact Nat.le_succ_of_le (Text.length_after_le _ _)
      · exact length_tagBody_le none (b :: rest)

/-- The tokens of markup, in order. A bracket at the very end opens nothing. -/
def tokens : Bytes → List Token
  | [] => []
  | b :: rest =>
    if b = byte '<' then
      match rest with
      | [] => []
      | c :: more => (tagged c more).1 :: tokens (tagged c more).2
    else
      .text (b :: Text.before (byte '<') rest) :: tokens (rest.dropWhile (· ≠ byte '<'))
termination_by bs => bs.length
decreasing_by
  · exact Nat.lt_succ_of_le (length_tagged_le c more)
  · exact Nat.lt_succ_of_le (List.dropWhile_sublist _).length_le

end Sheetwise.Markup
