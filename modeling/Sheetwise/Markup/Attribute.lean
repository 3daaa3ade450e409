import Sheetwise.Markup.Entity

/-!
# Attributes

A start tag carries attributes, each a key, an equals sign and a value in quotation marks of either
kind. What is not of this form is passed over, and of attributes with the same key the first one
counts. A value that cannot be read leaves its attribute without one.
-/

namespace Sheetwise.Markup

/-- Whether a byte may stand in a key, after its first. -/
def inKey (b : UInt8) : Bool := b ≠ byte '=' && !isBlank b

/-- Whether a byte is one of the two quotation marks. -/
def isQuote (b : UInt8) : Bool := b = byte '"' || b = byte '\''

/-- What follows the next blank, that blank included. -/
def fromBlank (bs : Bytes) : Bytes := bs.dropWhile fun b => !isBlank b

/--
The keys and values in a tag, after its name. `seen` are the keys met before, whether their values
counted or not; one that comes again is passed over up to the next blank.
-/
def rawAttributes (seen : List Bytes) (bs : Bytes) : List (Bytes × Bytes) :=
  match _start : bs.dropWhile isBlank with
  | [] => []
  | b :: rest =>
    let key := b :: rest.takeWhile inKey
    match _sign : (rest.dropWhile inKey).dropWhile isBlank with
    | [] => []
    | sign :: tail =>
      if sign ≠ byte '=' then rawAttributes seen (sign :: tail)
      else if key ∈ seen then rawAttributes seen (fromBlank tail)
      else
        match _quote : tail.dropWhile isBlank with
        | [] => []
        | quote :: value =>
          if !isQuote quote then rawAttributes (key :: seen) (fromBlank (quote :: value))
          else if quote ∈ value then
            (key, Text.before quote value) ::
              rawAttributes (key :: seen) (Text.after quote value)
          else []
termination_by bs.length
decreasing_by
  all_goals
    have h1 := (List.dropWhile_sublist (l := bs) isBlank).length_le
    have h2 := (List.dropWhile_sublist (l := rest) inKey).length_le
    have h3 := (List.dropWhile_sublist (l := rest.dropWhile inKey) isBlank).length_le
    rw [_start] at h1
    rw [_sign] at h3
    simp only [List.length_cons] at h1 h3 ⊢
  · omega
  · have h4 := (List.dropWhile_sublist (l := tail) fun b => !isBlank b).length_le
    simp only [fromBlank]
    omega
  · have h4 := (List.dropWhile_sublist (l := tail) isBlank).length_le
    have h5 := (List.dropWhile_sublist (l := quote :: value) fun b => !isBlank b).length_le
    rw [_quote] at h4
    simp only [fromBlank, List.length_cons] at h4 h5 ⊢
    omega
  · have h4 := (List.dropWhile_sublist (l := tail) isBlank).length_le
    have h5 := Text.length_after_le quote value
    rw [_quote] at h4
    simp only [List.length_cons] at h4
    omega

/-- A name, or the empty text for one that is no text. -/
def nameOf (bs : Bytes) : String := (String.fromUTF8? (ByteArray.mk bs.toArray)).getD ""

/-- The name in a start tag: all before the first blank. -/
def tagName (body : Bytes) : Bytes := body.takeWhile fun b => !isBlank b

/-- A start tag: its name and its attributes, with the values that can be read. -/
structure Element where
  name : String
  attributes : List (String × Option String) := []
deriving DecidableEq, Repr

namespace Element

/-- The element of a start tag, without the slash that ends it. -/
def ofTag (body : Bytes) : Element where
  name := nameOf (tagName body)
  attributes := (rawAttributes [] (fromBlank body)).map fun a => (nameOf a.1, textOf? a.2)

/-- The value of an attribute. -/
def get? (e : Element) (key : String) : Option String := (e.attributes.lookup key).join

end Element

end Sheetwise.Markup
