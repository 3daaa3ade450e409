import Sheetwise.Archive.Deflate

/-!
# Archives

An archive of the ZIP format is read from its end: a record there says where the directory is, and the
directory where each entry is. Something else may stand in front of the archive, which moves all
positions in it. Entries that are encrypted, or compressed in some other way than is known here,
cannot be opened and are left out.

An archive keeps a checksum of the contents of each entry, the cyclic redundancy code of 32 bits: the
bits are taken as a polynomial over two elements, lowest powers last, and divided by a fixed one.
-/

namespace Sheetwise.Archive

/-- Divides one bit away. -/
def divideBit (remainder : UInt32) : UInt32 :=
  if remainder &&& 1 = 1 then (remainder >>> 1) ^^^ 0xEDB88320 else remainder >>> 1

/-- The remainder after one more byte. -/
def divideByte (remainder : UInt32) (b : UInt8) : UInt32 :=
  Nat.repeat divideBit 8 (remainder ^^^ b.toUInt32)

/-- The checksum of some bytes. -/
def checksum (bs : List UInt8) : UInt32 := ~~~ bs.foldl divideByte 0xFFFFFFFF

/-- A number of some bytes at a position, its lowest byte first. -/
def numberAt (bs : List UInt8) (position width : Nat) : Nat :=
  ((bs.drop position).take width).foldr (fun b n => b.toNat + 256 * n) 0

/-- The signature of the record at the end. -/
def endSignature : Nat := 0x06054B50

/-- The signature of an entry of the directory. -/
def directorySignature : Nat := 0x02014B50

/-- The signature in front of the contents of an entry. -/
def contentsSignature : Nat := 0x04034B50

/-- The record at the end: how many entries there are, and where their directory is. -/
structure EndRecord where
  /-- The position of the record itself. -/
  position : Nat
  count : Nat
  size : Nat
  offset : Nat

/-- The record that bytes at a position start with. Its comment may be followed by something else. -/
def endRecordHere? (position : Nat) (bs : List UInt8) : Option EndRecord :=
  if numberAt bs 0 4 = endSignature ∧ 22 + numberAt bs 20 2 ≤ bs.length ∧
      numberAt bs 4 2 = numberAt bs 6 2 then
    some { position, count := numberAt bs 10 2, size := numberAt bs 12 4, offset := numberAt bs 16 4 }
  else none

/-- The last record in bytes from a position on. -/
def endRecord? (position : Nat) : List UInt8 → Option EndRecord
  | [] => none
  | b :: bs => (endRecord? (position + 1) bs).or (endRecordHere? position (b :: bs))

/-- An entry of the directory. -/
structure Header where
  name : String
  isEncrypted : Bool
  method : Nat
  checksum : Nat
  size : Nat
  offset : Nat

/-- The entries that a directory starts with. -/
def headers? : Nat → List UInt8 → Option (List Header)
  | 0, _ => some []
  | n + 1, bs =>
    let nameSize := numberAt bs 28 2
    let total := 46 + nameSize + numberAt bs 30 2 + numberAt bs 32 2
    if numberAt bs 0 4 = directorySignature ∧ total ≤ bs.length then do
      let headers ← headers? n (bs.drop total)
      -- a name that is no text names nothing that could be asked for
      match String.fromUTF8? ⟨((bs.drop 46).take nameSize).toArray⟩ with
      | none => return headers
      | some name =>
        return {
          name
          isEncrypted := numberAt bs 8 2 % 2 = 1
          method := numberAt bs 10 2
          checksum := numberAt bs 16 4
          size := numberAt bs 20 4
          offset := numberAt bs 42 4 } :: headers
    else none

/-- What stands for damaged contents: an open comment, past which no reader of markup gets. -/
def damaged : List UInt8 := "<!--".toUTF8.toList

/-- The contents of an entry, if it can be opened; the archive starts at some position. -/
def contents? (bs : List UInt8) (start : Nat) (h : Header) : Option (List UInt8) :=
  let entry := bs.drop (start + h.offset)
  if numberAt entry 0 4 ≠ contentsSignature ∨ entry.length < 30 ∨ h.isEncrypted then none
  else
    let packed := (entry.drop (30 + numberAt entry 26 2 + numberAt entry 28 2)).take h.size
    let whole (bytes : Option (List UInt8)) : List UInt8 :=
      match bytes with
      | some bytes => if (checksum bytes).toNat = h.checksum then bytes else damaged
      | none => damaged
    match h.method with
    | 0 => some (whole (some packed))
    | 8 => some (whole (inflate? packed))
    | _ => none

/-- The names and contents of the entries of an archive, the last one first. -/
def entries? (bs : List UInt8) : Option (List (String × List UInt8)) := do
  let r ← endRecord? 0 bs
  if r.count = 0 then
    if r.offset ≤ r.position then return [] else none
  if r.position < r.size + r.offset then none
  let headers ← headers? r.count (bs.drop (r.position - r.size))
  let start := r.position - r.size - r.offset
  return (headers.filterMap fun h => (contents? bs start h).map fun c => (h.name, c)).reverse

end Sheetwise.Archive
