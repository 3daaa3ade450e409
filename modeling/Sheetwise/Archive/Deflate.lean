/-!
# Compressed contents

The deflate format. Contents come in blocks, either stored or written in a prefix code, whose symbols
are single bytes and repetitions of what came before. A code is canonical: it is given by the lengths
of its words alone, and words of one length are numbered in the order of their symbols.
-/

namespace Sheetwise.Archive

/-- Bits in the order they are read in, which is from the lowest bit of each byte. -/
abbrev Bits := List Bool

/-- The bits of some bytes. -/
def bitsOf (bs : List UInt8) : Bits := bs.flatMap fun b => (List.range 8).map b.toNat.testBit

/-- A number of some bits, its lowest bit first, and the bits after it. -/
def number? : Nat → Bits → Option (Nat × Bits)
  | 0, bits => some (0, bits)
  | _ + 1, [] => none
  | n + 1, b :: bits => (number? n bits).map fun (high, rest) => (b.toNat + 2 * high, rest)

/-! ## Prefix codes -/

/-- A canonical code: how many words it has of each length from one, and its symbols in order. -/
structure Code where
  counts : List Nat
  symbols : Array Nat

namespace Code

/-- The longest word of a code. -/
def maxLength : Nat := 15

/-- The code whose symbols, counted from zero, have words of these lengths, or none for length zero. -/
def ofLengths (lengths : List Nat) : Code :=
  let ofLength (n : Nat) : List Nat := (lengths.zipIdx.filter fun e => e.1 == n).map Prod.snd
  let words := (List.range maxLength).map fun n => ofLength (n + 1)
  { counts := words.map List.length, symbols := words.flatten.toArray }

/--
Follows the bits of a word. Of the words read so far, `first` is the first of this length, and `index`
symbols have shorter words.
-/
def follow (symbols : Array Nat) : List Nat → Nat → Nat → Nat → Bits → Option (Nat × Bits)
  | count :: counts, word, first, index, b :: bits =>
    let word := word + b.toNat
    if word < first + count then symbols[index + (word - first)]?.map fun symbol => (symbol, bits)
    else follow symbols counts (2 * word) (2 * (first + count)) (index + count) bits
  | _, _, _, _, _ => none

/-- A symbol and the bits after it. -/
def symbol? (code : Code) (bits : Bits) : Option (Nat × Bits) :=
  follow code.symbols code.counts 0 0 0 bits

end Code

/-! ## Symbols -/

/-- Consecutive spans of numbers, each with a number of bits that tell its members apart. -/
def spans (start : Nat) : List Nat → List (Nat × Nat)
  | [] => []
  | extra :: extras => (start, extra) :: spans (start + Nat.pow 2 extra) extras

/-- The lengths of repetitions by their symbol, counted from the first of these. -/
def lengthSpans : List (Nat × Nat) :=
  spans 3 (List.replicate 8 0 ++ [1, 2, 3, 4, 5].flatMap (List.replicate 4)) ++ [(258, 0)]

/-- The distances of repetitions by their symbol. -/
def distanceSpans : List (Nat × Nat) :=
  spans 1 ([0, 0] ++ (List.range 14).flatMap fun n => [n, n])

/-- A number in a span and the bits after it. -/
def inSpan? (table : List (Nat × Nat)) (symbol : Nat) (bits : Bits) : Option (Nat × Bits) := do
  let (start, extra) ← table[symbol]?
  let (offset, bits) ← number? extra bits
  return (start + offset, bits)

/-- Repeats as many bytes from some distance back; what is repeated may overlap what it becomes. -/
def repeatBack (distance : Nat) : Nat → Array UInt8 → Option (Array UInt8)
  | 0, out => some out
  | n + 1, out =>
    if distance ≤ out.size then
      out[out.size - distance]?.bind fun b => repeatBack distance n (out.push b)
    else none

/-- The contents of a block in a code up to its end. -/
def coded (lengths distances : Code) : Nat → Bits → Array UInt8 → Option (Bits × Array UInt8)
  | 0, _, _ => none
  | fuel + 1, bits, out =>
    match lengths.symbol? bits with
    | none => none
    | some (symbol, bits) =>
      if symbol < 256 then coded lengths distances fuel bits (out.push symbol.toUInt8)
      else if symbol = 256 then some (bits, out)
      else
        let repetition : Option (Bits × Array UInt8) := do
          let (length, bits) ← inSpan? lengthSpans (symbol - 257) bits
          let (symbol, bits) ← distances.symbol? bits
          let (distance, bits) ← inSpan? distanceSpans symbol bits
          return (bits, ← repeatBack distance length out)
        match repetition with
        | none => none
        | some (bits, out) => coded lengths distances fuel bits out

/-! ## Blocks -/

/-- The lengths of the words of the usual code. -/
def usualLengths : List Nat :=
  List.replicate 144 8 ++ List.replicate 112 9 ++ List.replicate 24 7 ++ List.replicate 8 8

/-- The order in which the code of the lengths is written. -/
def lengthOrder : List Nat := [16, 17, 18, 0, 8, 7, 9, 6, 10, 5, 11, 4, 12, 3, 13, 2, 14, 1, 15]

/-- Some numbers of as many bits each. -/
def numbers? (width : Nat) : Nat → Bits → Option (List Nat × Bits)
  | 0, bits => some ([], bits)
  | n + 1, bits => do
    let (x, bits) ← number? width bits
    let (xs, bits) ← numbers? width n bits
    return (x :: xs, bits)

/-- Lengths of words, themselves written in a code, after those in `done`, which has the last first. -/
def wordLengths? (code : Code) (total : Nat) : Nat → Bits → List Nat → Option (List Nat × Bits)
  | 0, bits, done => if done.length = total then some (done.reverse, bits) else none
  | fuel + 1, bits, done =>
    if total ≤ done.length then wordLengths? code total 0 bits done
    else do
      let (symbol, bits) ← code.symbol? bits
      let (times, length, bits) ← match symbol with
        | 16 => (number? 2 bits).bind fun (n, bits) => done.head?.map fun last => (n + 3, last, bits)
        | 17 => (number? 3 bits).map fun (n, bits) => (n + 3, 0, bits)
        | 18 => (number? 7 bits).map fun (n, bits) => (n + 11, 0, bits)
        | n => some (1, n, bits)
      wordLengths? code total fuel bits (List.replicate times length ++ done)

/-- The codes in front of a block that brings its own. -/
def codes? (bits : Bits) : Option (Code × Code × Bits) := do
  let (lengths, bits) ← number? 5 bits
  let (distances, bits) ← number? 5 bits
  let (given, bits) ← number? 4 bits
  let (widths, bits) ← numbers? 3 (given + 4) bits
  let inOrder := lengthOrder.zip widths
  let code := Code.ofLengths ((List.range 19).map fun symbol => (inOrder.lookup symbol).getD 0)
  let total := lengths + 257 + (distances + 1)
  let (all, bits) ← wordLengths? code total total bits []
  return (.ofLengths (all.take (lengths + 257)), .ofLengths (all.drop (lengths + 257)), bits)

/-- The contents of a stored block, which starts at the next whole byte. -/
def stored (bits : Bits) (out : Array UInt8) : Option (Bits × Array UInt8) := do
  let (size, bits) ← number? 16 (bits.drop (bits.length % 8))
  let (complement, bits) ← number? 16 bits
  if size + complement ≠ 65535 then none
  let (bytes, bits) ← numbers? 8 size bits
  return (bits, bytes.foldl (fun out b => out.push b.toUInt8) out)

/-- The contents of blocks up to the last one, after what has been read before. -/
def blocks : Nat → Bits → Array UInt8 → Option (Array UInt8)
  | 0, _, _ => none
  | fuel + 1, bits, out => do
    let (last, bits) ← number? 1 bits
    let (kind, bits) ← number? 2 bits
    let (bits, out) ← match kind with
      | 0 => stored bits out
      | 1 => coded (.ofLengths usualLengths) (.ofLengths (List.replicate 30 5)) bits.length bits out
      | 2 => (codes? bits).bind fun (lengths, distances, bits) =>
          coded lengths distances bits.length bits out
      | _ => none
    if last = 1 then some out else blocks fuel bits out

/-- What compressed contents stand for, if they can be read. -/
def inflate? (bs : List UInt8) : Option (List UInt8) :=
  let bits := bitsOf bs
  (blocks bits.length bits #[]).map Array.toList

end Sheetwise.Archive
