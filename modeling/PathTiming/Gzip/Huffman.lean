/-! Canonical prefix codes, read bit by bit. -/
namespace PathTiming.Gzip

inductive Error where
  /-- The file ends within its header, or before the checks at its end. -/
  | truncated
  /-- The file ends within its compressed data. -/
  | incomplete
  /-- The file does not begin like a gzip member. -/
  | badHeader
  /-- A name or comment in the header is too long. -/
  | longField
  /-- The compressed data is not well formed. -/
  | badData
  /-- The data does not have the size or checksum that the file states. -/
  | badChecksum
deriving Repr, DecidableEq, Inhabited

/-- A canonical code: how many words each length has from one bit to that of the longest word, and
the symbols in the order of their words. -/
structure Code where
  counts : List Nat
  symbols : Array Nat
deriving Repr, Inhabited

namespace Code

/-- Words left unused by codes with these counts, when `room` words of the previous length are
free; `none` if there are more words than room. -/
def slack (room : Nat) : List Nat → Option Nat
  | [] => some room
  | n :: rest => if n ≤ 2 * room then slack (2 * room - n) rest else none

/-- The code in which symbol `i` has a word of `lengths[i]` bits, or none if that is 0. A code
must use all words, unless it is `sparse`, which may have no word or a single one of one bit. -/
def ofLengths (sparse : Bool) (lengths : List Nat) : Except Error Code :=
  let longest := lengths.foldl max 0
  let counts := (List.range' 1 longest).map fun l => lengths.count l
  let indexed := lengths.zipIdx
  let symbols := (List.range' 1 longest).flatMap fun l => (indexed.filter (·.1 = l)).map (·.2)
  if slack 1 counts = some 0 ∨ (sparse ∧ (counts = [] ∨ counts = [1])) then
    .ok ⟨counts, symbols.toArray⟩
  else .error .badData

/-- Reads one word. The words of each length are consecutive numbers, starting at `first`, and
belong to the symbols from `index` on. -/
def readFrom (code : Code) (word first index : Nat) :
    List Nat → List Bool → Except Error (Nat × List Bool)
  | _, [] => .error .incomplete
  | [], _ :: _ => .error .badData
  | count :: counts, bit :: bits =>
    let word := 2 * word + bit.toNat
    if word < first + count then
      match code.symbols[index + (word - first)]? with
      | some symbol => .ok (symbol, bits)
      | none => .error .badData
    else if counts.isEmpty then .error .badData
    else code.readFrom word (2 * (first + count)) (index + count) counts bits

def read (code : Code) (bits : List Bool) : Except Error (Nat × List Bool) :=
  code.readFrom 0 0 0 code.counts bits

end Code

end PathTiming.Gzip
