import PathTiming.Unicode.RangeTable

/-! Ranges of characters as sequences of byte ranges in UTF-8. -/
namespace PathTiming.Unicode

/-- Inclusive ranges of bytes, one for each byte of an encoded character. -/
abbrev ByteRanges := List (UInt8 × UInt8)

/-- The byte ranges between the first and the last of some characters. They stand for exactly these
characters if both are encoded in as many bytes, and if from the first byte in which the two differ,
the last bytes of `first` are all the least ones, and those of `last` the greatest ones. -/
def byteRanges (first last : Nat) : ByteRanges :=
  (String.utf8EncodeChar (Char.ofNat first)).zip (String.utf8EncodeChar (Char.ofNat last))

/-- Divides a range into parts that byte ranges can stand for, in ascending order. The parts differ
in the lowest `level` digits in base 64 at most; `depth` is how many levels are left. What sticks
out on either side beyond full blocks of 64 to the power of `level` is a part of its own. -/
def splitAtBlocks (level : Nat) : (depth : Nat) → (first last : Nat) → List (Nat × Nat)
  | 0, first, last => [(first, last)]
  | depth + 1, first, last =>
    let block := Nat.pow 64 level
    if first / block = last / block then [(first, last)]
    else
      let inner := (first + block - 1) / block * block
      let outer := (last + 1) / block * block
      let left := if first < inner then [(first, inner - 1)] else []
      let right := if outer ≤ last then [(outer, last)] else []
      let middle := if inner < outer then splitAtBlocks (level + 1) depth inner (outer - 1) else []
      left ++ middle ++ right

/-- The ranges of characters that take two, three and four bytes. The second is cut by the
surrogates. -/
def longForms : List (Nat × Nat) :=
  [(0x80, 0x7ff), (0x800, 0xd7ff), (0xe000, 0xffff), (0x10000, maxPoint)]

/-- The part of a range that lies in another, if there is one. -/
def overlap (r s : Nat × Nat) : List (Nat × Nat) :=
  if max r.1 s.1 ≤ min r.2 s.2 then [(max r.1 s.1, min r.2 s.2)] else []

/-- The byte ranges of some characters, in ascending order. -/
def utf8Ranges (r : Nat × Nat) : List ByteRanges :=
  let short := overlap r (0, 0x7f)
  let long := (longForms.flatMap (overlap r)).flatMap fun s => splitAtBlocks 1 3 s.1 s.2
  (short ++ long).map fun s => byteRanges s.1 s.2

/-- The byte ranges of the characters of a set, in ascending order. -/
def RangeTable.utf8Ranges (t : RangeTable) : List ByteRanges :=
  t.ranges.toList.flatMap Unicode.utf8Ranges

end PathTiming.Unicode
