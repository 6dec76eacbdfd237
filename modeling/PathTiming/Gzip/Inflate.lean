import PathTiming.Gzip.Huffman

/-! The deflate format: blocks of stored bytes, or of literals and back references. -/
namespace PathTiming.Gzip

/-- The bits of some bytes, the least significant bit of each byte first. -/
def bitsOf (bytes : List UInt8) : List Bool :=
  bytes.flatMap fun b => (List.range 8).map fun i => b.toNat.testBit i

/-- Takes `n` bits as a number, the least significant first. -/
def takeBits : Nat → List Bool → Except Error (Nat × List Bool)
  | 0, bits => .ok (0, bits)
  | _ + 1, [] => .error .incomplete
  | n + 1, bit :: bits => do
    let (high, rest) ← takeBits n bits
    return (bit.toNat + 2 * high, rest)

/-- The byte `distance` places before the end. All bytes before the first one are zero. -/
def byteBack (distance : Nat) (out : Array UInt8) : UInt8 :=
  if distance ≤ out.size then out.getD (out.size - distance) 0 else 0

/-- Appends `n` bytes, each equal to the one `distance` places before it. -/
def copyBack (distance : Nat) : Nat → Array UInt8 → Array UInt8
  | 0, out => out
  | n + 1, out => copyBack distance n (out.push (byteBack distance out))

/-- Base and number of extra bits of the length symbols from 257 on. -/
def lengthBases : Array (Nat × Nat) := #[
  (3, 0), (4, 0), (5, 0), (6, 0), (7, 0), (8, 0), (9, 0), (10, 0), (11, 1), (13, 1), (15, 1),
  (17, 1), (19, 2), (23, 2), (27, 2), (31, 2), (35, 3), (43, 3), (51, 3), (59, 3), (67, 4),
  (83, 4), (99, 4), (115, 4), (131, 5), (163, 5), (195, 5), (227, 5), (258, 0)]

/-- Base and number of extra bits of the distance symbols. -/
def distanceBases : Array (Nat × Nat) := #[
  (1, 0), (2, 0), (3, 0), (4, 0), (5, 1), (7, 1), (9, 2), (13, 2), (17, 3), (25, 3), (33, 4),
  (49, 4), (65, 5), (97, 5), (129, 6), (193, 6), (257, 7), (385, 7), (513, 8), (769, 8),
  (1025, 9), (1537, 9), (2049, 10), (3073, 10), (4097, 11), (6145, 11), (8193, 12), (12289, 12),
  (16385, 13), (24577, 13)]

/-- Reads a quantity given by a symbol and extra bits. -/
def readBased (bases : Array (Nat × Nat)) (symbol : Nat) (bits : List Bool) :
    Except Error (Nat × List Bool) :=
  match bases[symbol]? with
  | none => .error .badData
  | some (base, extra) => do
    let (more, rest) ← takeBits extra bits
    return (base + more, rest)

/-- Reads symbols up to the end of a block. Each takes at least one bit, so the number of bits is
enough `fuel`. -/
def readSymbols (literals distances : Code) :
    (fuel : Nat) → List Bool → Array UInt8 → Except Error (List Bool × Array UInt8)
  | 0, _, _ => .error .incomplete
  | fuel + 1, bits, out => do
    let (symbol, bits) ← literals.read bits
    if symbol < 256 then readSymbols literals distances fuel bits (out.push symbol.toUInt8)
    else if symbol = 256 then return (bits, out)
    else
      let (length, bits) ← readBased lengthBases (symbol - 257) bits
      let (place, bits) ← distances.read bits
      let (distance, bits) ← readBased distanceBases place bits
      readSymbols literals distances fuel bits (copyBack distance length out)

def fixedLiterals : Except Error Code :=
  Code.ofLengths false (.replicate 144 8 ++ .replicate 112 9 ++ .replicate 24 7 ++ .replicate 8 8)

def fixedDistances : Except Error Code := Code.ofLengths false (.replicate 32 5)

/-- The order in which the lengths of the words for code lengths are stored. -/
def lengthOrder : List Nat := [16, 17, 18, 0, 8, 7, 9, 6, 10, 5, 11, 4, 12, 3, 13, 2, 14, 1, 15]

def takeTriples : Nat → List Bool → Except Error (List Nat × List Bool)
  | 0, bits => .ok ([], bits)
  | n + 1, bits => do
    let (x, bits) ← takeBits 3 bits
    let (xs, bits) ← takeTriples n bits
    return (x :: xs, bits)

/-- Reads code lengths until there are `wanted`. Symbols 16, 17 and 18 repeat the last length or
zero. The lengths read so far are kept in reverse order. -/
def readLengths (code : Code) (wanted : Nat) :
    (fuel : Nat) → List Nat → List Bool → Except Error (List Nat × List Bool)
  | 0, _, _ => .error .badData
  | fuel + 1, done, bits =>
    if wanted < done.length then .error .badData
    else if wanted = done.length then .ok (done.reverse, bits)
    else do
      let (symbol, bits) ← code.read bits
      if symbol < 16 then readLengths code wanted fuel (symbol :: done) bits
      else if symbol = 16 then
        match done with
        | [] => .error .badData
        | last :: _ =>
          let (n, bits) ← takeBits 2 bits
          readLengths code wanted fuel (.replicate (n + 3) last ++ done) bits
      else
        let (extra, least) := if symbol = 17 then (3, 3) else (7, 11)
        let (n, bits) ← takeBits extra bits
        readLengths code wanted fuel (.replicate (n + least) 0 ++ done) bits

/-- Most symbols that the literal code of a block may cover. -/
def maxLiterals : Nat := 286

/-- Most symbols that the distance code of a block may cover. -/
def maxDistances : Nat := 30

def readCodes (bits : List Bool) : Except Error (Code × Code × List Bool) := do
  let (moreLiterals, bits) ← takeBits 5 bits
  let (moreDistances, bits) ← takeBits 5 bits
  let (moreLengths, bits) ← takeBits 4 bits
  let literalCount := moreLiterals + 257
  let distanceCount := moreDistances + 1
  if maxLiterals < literalCount ∨ maxDistances < distanceCount then .error .badData
  let (stored, bits) ← takeTriples (moreLengths + 4) bits
  let placed := lengthOrder.zip stored
  let lengthCode ← Code.ofLengths false ((List.range 19).map fun i => (placed.lookup i).getD 0)
  let wanted := literalCount + distanceCount
  let (lengths, bits) ← readLengths lengthCode wanted (wanted + 1) [] bits
  let literals ← Code.ofLengths true (lengths.take literalCount)
  let distances ← Code.ofLengths true (lengths.drop literalCount)
  return (literals, distances, bits)

def takeBytes : Nat → List Bool → Array UInt8 → Except Error (List Bool × Array UInt8)
  | 0, bits, out => .ok (bits, out)
  | n + 1, bits, out => do
    let (b, bits) ← takeBits 8 bits
    takeBytes n bits (out.push b.toUInt8)

/-- The bits from the next byte boundary on. Bits are dropped from the end of whole bytes only, so
the number of those that remain tells where the boundary is. -/
def alignToByte (bits : List Bool) : List Bool := bits.drop (bits.length % 8)

/-- Reads a block of stored bytes: its length, the complement of its length, and the bytes. -/
def readStored (bits : List Bool) (out : Array UInt8) :
    Except Error (List Bool × Array UInt8) := do
  let (length, bits) ← takeBits 16 (alignToByte bits)
  let (complement, bits) ← takeBits 16 bits
  if length + complement = 65535 then takeBytes length bits out else .error .badData

def readBlocks : (fuel : Nat) → List Bool → Array UInt8 → Except Error (List Bool × Array UInt8)
  | 0, _, _ => .error .incomplete
  | fuel + 1, bits, out => do
    let (last, bits) ← takeBits 1 bits
    let (kind, bits) ← takeBits 2 bits
    let (bits, out) ←
      if kind = 0 then readStored bits out
      else if kind = 1 then do
        readSymbols (← fixedLiterals) (← fixedDistances) bits.length bits out
      else if kind = 2 then do
        let (literals, distances, bits) ← readCodes bits
        readSymbols literals distances bits.length bits out
      else .error .badData
    if last = 1 then return (bits, out) else readBlocks fuel bits out

/-- Expands compressed data, and returns the bytes with what follows the data. -/
def inflate (bits : List Bool) : Except Error (List Bool × Array UInt8) :=
  readBlocks bits.length bits #[]

end PathTiming.Gzip
