import PathTiming.Gzip.Inflate

/-! Gzip files. -/
namespace PathTiming.Gzip

/-- One step of the cyclic redundancy check for a single bit. -/
def crcStep (crc : UInt32) : UInt32 :=
  if crc &&& 1 = 1 then (crc >>> 1) ^^^ 0xedb88320 else crc >>> 1

def crcByte (crc : UInt32) (b : UInt8) : UInt32 :=
  (List.range 8).foldl (fun c _ => crcStep c) (crc ^^^ b.toUInt32)

def crc32 (bytes : List UInt8) : UInt32 := bytes.foldl crcByte 0xffffffff ^^^ 0xffffffff

def littleEndian : List UInt8 → Nat
  | [] => 0
  | b :: bs => b.toNat + 256 * littleEndian bs

def takeExactly (n : Nat) (bytes : List UInt8) : Except Error (List UInt8 × List UInt8) :=
  if bytes.length < n then .error .truncated else .ok (bytes.splitAt n)

/-- Skips a field that ends in a zero byte and is not longer than `room`. -/
def skipText : (room : Nat) → List UInt8 → Except Error (List UInt8)
  | _, [] => .error .truncated
  | room, b :: bs =>
    if b = 0 then .ok bs
    else
      match room with
      | 0 => .error .longField
      | room + 1 => skipText room bs

def maxField : Nat := 65535

/-- Skips the header: ten fixed bytes and the fields that its flags announce. A check of the header
itself is verified. -/
def skipHeader (bytes : List UInt8) : Except Error (List UInt8) := do
  let (start, rest) ← takeExactly 10 bytes
  if start.take 3 ≠ [0x1f, 0x8b, 8] then .error .badHeader
  let flags := (start.getD 3 0).toNat
  if 32 ≤ flags then .error .badHeader
  let rest ←
    if flags.testBit 2 then do
      let (size, rest) ← takeExactly 2 rest
      let (_, rest) ← takeExactly (littleEndian size) rest
      pure rest
    else pure rest
  let rest ← if flags.testBit 3 then skipText maxField rest else pure rest
  let rest ← if flags.testBit 4 then skipText maxField rest else pure rest
  if flags.testBit 1 then
    let (check, after) ← takeExactly 2 rest
    let header := bytes.take (bytes.length - rest.length)
    if littleEndian check = (crc32 header).toNat % 65536 then pure after else .error .badChecksum
  else pure rest

def bytesOf (bits : List Bool) : List UInt8 :=
  match takeBytes (bits.length / 8) bits #[] with
  | .ok (_, out) => out.toList
  | .error _ => []

/-- The data of the first member of a gzip file. What follows the member is ignored. -/
def decompress (bytes : List UInt8) : Except Error (Array UInt8) := do
  let body ← skipHeader bytes
  let (bits, out) ← inflate (bitsOf body)
  let (trailer, _) ← takeExactly 8 (bytesOf (alignToByte bits))
  if littleEndian (trailer.take 4) = (crc32 out.toList).toNat ∧
      littleEndian (trailer.drop 4) = out.size % Nat.pow 2 32 then
    return out
  else .error .badChecksum

end PathTiming.Gzip
