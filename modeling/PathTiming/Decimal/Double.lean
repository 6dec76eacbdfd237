/-! Double-precision numbers as signed multiples of powers of two. -/
namespace PathTiming.Decimal

/-- A double taken apart: a finite one is `mantissa * 2 ^ exponent` with its sign. -/
inductive Double where
  | nan
  | infinite (negative : Bool)
  | finite (negative : Bool) (mantissa : Nat) (exponent : Int)
deriving Repr, DecidableEq, Inhabited

/-- Takes the 64 bits of a double apart. Exponent field 0 holds zero and the subnormal numbers,
exponent field 2047 the infinities and NaN. -/
def Double.ofBits (bits : Nat) : Double :=
  let negative : Bool := Nat.pow 2 63 ≤ bits
  let field : Nat := bits / Nat.pow 2 52 % 2048
  let fraction := bits % Nat.pow 2 52
  if field = 2047 then
    if fraction = 0 then .infinite negative else .nan
  else if field = 0 then .finite negative fraction (-1074)
  else .finite negative (fraction + Nat.pow 2 52) ((field : Int) - 1075)

def Double.ofFloat (x : Float) : Double := .ofBits x.toBits.toNat

/-- `mantissa * 2 ^ exponent` as a fraction of natural numbers. -/
def fraction (mantissa : Nat) (exponent : Int) : Nat × Nat :=
  (mantissa * Nat.pow 2 exponent.toNat, Nat.pow 2 (-exponent).toNat)

end PathTiming.Decimal
