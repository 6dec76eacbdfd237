import PathTiming.Decimal.Double

/-! The shortest decimal that reads back to a given double. -/
namespace PathTiming.Decimal

/-- The number `digits * 10 ^ exponent`. -/
structure Scientific where
  digits : Nat
  exponent : Int
deriving Repr, DecidableEq, Inhabited

/-- The reals that round to one double, as numerators over a common denominator. The ends belong to
it when the mantissa of the double is even. -/
structure Neighbourhood where
  value : Nat
  low : Nat
  high : Nat
  denominator : Nat
  closed : Bool
deriving Repr

/-- The neighbourhood of `mantissa * 2 ^ exponent`. It reaches half way to the doubles on both
sides; below a power of two the next double is only half as far away. -/
def Neighbourhood.of (mantissa : Nat) (exponent : Int) : Neighbourhood :=
  let (unit, denominator) := fraction 1 (exponent - 2)
  let below := if mantissa = Nat.pow 2 52 ∧ -1074 < exponent then 1 else 2
  { value := 4 * mantissa * unit
    low := (4 * mantissa - below) * unit
    high := (4 * mantissa + 2) * unit
    denominator
    closed := mantissa % 2 = 0 }

/-- Whether `x / scale` lies in the neighbourhood widened by `factor`. -/
def Neighbourhood.contains (n : Neighbourhood) (factor x : Nat) : Bool :=
  if n.closed then n.low * factor ≤ x && x ≤ n.high * factor
  else n.low * factor < x && x < n.high * factor

/-- The multiple of `10 ^ k` that is nearest to the value, among its two neighbours on that grid
which lie in the neighbourhood. A tie goes to the even multiple. -/
def Neighbourhood.onGrid? (n : Neighbourhood) (k : Int) : Option Nat :=
  let step := n.denominator * Nat.pow 10 k.toNat
  let factor := Nat.pow 10 (-k).toNat
  let value := n.value * factor
  let down := value / step
  let up := down + 1
  match n.contains factor (down * step), n.contains factor (up * step) with
  | true, true =>
    let past := value - down * step
    if 2 * past < step ∨ (2 * past = step ∧ down % 2 = 0) then some down else some up
  | true, false => some down
  | false, true => some up
  | false, false => none

def Neighbourhood.firstHit (n : Neighbourhood) : Nat → Int → Scientific
  | 0, k => ⟨n.value * Nat.pow 10 (-k).toNat / (n.denominator * Nat.pow 10 k.toNat), k⟩
  | fuel + 1, k =>
    match n.onGrid? k with
    | some digits => ⟨digits, k⟩
    | none => n.firstHit fuel (k - 1)

/-- Number of decimal digits of a natural number; 0 has none. -/
def digitCount (n : Nat) : Nat := if n = 0 then 0 else (Nat.toDigits 10 n).length

/-- An exponent `k` for which `10 ^ k` is at least the value, and at most a hundred times it. -/
def Neighbourhood.magnitude (n : Neighbourhood) : Int :=
  let whole := n.value / n.denominator
  if whole = 0 then 2 - (digitCount (n.denominator / n.value) : Int) else digitCount whole

/-- The fewest digits that read back to `mantissa * 2 ^ exponent`, and of those the nearest. Twenty
grids are enough, since seventeen digits always tell two doubles apart. -/
def shortest (mantissa : Nat) (exponent : Int) : Scientific :=
  if mantissa = 0 then ⟨0, 0⟩
  else
    let n := Neighbourhood.of mantissa exponent
    n.firstHit 20 n.magnitude

end PathTiming.Decimal
