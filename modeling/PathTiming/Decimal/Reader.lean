/-! Reading of decimal texts. -/
namespace PathTiming.Decimal

def naturalOf (digits : List Char) : Nat :=
  digits.foldl (fun n c => 10 * n + (c.toNat - '0'.toNat)) 0

/-- Reads a natural number made of ASCII digits alone. -/
def natural? (cs : List Char) : Option Nat :=
  if cs.isEmpty || !cs.all Char.isDigit then none else some (naturalOf cs)

/-- Divides a text into its sign, `true` for minus, and the rest. -/
def splitSign : List Char → Bool × List Char
  | '-' :: cs => (true, cs)
  | '+' :: cs => (false, cs)
  | cs => (false, cs)

/-- The exponent part of a number: nothing, or `e` with a signed natural number. -/
def exponent? : List Char → Option Int
  | [] => some 0
  | c :: cs =>
    if c = 'e' ∨ c = 'E' then
      let (negative, digits) := splitSign cs
      (natural? digits).map fun n => if negative then -(n : Int) else n
    else none

/-- The double nearest to `digits * 10 ^ exponent`. A number of `count` digits beyond `1e310` or
below `1e-330` is out of reach of any double, and is decided without computing the power. -/
def nearest (digits : List Char) (exponent : Int) : Float :=
  let m := naturalOf digits
  let significant : Int := (digits.dropWhile (· == '0')).length
  if m = 0 then 0.0
  else if 310 < significant + exponent then 1.0 / 0.0
  else if significant + exponent < -330 then 0.0
  else Float.ofScientific m (exponent < 0) exponent.natAbs

/-- Reads an unsigned number: digits with an optional point and exponent, or a name. -/
def unsigned? (cs : List Char) : Option Float :=
  let name := String.ofList (cs.map Char.toLower)
  if name = "inf" ∨ name = "infinity" then some (1.0 / 0.0)
  else if name = "nan" then some (0.0 / 0.0)
  else
    let whole := cs.takeWhile Char.isDigit
    let rest := cs.dropWhile Char.isDigit
    let (places, tail) : List Char × List Char :=
      match rest with
      | '.' :: r => (r.takeWhile Char.isDigit, r.dropWhile Char.isDigit)
      | r => ([], r)
    if whole.isEmpty && places.isEmpty then none
    else (exponent? tail).map fun e => nearest (whole ++ places) (e - places.length)

def float? (cs : List Char) : Option Float :=
  let (negative, rest) := splitSign cs
  (unsigned? rest).map fun x => if negative then -x else x

end PathTiming.Decimal
