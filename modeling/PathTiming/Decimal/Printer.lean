import PathTiming.Decimal.Shortest

/-! Decimal texts of doubles: plain, with a fixed number of places, and for JSON. -/
namespace PathTiming.Decimal

def zeros (n : Nat) : String := String.ofList (List.replicate n '0')

/-- Digits with a point before the last `places` of them. -/
def withPoint (digits : String) (places : Nat) : String :=
  let padded := zeros (places + 1 - digits.length) ++ digits
  let cs := padded.toList
  String.ofList (cs.take (cs.length - places)) ++ "." ++
    String.ofList (cs.drop (cs.length - places))

/-- Positional text without an exponent; whole numbers have no point. -/
def Scientific.positional (s : Scientific) : String :=
  let digits := toString s.digits
  if 0 ≤ s.exponent then
    if s.digits = 0 then digits else digits ++ zeros s.exponent.toNat
  else withPoint digits (-s.exponent).toNat

/-- Text that always shows a point or an exponent: positional with the point within sixteen digits
on the left and five zeros on the right, scientific beyond. The exponent always has a sign. -/
def Scientific.tagged (s : Scientific) : String :=
  let digits := toString s.digits
  let point := (digits.length : Int) + s.exponent
  if s.digits = 0 then "0.0"
  else if 0 ≤ s.exponent ∧ point ≤ 16 then s.positional ++ ".0"
  else if -5 < point ∧ point ≤ 16 then s.positional
  else
    let mantissa := if digits.length = 1 then digits else withPoint digits (digits.length - 1)
    mantissa ++ (if 0 < point then "e+" else "e") ++ toString (point - 1)

def signed (negative : Bool) (text : String) : String := if negative then "-" ++ text else text

/-- The shortest text that reads back, never with an exponent. The sign of zero is kept. -/
def plain (x : Float) : String :=
  match Double.ofFloat x with
  | .nan => "NaN"
  | .infinite negative => signed negative "inf"
  | .finite negative m q => signed negative (shortest m q).positional

/-- The shortest number text for JSON, which has none for NaN and the infinities. -/
def json? (x : Float) : Option String :=
  match Double.ofFloat x with
  | .finite negative m q => some (signed negative (shortest m q).tagged)
  | _ => none

/-- The natural number nearest to `num / den`; a tie goes to the even one. -/
def roundHalfEven (num den : Nat) : Nat :=
  let down := num / den
  let past := num % den
  if 2 * past < den ∨ (2 * past = den ∧ down % 2 = 0) then down else down + 1

/-- Text with exactly `places` digits after the point, rounded from the exact binary value. -/
def fixed (places : Nat) (x : Float) : String :=
  match Double.ofFloat x with
  | .nan => "NaN"
  | .infinite negative => signed negative "inf"
  | .finite negative m q =>
    let (num, den) := fraction m q
    signed negative (withPoint (toString (roundHalfEven (num * Nat.pow 10 places) den)) places)

end PathTiming.Decimal
