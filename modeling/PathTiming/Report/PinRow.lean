import PathTiming.Report.Layout
import PathTiming.Report.Row

/-! Rows of pins: a name, a cell in parentheses, numbers, and remarks in parentheses. -/
namespace PathTiming
open Text (Token)

structure PinRow where
  name : String
  cell : String := ""
  /-- The pin is the source of a generated clock. -/
  isGenerated : Bool := false
  values : List PlacedValue := []
  location : Option (Float × Float) := none
deriving Inhabited

def readPlace? (group : List Char) : Option (Float × Float) := do
  let inner ← ['('].isPrefixOf? group
  let inner ← Text.dropSuffix? [')'] inner
  let (x, y) ← Text.splitOnce [','] inner
  return (← Decimal.float? (Text.trim x), ← Decimal.float? (Text.trim y))

def joinTokens : List Token → List Char
  | [] => []
  | first :: rest => first.text ++ rest.flatMap fun t => t.lead ++ t.text

/-- Divides words after the first one that ends with a closing parenthesis. -/
def splitGroup? : List Token → Option (List Token × List Token)
  | [] => none
  | t :: rest =>
    if t.text.getLast? = some ')' then some ([t], rest)
    else (splitGroup? rest).map fun (group, after) => (t :: group, after)

namespace PinRow

def addGroup (r : PinRow) (isFirst : Bool) (group : List Char) : PinRow :=
  if isFirst then { r with cell := String.ofList (group.drop 1).dropLast }
  else if group = "(gclock source)".toList then { r with isGenerated := true }
  else
    match readPlace? group with
    | some place => { r with location := some place }
    | none => r

/-- Reads the words after the name. A parenthesis that is not closed makes this no row of a pin.
Each step takes at least one word. -/
def readTokens (line : Nat) : (fuel : Nat) → (isFirst : Bool) → PinRow → List Token →
    Except FormatError (Option PinRow)
  | 0, _, _, _ => .ok none
  | _ + 1, _, r, [] => .ok (some r)
  | fuel + 1, isFirst, r, t :: rest =>
    if t.text.head? = some '(' then
      match splitGroup? (t :: rest) with
      | none => .ok none
      | some (group, after) =>
        readTokens line fuel false (r.addGroup isFirst (joinTokens group)) after
    else if looksNumeric t.text then do
      let value ← readNumber line t.text
      readTokens line fuel isFirst { r with values := r.values ++ [⟨value, t.stop⟩] } rest
    else readTokens line fuel isFirst r rest

/-- Reads a line that may be the row of a pin: its second word opens a parenthesis. -/
def ofLine? (line : Nat) (text : List Char) : Except FormatError (Option PinRow) :=
  match Text.tokens text with
  | name :: cell :: rest =>
    if cell.text.head? = some '(' then
      readTokens line (rest.length + 2) true { name := String.ofList name.text } (cell :: rest)
    else .ok none
  | _ => .ok none

end PinRow

end PathTiming
