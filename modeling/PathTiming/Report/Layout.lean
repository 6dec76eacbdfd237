import PathTiming.Path.Column
import PathTiming.Text.Words

/-! Columns of pin tables, and the values that stand under them. -/
namespace PathTiming

structure PlacedColumn where
  column : Column
  edge : Nat
deriving Repr, DecidableEq, Inhabited

abbrev Layout := List PlacedColumn

/-- A number of a row with the byte offset of its right edge. -/
structure PlacedValue where
  value : Float
  edge : Nat
deriving Repr, Inhabited

namespace Layout

/-- The columns that the words of a header line announce, less its first word. -/
def ofHeader (line : List Char) : Layout :=
  ((Text.tokens line).drop 1).map fun token =>
    ⟨.ofHeader (String.ofList token.text), token.stop⟩

def known (l : Layout) : List Column := (l.map (·.column)).filter (· ≠ .other)

def select (l : Layout) (p : Column → Bool) : Layout := l.filter fun c => p c.column

def gap (a b : Nat) : Nat := if a < b then b - a else a - b

/-- The column nearest to an offset, the leftmost one of several. -/
def nearest? (edge : Nat) : Layout → Option PlacedColumn
  | [] => none
  | c :: rest =>
    match nearest? edge rest with
    | none => some c
    | some d => if gap d.edge edge < gap c.edge edge then some d else some c

/-- Gives the numbers to the columns: one to each in order if there are as many, and otherwise
each to the column whose right edge is nearest. -/
def assign (l : Layout) (values : List PlacedValue) : List (Column × Float) :=
  if values.length = l.length then (l.zip values).map fun (c, v) => (c.column, v.value)
  else values.filterMap fun v => (nearest? v.edge l).map fun c => (c.column, v.value)

end Layout

end PathTiming
