import PathTiming.Text.Split
import PathTiming.Unicode.RangeTable

/-! Case mappings that send one character to one character. -/
namespace PathTiming.Unicode

/-- A run of evenly spaced code points, each sent the same distance away. -/
structure CaseRun where
  first : Nat
  target : Nat
  count : Nat
  step : Nat
deriving Inhabited

/-- The place of `n` in an evenly spaced run that starts at `start`. -/
def CaseRun.index? (r : CaseRun) (start n : Nat) : Option Nat :=
  if start ≤ n ∧ (n - start) % r.step = 0 ∧ (n - start) / r.step < r.count then
    some ((n - start) / r.step)
  else none

/-- A case mapping as a list of runs; every code point outside of them maps to itself. -/
structure CaseMap where
  runs : List CaseRun
deriving Inhabited

namespace CaseMap

/-- Reads a mapping from blank-separated `first.target.count.step` words. -/
def decode (text : String) : CaseMap :=
  ⟨(Text.words text.toList).filterMap fun word =>
    match (Text.splitOn '.' word).map numeral36 with
    | [first, target, count, step] => some { first, target, count, step }
    | _ => none⟩

def apply (m : CaseMap) (n : Nat) : Nat :=
  (m.runs.findSome? fun r => (r.index? r.first n).map fun i => r.target + i * r.step).getD n

/-- The code points outside `n` itself that are sent to `n`. -/
def preimages (m : CaseMap) (n : Nat) : List Nat :=
  m.runs.filterMap fun r => (r.index? r.target n).map fun i => r.first + i * r.step

/-- Every code point with the same image as `n`, `n` included. -/
def orbit (m : CaseMap) (n : Nat) : List Nat :=
  let image := m.apply n
  n :: image :: m.preimages image

def pairs (m : CaseMap) : List (Nat × Nat) :=
  m.runs.flatMap fun r =>
    (List.range r.count).map fun i => (r.first + i * r.step, r.target + i * r.step)

/-- The code points that have the image of some member of a set. The images of members are added
first, and then everything with one of these images. -/
def close (m : CaseMap) (t : RangeTable) : RangeTable :=
  let pairs := m.pairs
  let images := (pairs.filter fun p => t.contains p.1).map (·.2)
  let withImages := (RangeTable.ofPoints images).or t
  let sources := (pairs.filter fun p => withImages.contains p.2).map (·.1)
  (RangeTable.ofPoints sources).or withImages

end CaseMap

end PathTiming.Unicode
