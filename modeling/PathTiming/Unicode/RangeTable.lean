import PathTiming.Text.Words

/-! Sets of characters written as ascending ranges of code points. -/
namespace PathTiming.Unicode

/-- Ascending, disjoint, inclusive ranges of code points. No two of them touch, so a set has one
table only. Code points that stand for no character, the surrogates, occur in none. -/
structure RangeTable where
  ranges : Array (Nat × Nat)
deriving Repr, DecidableEq, Inhabited

def digit36 (c : Char) : Nat :=
  if c.isDigit then c.toNat - '0'.toNat else c.toNat - 'a'.toNat + 10

/-- Value of a numeral in base 36, the most significant digit first. -/
def numeral36 (cs : List Char) : Nat := cs.foldl (fun n c => 36 * n + digit36 c) 0

def maxPoint : Nat := 0x10ffff

/-- Adds a range to ascending ranges, and joins it with those that it meets or touches. -/
def insertRange (r : Nat × Nat) : List (Nat × Nat) → List (Nat × Nat)
  | [] => [r]
  | s :: rest =>
    if r.2 + 1 < s.1 then r :: s :: rest
    else if s.2 + 1 < r.1 then s :: insertRange r rest
    else insertRange (min r.1 s.1, max r.2 s.2) rest

def gaps (low : Nat) : List (Nat × Nat) → List (Nat × Nat)
  | [] => if low ≤ maxPoint then [(low, maxPoint)] else []
  | (first, last) :: rest =>
    if low < first then (low, first - 1) :: gaps (last + 1) rest else gaps (last + 1) rest

namespace RangeTable

/-- Reads one `gap.more` word: the points skipped since the last range, and how many follow the
first point of this one. -/
def entry (word : List Char) : Nat × Nat :=
  (numeral36 (word.takeWhile (· != '.')), numeral36 ((word.dropWhile (· != '.')).drop 1))

def decode (text : String) : RangeTable :=
  let step (acc : Array (Nat × Nat) × Nat) (word : List Char) :=
    let (gap, more) := entry word
    let first := acc.2 + gap
    (acc.1.push (first, first + more), first + more + 1)
  ⟨((Text.words text.toList).foldl step (#[], 0)).1⟩

/-- Binary search in the ranges numbered from `lo` up to, but not including, `hi`. -/
def search (ranges : Array (Nat × Nat)) (n lo hi : Nat) : Bool :=
  if lo < hi then
    let mid := (lo + hi) / 2
    match ranges[mid]? with
    | none => false
    | some (a, b) =>
      if n < a then search ranges n lo mid
      else if b < n then search ranges n (mid + 1) hi
      else true
  else false
termination_by hi - lo

/-- Whether the code point `n` lies in one of the ranges. -/
def contains (t : RangeTable) (n : Nat) : Bool := search t.ranges n 0 t.ranges.size

def empty : RangeTable := ⟨#[]⟩

def isEmpty (t : RangeTable) : Bool := t.ranges.isEmpty

def ofRanges (ranges : List (Nat × Nat)) : RangeTable := ⟨(ranges.foldr insertRange []).toArray⟩

def ofPoints (points : List Nat) : RangeTable := ofRanges (points.map fun n => (n, n))

def range (first last : Nat) : RangeTable :=
  ofRanges ([(first, min last 0xd7ff), (max first 0xe000, last)].filter fun r => r.1 ≤ r.2)

def single (c : Char) : RangeTable := ⟨#[(c.toNat, c.toNat)]⟩

def single? (t : RangeTable) : Option Char :=
  match t.ranges.toList with
  | [(first, last)] => if first = last then some (Char.ofNat first) else none
  | _ => none

def or (a b : RangeTable) : RangeTable :=
  ⟨(a.ranges.toList.foldr insertRange b.ranges.toList).toArray⟩

def union (tables : List RangeTable) : RangeTable := tables.foldl or empty

def compl (t : RangeTable) : RangeTable :=
  ⟨(gaps 0 (insertRange (0xd800, 0xdfff) t.ranges.toList)).toArray⟩

def inter (a b : RangeTable) : RangeTable := (a.compl.or b.compl).compl

def diff (a b : RangeTable) : RangeTable := (a.compl.or b).compl

def symmDiff (a b : RangeTable) : RangeTable := (a.diff b).or (b.diff a)

end RangeTable

def lookup? (tables : List (List String × String)) (name : String) : Option RangeTable :=
  (tables.find? fun t => t.1.contains name).map fun t => .decode t.2

end PathTiming.Unicode
