import Std.Data.TreeSet
import PathTiming.Pattern.Program

/-! Search for the leftmost, most preferred match of a program. -/
namespace PathTiming.Pattern

/-- Positions at which groups start and stop, two slots for each group. -/
abbrev Slots := Array (Option Nat)

/-- A way to go on: a step of the program at a position of the text. -/
structure Thread where
  step : Nat
  position : Nat
  slots : Slots
deriving Inhabited

namespace Program

def pairCount (p : Program) (text : Array Char) : Nat := p.code.size * (text.size + 1)

def pairIndex (text : Array Char) (t : Thread) : Nat := t.step * (text.size + 1) + t.position

/-- The threads that a thread leads to, the preferred one first. -/
def successors (p : Program) (text : Array Char) (t : Thread) : List Thread :=
  match p.code[t.step]? with
  | none | some .fail | some .accept => []
  | some (.take chars next) =>
    match text[t.position]? with
    | none => []
    | some c =>
      if chars.contains c.toNat then [{ t with step := next, position := t.position + 1 }] else []
  | some (.look condition next) =>
    let before := if t.position = 0 then none else text[t.position - 1]?
    if condition.holds before text[t.position]? then [{ t with step := next }] else []
  | some (.save slot next) =>
    [{ t with step := next, slots := t.slots.setIfInBounds slot (some t.position) }]
  | some (.split first second) => [{ t with step := first }, { t with step := second }]

def accepts (p : Program) (t : Thread) : Bool :=
  match p.code[t.step]? with
  | some .accept => true
  | _ => false

/-- Follows threads in order of preference up to the first match. A pair of a step and a position
that was seen before is not followed again, since it led nowhere or is being followed. -/
def follow (p : Program) (text : Array Char) :
    (fuel : Nat) → List Thread → Std.TreeSet Nat → Option Slots × Std.TreeSet Nat
  | 0, _, seen => (none, seen)
  | _ + 1, [], seen => (none, seen)
  | fuel + 1, t :: rest, seen =>
    let i := pairIndex text t
    if seen.contains i then p.follow text fuel rest seen
    else if p.accepts t then (some t.slots, seen)
    else p.follow text fuel (p.successors text t ++ rest) (seen.insert i)

/-- Tries the starting positions in turn. Each pair adds at most two threads, which bounds the
steps. -/
def searchFrom (p : Program) (text : Array Char) : List Nat → Std.TreeSet Nat → Option Slots
  | [], _ => none
  | position :: later, seen =>
    let first : Thread := ⟨p.start, position, .replicate p.slotCount none⟩
    match p.follow text (2 * p.pairCount text + 2) [first] seen with
    | (some slots, _) => some slots
    | (none, seen) => p.searchFrom text later seen

def search (p : Program) (text : Array Char) : Option Slots :=
  p.searchFrom text (List.range (text.size + 1)) ∅

end Program

end PathTiming.Pattern
