import PathTiming.Decimal.Reader
import PathTiming.Keyed
import PathTiming.Pattern.Basic
import PathTiming.Rules.PinName
import PathTiming.Rules.Toggle

/-! The rules by which pins and cells are classified. -/
namespace PathTiming

/-- Classes with their patterns. The class that was declared first is tried first; a class that is
declared again keeps its place and changes its pattern. -/
abbrev ClassTable := Keyed String Pattern

def ClassTable.firstMatch? (t : ClassTable) (text : String) : Option String :=
  (t.entries.find? fun entry => entry.2.isFullMatch text).map (·.1)

/-- Adds a name to names in ascending order. -/
def insertName (name : String) : List String → List String
  | [] => [name]
  | other :: rest =>
    if name = other then other :: rest
    else if name < other then name :: other :: rest
    else other :: insertName name rest

/-- What makes a pin a clock pin: its cell, its instance or its name. -/
structure ClockPinRules where
  cells : List String := []
  instances : List String := []
  patterns : List Pattern := []
deriving Inhabited

def ClockPinRules.claims (r : ClockPinRules) (pin cell : String) : Bool :=
  r.cells.contains cell || r.instances.contains (PinName.instanceOf pin) ||
    r.patterns.any (·.isFullMatch pin)

/-- Says of the cells that match whether they are clock cells. -/
structure ClockTypeRule where
  isClock : Bool
  pattern : Pattern
deriving Inhabited

/-- The drive strength of cells: listed, or read from their names. -/
structure DriveRules where
  /-- The first group of a match is the strength. -/
  pattern : Option Pattern := none
  cells : Keyed String Float := {}
deriving Inhabited

/-- The drive strength of a cell, if a rule gives it one. A listed cell takes precedence. -/
def DriveRules.strength? (r : DriveRules) (cell : String) : Option Float :=
  match r.cells.get? cell with
  | some value => some value
  | none => do
    let pattern ← r.pattern
    let groups ← pattern.captures cell
    let group ← groups[1]?
    Decimal.float? (← group).toList

structure CellArc where
  cell : String
  pinIn : String
  pinOut : String
deriving Repr, DecidableEq, Inhabited

/-- The name of an arc among those of its cell: its two pins, with a colon between them. -/
def CellArc.pins (arc : CellArc) : String := arc.pinIn ++ ":" ++ arc.pinOut

structure HoldChecks where
  /-- For each cell the labels of its arcs, by the names of the arcs. -/
  cells : Keyed String (Keyed String String) := {}
deriving Inhabited

namespace HoldChecks

def insert (t : HoldChecks) (arc : CellArc) (tag : String) : HoldChecks :=
  ⟨t.cells.alter arc.cell fun arcs => (arcs.getD {}).insert arc.pins tag⟩

def tag? (t : HoldChecks) (arc : CellArc) : Option String :=
  (t.cells.get? arc.cell).bind (·.get? arc.pins)

def isEmpty (t : HoldChecks) : Bool := t.cells.isEmpty

end HoldChecks

structure RuleSet where
  toggles : Toggles := {}
  /-- Named groups of chart data codes. -/
  barSets : Keyed String (List String) := {}
  clockPins : ClockPinRules := {}
  /-- The first rule that matches a cell decides on it. -/
  clockTypes : List ClockTypeRule := []
  /-- Cells whose pins are removed from the clock network. -/
  clockOverrides : List Pattern := []
  /-- Labels of the cell arcs whose delay is counted. -/
  holdChecks : HoldChecks := {}
  /-- The class of pins that no pattern matches; always a class of `pathClasses`. -/
  defaultClass : Option String := none
  pathClasses : ClassTable := {}
  cellClasses : ClassTable := {}
  drive : DriveRules := {}
deriving Inhabited

namespace RuleSet

def toggle (r : RuleSet) (t : Toggle) : Bool := r.toggles.value t

/-- Whether a cell is a clock cell, if some rule says so or denies it. -/
def clockType? (r : RuleSet) (cell : String) : Option Bool :=
  (r.clockTypes.find? fun rule => rule.pattern.isFullMatch cell).map (·.isClock)

def holdCheck? (r : RuleSet) (cell pinIn pinOut : String) : Option String :=
  r.holdChecks.tag? ⟨cell, pinIn, pinOut⟩

def overrides (r : RuleSet) (cell : String) : Bool := r.clockOverrides.any (·.isFullMatch cell)

/-- Whether a pin belongs to the clock network: some rule claims it, and no override removes it. One
switch keeps overrides away from cells that are not typed as clock cells. -/
def isClockPin (r : RuleSet) (pin cell : String) : Bool :=
  r.clockPins.claims pin cell &&
    (!r.overrides cell ||
      (r.toggle .ckmWithNonClockCell && r.clockType? cell != some true))

def barSet? (r : RuleSet) (tag : String) : Option (List String) := r.barSets.get? tag

end RuleSet

end PathTiming
