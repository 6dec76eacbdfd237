import PathTiming.Rules.PinName

/-! Pins of a timing path. -/
namespace PathTiming

/-- One timing point of a path. -/
structure Pin where
  /-- Hierarchical name, divided by slashes. -/
  name : String
  /-- Library cell; a port has none. -/
  cell : String := ""
  cap : Float := 0
  /-- Distance from the last pin with a location, along the axes. -/
  distance : Float := 0
  transition : Float := 0
  increment : Float := 0
  cumulative : Float := 0
  /-- Delay added by crosstalk. -/
  delta : Float := 0
  /-- Drive strength of the cell, if a rule gives it. -/
  drive : Option Float := none
  /-- Line of the report. -/
  line : Nat := 0
  /-- Whether the rules count the pin to the clock network. -/
  isClock : Bool := false
deriving Inhabited

namespace Pin

def inst (p : Pin) : String := PinName.instanceOf p.name

def shortName (p : Pin) : String := PinName.pinOf p.name

def isPort (p : Pin) : Bool := p.cell.isEmpty

end Pin

/-- The delay that crosstalk adds on some pins. The sum of none is negative zero. -/
def deltaSum (pins : List Pin) : Float := pins.foldl (fun sum p => sum + p.delta) (-0.0)

end PathTiming
