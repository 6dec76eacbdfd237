import PathTiming.Report.Report
import PathTiming.Summary.Layout

/-! The banner of a path summary: what the path is. -/
namespace PathTiming.Summary

/-- The clock of one side with its edge. Dashes stand for what the report does not say. -/
def clockLabel (side : ClockSide) : String :=
  let edge := (side.edge.map ClockEdge.label).getD "-"
  let clock := side.clock.getD "-"
  s!"({edge} {clock})"

/-- The widest name that leaves room for a clock on its line. -/
def widestName : Nat := 80

/-- The names of both ends with their clocks. A point-to-point constraint has no clocks to show. -/
def endLines (path : TimingPath) : List String :=
  let startName := path.startName
  let endName := path.endName
  let width := max (Text.byteLength startName) (Text.byteLength endName)
  if path.maxDelay.isSome then
    [s!" Startpoint: {startName}", s!" Endpoint:   {endName}"]
  else if widestName < width then
    [s!" Startpoint: {startName}",
      s!"             {clockLabel path.launch}",
      s!" Endpoint:   {endName}",
      s!"             {clockLabel path.capture}"]
  else
    [s!" Startpoint: {Text.padRight width startName} {clockLabel path.launch}",
      s!" Endpoint:   {Text.padRight width endName} {clockLabel path.capture}"]

/-- The pins that the report command asked to go through. -/
def throughLines (rules : RuleSet) (path : TimingPath) : List String :=
  if rules.toggle .throughPinOnReport && !path.through.isEmpty then
    thinRule :: path.through.map fun pin => s!" Through:    {pin}"
  else []

def banner (rules : RuleSet) (path : TimingPath) : List String :=
  [rule] ++ endLines path ++
    [s!" Path group: {path.group}", s!" Delay type: {path.delayType.label}"] ++
    (path.scenario.map fun name => s!" Scenario:   {name}").toList ++
    throughLines rules path ++ [rule]

end PathTiming.Summary
