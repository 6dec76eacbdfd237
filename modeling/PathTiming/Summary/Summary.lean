import PathTiming.Summary.Banner
import PathTiming.Summary.Clock
import PathTiming.Summary.Segments
import PathTiming.Summary.Slack

/-! Summaries of paths. -/
namespace PathTiming

/-- The blocks that are asked for, on top of those that the rules switch on. -/
structure SummaryOptions where
  clockCheck : Bool := false
  /-- Keep the trace of the clock check. -/
  trace : Bool := false
  deltaSum : Bool := false
  segments : Bool := false
deriving Repr, DecidableEq, Inhabited

structure Summary where
  lines : List String
  /-- The clock check, if it was made. -/
  check : Option ClockCheck
deriving Repr, Inhabited

/-- The summary of the path of an index: its banner, then the blocks, then an empty line. -/
def Report.summary (r : Report) (o : SummaryOptions) (index : Nat) :
    Except AnalysisError Summary := do
  let path ← r.path index
  let checked := o.clockCheck || r.rules.toggle .clockCheckEnable
  let (clock, check) ← Summary.clock r index path checked o.trace
  let delta :=
    if o.deltaSum || r.rules.toggle .deltaSumEnable then Summary.delta r path else []
  let segments :=
    if o.segments || r.rules.toggle .pathSegmentEnable then Summary.segments r path else []
  return {
    lines := Summary.banner r.rules path ++ Summary.slack r.rules path ++ clock ++ delta ++
      segments ++ [""]
    check }

end PathTiming
