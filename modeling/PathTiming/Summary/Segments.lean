import PathTiming.Analysis.Chart
import PathTiming.Summary.Layout

/-! The segment block of a path summary, and its totals of crosstalk delay. -/
namespace PathTiming.Summary

/-- Whether the paths of a report show the pins of the clock networks. -/
def showsClockPins : Option PathStyle → Bool
  | some .fullClock | some .fullClockExpanded => true
  | some .full | none => false

/-- The totals of the delay that crosstalk adds to the data path and to both clock networks. -/
def delta (r : Report) (path : TimingPath) : List String :=
  let absent := "N/A"
  let data := if r.hasColumn .delta then amount path.dataDelta else absent
  let clock (side : ClockSide) : String :=
    if r.hasColumn .delta && showsClockPins r.style? then Decimal.fixed 4 side.delta else absent
  [label "total delta (D:L:C):" ++ s!"{data} : {clock path.launch} : {clock path.capture}", rule]

def segmentList (segments : List Segment) : String :=
  String.intercalate " " <| segments.map fun s =>
    s.tag.getD Chart.noPathClass ++ ":" ++ amount s.value

/-- Lines behind a thin rule; no rule stands alone. -/
def underRule (lines : List String) : List String :=
  if lines.isEmpty then [] else thinRule :: lines

def dataSegments (rules : RuleSet) (s : PathSegments) : List String :=
  underRule <|
    (if rules.toggle .segmentDataLatencyOnReport then
        [" data latency: " ++ segmentList s.dataLatency]
      else []) ++
    (if rules.toggle .segmentDataDeltaOnReport then
        [" data delta:   " ++ segmentList s.dataDelta]
      else [])

/-- The segments of the launch clock network, behind the latency of its source. -/
def launchSegments (rules : RuleSet) (path : TimingPath) (s : PathSegments) : List String :=
  underRule <|
    (if rules.toggle .segmentLaunchClkLatencyOnReport then
        [s!" launch clk latency:  SC:{amount path.launch.sourceLatency} " ++
          segmentList s.launchLatency]
      else []) ++
    (if rules.toggle .segmentLaunchClkDeltaOnReport then
        [" launch clk delta:    " ++ segmentList s.launchDelta]
      else [])

/-- The segments of the capture clock network, behind the latency of its source. -/
def captureSegments (rules : RuleSet) (path : TimingPath) (s : PathSegments) : List String :=
  let withCrpr := rules.toggle .segmentCaptureClkLatencyIncludeCrpr
  underRule <|
    (if rules.toggle .segmentCaptureClkLatencyOnReport then
        [s!" capture clk latency: SC:{amount (path.captureSourceLatency withCrpr)} " ++
          segmentList s.captureLatency ++ if withCrpr then " (include crpr)" else ""]
      else []) ++
    (if rules.toggle .segmentCaptureClkDeltaOnReport then
        [" capture clk delta:   " ++ segmentList s.captureDelta]
      else [])

/-- The segment block of a path. Clock networks are divided if the report shows their pins, and the
data path if it has a known style. -/
def segments (r : Report) (path : TimingPath) : List String :=
  if r.rules.pathClasses.isEmpty then
    [" Segment: no path classification patterns defined.", rule]
  else
    let s := PathSegments.ofPath path r.rules
    let styleName := (r.style?.map PathStyle.label).getD "unknown"
    [s!" Segment:  (report path type: {styleName})"] ++
      (if r.style?.isSome then dataSegments r.rules s else []) ++
      (if showsClockPins r.style? then
          launchSegments r.rules path s ++ captureSegments r.rules path s
        else []) ++
      [rule]

end PathTiming.Summary
