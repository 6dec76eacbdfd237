import PathTiming.Report.Report

/-! Division of the pins of a path into segments of one class. -/
namespace PathTiming

/-- The class of a key after a key of class `current`. A class is kept as long as its pattern
matches; otherwise the first class that matches is taken, or the default. -/
def nextTag (table : ClassTable) (default current : Option String) (key : String) :
    Option String :=
  let keeps :=
    match current.bind table.get? with
    | some pattern => pattern.isFullMatch key
    | none => false
  if keeps then current else (table.firstMatch? key).or default

/-- The classes of keys that follow a key of class `current`. -/
def tagsFrom (table : ClassTable) (default current : Option String) :
    List String → List (Option String)
  | [] => []
  | key :: keys =>
    let tag := nextTag table default current key
    tag :: tagsFrom table default tag keys

/-- The classes of keys, the first of which follows a key of the default class. -/
def stickyTags (table : ClassTable) (default : Option String) (keys : List String) :
    List (Option String) :=
  tagsFrom table default default keys

/-- Consecutive items of one class, numbered from `start` up to, but not including, `stop`. -/
structure TagRun where
  tag : Option String
  start : Nat
  stop : Nat
deriving Repr, DecidableEq, Inhabited

/-- The longest runs of equal classes, the first of which stands at `start`. -/
def runsFrom (start : Nat) : List (Option String) → List TagRun
  | [] => []
  | tag :: tags =>
    match runsFrom (start + 1) tags with
    | [] => [⟨tag, start, start + 1⟩]
    | run :: runs =>
      if run.tag = tag then ⟨tag, start, run.stop⟩ :: runs
      else ⟨tag, start, start + 1⟩ :: run :: runs

def tagRuns (tags : List (Option String)) : List TagRun := runsFrom 0 tags

structure Segment where
  tag : Option String
  value : Float
deriving Repr, Inhabited

def TagRun.pins (run : TagRun) (pins : List Pin) : List Pin :=
  (pins.drop run.start).take (run.stop - run.start)

/-- The time before a run: that of the pin before it, and zero for the first run. -/
def TagRun.timeBefore (run : TagRun) (pins : List Pin) : Float :=
  if run.start = 0 then 0 else ((pins[run.start - 1]?).map (·.cumulative)).getD 0

def TagRun.latency (run : TagRun) (pins : List Pin) : Float :=
  let before := run.timeBefore pins
  (((run.pins pins).getLast?).map (·.cumulative)).getD before - before

/-- The segments of some pins with their latencies and with the delays that crosstalk adds. -/
def segmentPins (pins : List Pin) (table : ClassTable) (default : Option String) :
    List Segment × List Segment :=
  let runs := tagRuns (stickyTags table default (pins.map (·.name)))
  (runs.map fun run => ⟨run.tag, run.latency pins⟩,
    runs.map fun run => ⟨run.tag, deltaSum (run.pins pins)⟩)

structure PathSegments where
  dataLatency : List Segment
  dataDelta : List Segment
  launchLatency : List Segment
  launchDelta : List Segment
  captureLatency : List Segment
  captureDelta : List Segment
deriving Repr, Inhabited

def PathSegments.ofPath (path : TimingPath) (rules : RuleSet) : PathSegments :=
  let divide (pins : List Pin) := segmentPins pins rules.pathClasses rules.defaultClass
  let (dataLatency, dataDelta) := divide path.dataPins
  let (launchLatency, launchDelta) := divide path.launchClockPins
  let (captureLatency, captureDelta) := divide path.capturePins
  { dataLatency, dataDelta, launchLatency, launchDelta, captureLatency, captureDelta }

def Report.segments (r : Report) (index : Nat) : Except AnalysisError PathSegments := do
  return .ofPath (← r.path index) r.rules

end PathTiming
