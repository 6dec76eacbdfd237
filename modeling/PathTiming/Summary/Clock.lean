import PathTiming.Analysis.ClockCheck
import PathTiming.Summary.Layout

/-! The clock block of a path summary: edges, latencies and the check of the networks. -/
namespace PathTiming.Summary

def numberOrDash (n : Option Nat) : String := (n.map toString).getD "-"

def typeDetail : Option TypeConflict → String
  | none => ""
  | some c =>
    let place := s!"level {c.level}, ln:{c.launchLine}:{c.captureLine}"
    if c.isUnknown then s!"(unknown clock type at {place})" else s!"({place})"

def sourceDetail (c : SourceCheck) : String :=
  match c.mismatch with
  | some level => s!"(differs at level {level})"
  | none => if c.verdict = .pass then "" else "(no common source)"

/-- The result of a check in three lines: each has a verdict, or the lengths of the networks and the
level of the fork, and the places in the report. -/
def checkLines (path : TimingPath) (check : ClockCheck) : List String :=
  let levels :=
    s!"{numberOrDash path.launchGeneratedLength?}/{path.captureGeneratedLength}/{check.fork.level}"
  let line (name result detail : String) : String :=
    label name ++ " " ++ Text.padRight levels.length result ++ "    " ++ detail
  [line "clock cell type check:" check.typeVerdict.label (typeDetail check.conflict),
    line "clock source path match:" check.source.verdict.label (sourceDetail check.source),
    line "clock network path fork:" levels
      s!"(ln:{numberOrDash check.fork.launchLine}:{numberOrDash check.fork.captureLine})"]

/-- The edges and latencies. Without a capture clock only the launch latency is left. -/
def skewLines (rules : RuleSet) (path : TimingPath) : List String :=
  if !rules.toggle .clockSkewOnReport then []
  else if path.maxDelay.isSome then [field "launch clock latency:" path.launch.latency]
  else
    [field "launch clock edge value:" path.launch.edgeTime,
      field "capture clock edge value:" path.capture.edgeTime,
      field "launch clock latency:" path.launch.latency,
      field "capture clock latency:" path.capture.latency,
      field "crpr:" path.crpr,
      field "clock skew:" path.skew]

/-- The result of a check, or why it was skipped. A path that does not exist is an error. -/
def checkResult (path : TimingPath) :
    Except AnalysisError ClockCheck → Except AnalysisError (List String × Option ClockCheck)
  | .ok check => .ok (checkLines path check, some check)
  | .error e =>
    match e.missing? with
    | some part => .ok ([label "clock path check:" ++ s!" skipped (no {part})"], none)
    | none => .error e

def clock (r : Report) (index : Nat) (path : TimingPath) (checked traced : Bool) :
    Except AnalysisError (List String × Option ClockCheck) := do
  let skew := skewLines r.rules path
  let (result, check) ←
    if checked && path.maxDelay.isNone then checkResult path (r.clockCheck index traced)
    else .ok ([], none)
  let separator := if skew.isEmpty || result.isEmpty then [] else [thinRule]
  let limit := (path.maxDelay.map (field "max delay:")).toList
  let lines := skew ++ separator ++ result ++ limit
  return (if lines.isEmpty then [] else lines ++ [rule], check)

end PathTiming.Summary
