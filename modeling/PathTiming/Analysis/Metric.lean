import PathTiming.Decimal.Printer
import PathTiming.Report.Report

/-! Quantities of paths, and tables of them. -/
namespace PathTiming

inductive Metric where
  | line
  | startpoint
  | endpoint
  | dataLatency
  | arrival
  | required
  | slack
  | uncertainty
  | library
  | launchLatency
  | captureLatency
  | launchSourceLatency
  | captureSourceLatency
  | launchBodyLatency
  | captureBodyLatency
  | crpr
  | skew
  | dataDelta
  | launchDelta
  | captureDelta
deriving Repr, DecidableEq, Inhabited

inductive MetricValue where
  | line (n : Nat)
  | text (s : String)
  | number (x : Float)
deriving Repr, Inhabited

def MetricValue.display : MetricValue → String
  | line n => toString n
  | text s => s
  | number x => Decimal.plain x

def MetricValue.number? : MetricValue → Option Float
  | number x => some x
  | _ => none

namespace Metric

instance : Listed Metric where
  all := [line, startpoint, endpoint, dataLatency, arrival, required, slack, uncertainty, library,
    launchLatency, captureLatency, launchSourceLatency, captureSourceLatency, launchBodyLatency,
    captureBodyLatency, crpr, skew, dataDelta, launchDelta, captureDelta]
  mem_all m := by cases m <;> decide

def code : Metric → String
  | line => "ln"
  | startpoint => "stp"
  | endpoint => "edp"
  | dataLatency => "dlat"
  | arrival => "arr"
  | required => "req"
  | slack => "slk"
  | uncertainty => "unce"
  | library => "lib"
  | launchLatency => "llat"
  | captureLatency => "clat"
  | launchSourceLatency => "sllat"
  | captureSourceLatency => "sclat"
  | launchBodyLatency => "bllat"
  | captureBodyLatency => "bclat"
  | crpr => "crpr"
  | skew => "skew"
  | dataDelta => "ddt"
  | launchDelta => "ldt"
  | captureDelta => "cdt"

def ofCode? (text : String) : Option Metric :=
  (Listed.all : List Metric).find? fun m => m.code = text

/-- The code that stands for all source and body latencies. -/
def latencyGroup : String := "slat"

/-- The columns that one code stands for. The line is always the first column and is not repeated.
An unknown code is the error. -/
def expand (code : String) : Except String (List Metric) :=
  if code = latencyGroup then
    .ok [launchSourceLatency, captureSourceLatency, launchBodyLatency, captureBodyLatency]
  else
    match ofCode? code with
    | some line => .ok []
    | some m => .ok [m]
    | none => .error code

def columns (codes : List String) : Except String (List Metric) := do
  return line :: (← codes.mapM expand).flatten

def defaultColumns : List Metric := [line, arrival, required, slack]

def value (m : Metric) (path : TimingPath) (rules : RuleSet) : MetricValue :=
  match m with
  | line => .line path.line
  | startpoint => .text path.startName
  | endpoint => .text path.endName
  | dataLatency => .number path.dataLatency
  | arrival => .number path.arrival
  | required => .number path.required
  | slack => .number path.slack
  | uncertainty => .number path.uncertainty
  | library => .number path.library
  | launchLatency => .number path.launch.latency
  | captureLatency => .number path.capture.latency
  | launchSourceLatency => .number path.launch.sourceLatency
  | captureSourceLatency =>
    .number (path.captureSourceLatency (rules.toggle .segmentCaptureClkLatencyIncludeCrpr))
  | launchBodyLatency => .number path.launchBodyLatency
  | captureBodyLatency => .number (path.captureBodyLatency false)
  | crpr => .number path.crpr
  | skew => .number path.skew
  | dataDelta => .number path.dataDelta
  | launchDelta => .number path.launch.delta
  | captureDelta => .number path.capture.delta

end Metric

namespace Report

/-- The table of some quantities: a line of codes in capitals, and a line for each path. Blanks
divide the fields. -/
def metricTable (r : Report) (columns : List Metric) : List String :=
  let row (fields : List String) := String.intercalate " " fields
  row (columns.map fun m => m.code.toUpper) ::
    r.paths.map fun path => row (columns.map fun m => (m.value path r.rules).display)

end Report

end PathTiming
