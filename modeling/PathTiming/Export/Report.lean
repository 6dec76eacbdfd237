import PathTiming.Decimal.Printer
import PathTiming.Json
import PathTiming.Report.Report

/-! Reports as JSON. -/
namespace PathTiming

/-- A double as JSON. What is no number in JSON is null. -/
def Json.float (x : Float) : Json :=
  match Decimal.json? x with
  | some text => .number text
  | none => .null

def Pin.toJson (p : Pin) : Json :=
  .object [
    ("name", .string p.name),
    ("cell", .string p.cell),
    ("cap", .float p.cap),
    ("phy", .float p.distance),
    ("tran", .float p.transition),
    ("incr", .float p.increment),
    ("cumulative", .float p.cumulative),
    ("delta", .float p.delta),
    ("drv", .option .float p.drive),
    ("ln", .nat p.line),
    ("is_clock", .bool p.isClock)]

/-- A path as JSON. Delays that a path does not have are zero, and each has a member that says
whether the path has it. -/
def TimingPath.toJson (p : TimingPath) : Json :=
  .object [
    ("ln", .nat p.line),
    ("startpoint", .string p.startpoint),
    ("endpoint", .string p.endpoint),
    ("group", .string p.group),
    ("delay_type", .string p.delayType.label),
    ("scenario", .option .string p.scenario),
    ("launch_edge", .option (fun e => .string e.label) p.launch.edge),
    ("launch_clock", .option .string p.launch.clock),
    ("capture_edge", .option (fun e => .string e.label) p.capture.edge),
    ("capture_clock", .option .string p.capture.clock),
    ("lpath", .list Pin.toJson p.launchPins),
    ("cpath", .list Pin.toJson p.capturePins),
    ("spin", .option .nat p.clockPinAt),
    ("sgpi", .option .nat p.launch.generatedAt),
    ("egpi", .option .nat p.capture.generatedAt),
    ("arrival", .float p.arrival),
    ("required", .float p.required),
    ("slack", .float p.slack),
    ("input_delay", .float (p.inputDelay.getD 0)),
    ("output_delay", .float (p.outputDelay.getD 0)),
    ("launch_latency", .float p.launch.latency),
    ("capture_latency", .float p.capture.latency),
    ("uncertainty", .float p.uncertainty),
    ("library", .float p.library),
    ("path_margin", .float (p.pathMargin.getD 0)),
    ("crpr", .float p.crpr),
    ("max_delay", .float (p.maxDelay.getD 0)),
    ("launch_edge_value", .float p.launch.edgeTime),
    ("capture_edge_value", .float p.capture.edgeTime),
    ("launch_source_latency", .float p.launch.sourceLatency),
    ("capture_source_latency", .float p.capture.sourceLatency),
    ("data_delta", .float p.dataDelta),
    ("launch_delta", .float p.launch.delta),
    ("capture_delta", .float p.capture.delta),
    ("hcd", .object (p.holdChecks.entries.map fun (tag, value) => (tag, .float value))),
    ("thp", .list .string p.through),
    ("has_input_delay", .bool p.inputDelay.isSome),
    ("has_output_delay", .bool p.outputDelay.isSome),
    ("has_path_margin", .bool p.pathMargin.isSome),
    ("has_max_delay", .bool p.maxDelay.isSome)]

def PathStyle.jsonName : PathStyle → String
  | full => "Full"
  | fullClock => "FullClock"
  | fullClockExpanded => "FullClockExpanded"

def ReportOption.toJson : ReportOption → Json
  | style s => .object [("Style", .string s.jsonName)]
  | column c => .object [("Column", .string c.label)]

def Report.toJson (r : Report) : Json :=
  .object [
    ("options", .list ReportOption.toJson r.options.toList),
    ("paths", .list TimingPath.toJson r.paths)]

end PathTiming
