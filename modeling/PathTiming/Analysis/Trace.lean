import PathTiming.Analysis.ClockCheck
import PathTiming.Text.Words

/-! The written form of a clock network trace. -/
namespace PathTiming

namespace TracePin

/-- The mark of a cell type: yes, no or unknown. -/
def typeMark : Option Bool → String
  | some true => "Y"
  | some false => "N"
  | none => "?"

/-- A pin with its cell, its type and its line. A dash stands where a network has ended. -/
def describe : Option TracePin → String
  | none => "-"
  | some p =>
    let cell := if p.cell.isEmpty then "port" else p.cell
    s!"{p.name} ({cell}) [{typeMark p.clockType}] ln:{p.line}"

end TracePin

/-- One level of a trace, with the launch side filled up to `width`. A star marks common pins. -/
def TraceRow.describe (width : Nat) (row : TraceRow) : String :=
  let mark := if row.shared then "*" else " "
  Text.padLeft ' ' 4 (toString row.level) ++ " " ++ mark ++ " " ++
    Text.padRight width (TracePin.describe row.launch) ++ " | " ++ TracePin.describe row.capture

/-- The section of a path in a trace file: a heading, the verdicts, the levels and an empty line.
Paths are counted from 1. -/
def ClockCheck.traceLines (check : ClockCheck) (index : Nat) (path : TimingPath) : List String :=
  let rows := check.trace.getD []
  let width := (rows.map fun row => Text.byteLength (TracePin.describe row.launch)).foldl max 0
  [s!"### path {index + 1} (ln:{path.line}) {path.startpoint} -> {path.endpoint}",
    s!"# source: {check.source.verdict.label}  fork level: {check.fork.level}  " ++
      s!"cell type: {check.typeVerdict.label}"] ++
    rows.map (TraceRow.describe width) ++ [""]

end PathTiming
