import PathTiming.CommandLine.Words

/-! What a run is asked to do. -/
namespace PathTiming

inductive ColourChoice where
  /-- Only on a terminal. -/
  | auto
  | always
  | never
deriving Repr, DecidableEq, Inhabited

inductive MessageFormat where
  | text
  | json
deriving Repr, DecidableEq, Inhabited

structure Options where
  report : String
  /-- The rules file. -/
  config : Option String := none
  /-- Read no rules file at all. -/
  noConfig : Bool := false
  /-- The ranges of the report to read. -/
  range : Option String := none
  clockCheck : Bool := false
  /-- The file for traces of clock checks; it implies the checks. -/
  traceFile : Option String := none
  deltaSum : Bool := false
  segments : Bool := false
  /-- Codes of chart data; an empty list stands for all. -/
  barData : Option (List String) := none
  /-- Codes of the parts of the path that charts show. -/
  barParts : List String := []
  /-- A group of chart data that the rules name. -/
  barSet : Option String := none
  /-- The file for chart series; without it they are printed. -/
  barFile : Option String := none
  /-- The file for the table of quantities. -/
  tableFile : Option String := none
  /-- Codes of the columns of the table. -/
  columns : List String := []
  /-- Print the paths as JSON and stop. -/
  debug : Bool := false
  format : MessageFormat := .text
  quiet : Bool := false
  verbose : Bool := false
  colour : ColourChoice := .auto
deriving Repr, DecidableEq, Inhabited

namespace Options

def ofCommandLine (l : CommandLine) : Options :=
  let one (a : Argument) : Option String := (l.valuesOf a).head?
  { report := (one .report).getD ""
    config := one .config
    noConfig := l.has .noConfig
    range := one .range
    clockCheck := l.has .clockCheck
    traceFile := one .traceFile
    deltaSum := l.has .deltaSum
    segments := l.has .segments
    barData := if l.has .barData then some (l.valuesOf .barData) else none
    barParts := l.valuesOf .barPath
    barSet := one .barSet
    barFile := one .barFile
    tableFile := one .tableFile
    columns := l.valuesOf .tableColumns
    debug := l.has .debug
    format := if one .format = some "json" then .json else .text
    quiet := l.has .quiet
    verbose := l.has .verbose
    colour :=
      match one .colour with
      | some "always" => .always
      | some "never" => .never
      | _ => .auto }

def ofWords (words : List String) : Except UsageError Options :=
  (CommandLine.ofWords words).map ofCommandLine

def isColoured (o : Options) (terminal : Bool) : Bool :=
  match o.colour with
  | .auto => terminal
  | .always => true
  | .never => false

end Options

end PathTiming
