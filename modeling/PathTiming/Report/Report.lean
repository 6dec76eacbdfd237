import PathTiming.Diagnostic.Basic
import PathTiming.Report.Scan
import PathTiming.Source.Sources

/-! The paths that were read from reports, with the rules that classify them. -/
namespace PathTiming

inductive AnalysisError where
  | noSuchPath (index count : Nat)
  | noLaunchClockPin (index : Nat)
  | noCaptureClock (index : Nat)
deriving Repr, DecidableEq, Inhabited

def AnalysisError.missing? : AnalysisError → Option String
  | noSuchPath _ _ => none
  | noLaunchClockPin _ => some "launch clock pin"
  | noCaptureClock _ => some "capture clock path"

def AnalysisError.message : AnalysisError → String
  | noSuchPath index count => s!"path {index} does not exist ({count} paths loaded)"
  | noLaunchClockPin index => s!"path {index} has no launch clock pin"
  | noCaptureClock index => s!"path {index} has no capture clock path"

structure Report where
  rules : RuleSet
  paths : List TimingPath := []
  options : EnumSet ReportOption := .empty
deriving Inhabited

namespace Report

def path (r : Report) (index : Nat) : Except AnalysisError TimingPath :=
  match r.paths[index]? with
  | some p => .ok p
  | none => .error (.noSuchPath index r.paths.length)

/-- The style of the paths, if the head of a report declared it. -/
def style? (r : Report) : Option PathStyle :=
  r.options.toList.findSome? fun o =>
    match o with
    | .style s => some s
    | .column _ => none

def hasColumn (r : Report) (c : Column) : Bool := r.options.contains (.column c)

def emptyRange : DiagnosticCode := ⟨.report, 201⟩

def emptyRangeWarning (file : SourceFile) (range : ScanRange) : Diagnostic where
  severity := .warning
  code := emptyRange
  message := s!"no timing path found from line {max range.start 1}"
  location := file.location (max range.start 1)

structure Findings where
  paths : List TimingPath := []
  columns : EnumSet Column := .empty
deriving Inhabited

/-- Reads ranges one after another, each for itself. The warnings are those up to the first range
that cannot be read. -/
def readRanges (rules : RuleSet) (through : List String) (file : SourceFile) :
    List ScanRange → List Diagnostic × Except FormatError Findings
  | [] => ([], .ok {})
  | range :: rest =>
    match Scan.ofRange rules through file range with
    | .error e => ([], .error e)
    | .ok found =>
      let warnings := if found.paths.isEmpty then [emptyRangeWarning file range] else []
      let (more, result) := readRanges rules through file rest
      (warnings ++ more, result.map fun later =>
        ⟨found.paths ++ later.paths, found.columns.union later.columns⟩)

/-- The options that the head and the tables of a report show. -/
def optionsOf (header : ReportHeader) (columns : EnumSet Column) : EnumSet ReportOption :=
  .ofList (header.style.toList.map .style ++ columns.toList.map .column)

structure Reading where
  report : Report
  warnings : List Diagnostic
  /-- The number of paths that were added. -/
  outcome : Except FormatError Nat

/-- Reads ranges of a report and adds their paths. Nothing is added if a range cannot be read. -/
def read (r : Report) (file : SourceFile) (ranges : List ScanRange) : Reading :=
  let header := ReportHeader.ofLines ((file.linesFrom 1).map (·.2))
  match readRanges r.rules header.through file ranges with
  | (warnings, .error e) => ⟨r, warnings, .error e⟩
  | (warnings, .ok found) =>
    { report := { r with
        paths := r.paths ++ found.paths
        options := r.options.union (optionsOf header found.columns) }
      warnings
      outcome := .ok found.paths.length }

structure Loading where
  report : Report
  sources : Sources
  warnings : List Diagnostic
  /-- The number of paths that were added. -/
  outcome : Except ReportError Nat

/-- Loads a file, and reads ranges of it. A file that cannot be read is not loaded. -/
def load (r : Report) (sources : Sources) (disk : Disk) (path : String) (ranges : List ScanRange) :
    Loading :=
  match sources.load disk path with
  | .error cause => ⟨r, sources, [], .error (.unreadable cause)⟩
  | .ok (sources, file) =>
    let reading := r.read file ranges
    ⟨reading.report, sources, reading.warnings, reading.outcome.mapError .format⟩

end Report

end PathTiming
