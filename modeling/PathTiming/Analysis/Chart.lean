import PathTiming.Analysis.Segment

/-! Series of values for bar charts of a path. -/
namespace PathTiming

inductive BarData where
  | distance
  | cap
  | trans
  | delta
  | incr
  /-- Delays by the class of the cell, with its drive strength. -/
  | cellType
deriving Repr, DecidableEq, Inhabited

namespace BarData

instance : Listed BarData where
  all := [distance, cap, trans, delta, incr, cellType]
  mem_all d := by cases d <;> decide

def code : BarData → String
  | distance => "p"
  | cap => "c"
  | trans => "t"
  | delta => "d"
  | incr => "i"
  | cellType => "ct"

def ofCode? (text : String) : Option BarData :=
  (Listed.all : List BarData).find? fun d => d.code = text

def title : BarData → String
  | distance => "distance"
  | cap => "capacitance"
  | trans => "transition"
  | delta => "delta"
  | incr => "incremental delay"
  | cellType => "cell type"

def column : BarData → Column
  | distance => .location
  | cap => .cap
  | trans => .trans
  | delta => .delta
  | incr | cellType => .incr

def value : BarData → Pin → Float
  | distance => Pin.distance
  | cap => Pin.cap
  | trans => Pin.transition
  | delta => Pin.delta
  | incr | cellType => Pin.increment

end BarData

inductive BarPart where
  /-- The launch clock network. -/
  | launch
  /-- The data path from the clock pin of the startpoint on. -/
  | data
  /-- The launch clock network and the data path. -/
  | full
  /-- The capture clock network. -/
  | capture
deriving Repr, DecidableEq, Inhabited

namespace BarPart

instance : Listed BarPart where
  all := [launch, data, full, capture]
  mem_all p := by cases p <;> decide

def code : BarPart → String
  | launch => "l"
  | data => "d"
  | full => "f"
  | capture => "c"

def ofCode? (text : String) : Option BarPart :=
  (Listed.all : List BarPart).find? fun p => p.code = text

def title : BarPart → String
  | launch => "launch clock"
  | data => "data path"
  | full => "full path"
  | capture => "capture clock"

end BarPart

namespace Chart

/-- The kind of the warning about a cell without a drive strength. -/
def unknownDrive : DiagnosticCode := ⟨.analysis, 201⟩

/-- The kind of the note about data that a report does not have. -/
def missingColumn : DiagnosticCode := ⟨.analysis, 202⟩

def unknownRequest : DiagnosticCode := ⟨.analysis, 203⟩

def noPathClass : String := "TP"

def noCellClass : String := "UN"

end Chart

structure BarRequest where
  data : EnumSet BarData := .empty
  parts : EnumSet BarPart := .empty
deriving Repr, DecidableEq, Inhabited

namespace BarRequest

def ignored (message : String) : Diagnostic where
  severity := .warning
  code := Chart.unknownRequest
  message
  location := .nowhere

def addData (r : BarRequest) (code : String) : BarRequest × List Diagnostic :=
  match BarData.ofCode? code with
  | some .cellType => ({ r with data := (r.data.insert .cellType).insert .incr }, [])
  | some d => ({ r with data := r.data.insert d }, [])
  | none => (r, [ignored s!"unknown bar data type '{code}', ignored"])

def addPart (r : BarRequest) (code : String) : BarRequest × List Diagnostic :=
  match BarPart.ofCode? code with
  | some p => ({ r with parts := r.parts.insert p }, [])
  | none => (r, [ignored s!"unknown bar path type '{code}', ignored"])

def addAll (add : BarRequest → String → BarRequest × List Diagnostic) (r : BarRequest) :
    List String → BarRequest × List Diagnostic
  | [] => (r, [])
  | code :: codes =>
    let (r, warnings) := add r code
    let (r, more) := addAll add r codes
    (r, warnings ++ more)

/-- The request of some codes. The full path stands for the data path as well. -/
def ofCodes (data parts : List String) : BarRequest × List Diagnostic :=
  let (r, dataWarnings) := addAll addData {} data
  let (r, partWarnings) := addAll addPart r parts
  let r := if r.parts.contains .full then { r with parts := r.parts.erase .data } else r
  (r, dataWarnings ++ partWarnings)

def addBarSet (r : BarRequest) (rules : RuleSet) (tag : String) : BarRequest × List Diagnostic :=
  match rules.barSet? tag with
  | none => (r, [ignored s!"bar dataset '{tag}' is not defined in the rules, ignored"])
  | some codes => addAll addData r codes

end BarRequest

structure BarSeries where
  data : BarData
  part : BarPart
  title : String
  names : List String
  lines : List Nat
  values : List Float
  /-- The class of every bar. -/
  tags : List String
  /-- The drive strength of every bar, in charts by cell type alone. -/
  drive : List (Option Float)
  /-- The bar of the clock pin of the startpoint. -/
  highlight : Option Nat
deriving Inhabited

namespace BarSeries

/-- The places of some pins on a side of a path, with the place to highlight among them. -/
structure Extent where
  side : List Pin
  start : Nat
  stop : Nat
  highlight : Option Nat
deriving Inhabited

def extent? (path : TimingPath) : BarPart → Option Extent
  | .launch => path.clockPinAt.map fun i => ⟨path.launchPins, 0, i + 1, some i⟩
  | .data =>
    match path.clockPinAt with
    | some i => some ⟨path.launchPins, i, path.launchPins.length, some 0⟩
    | none => some ⟨path.launchPins, 0, path.launchPins.length, none⟩
  | .full => some ⟨path.launchPins, 0, path.launchPins.length, path.clockPinAt⟩
  | .capture => some ⟨path.capturePins, 0, path.capturePins.length, none⟩

def Extent.slice {α : Type} (e : Extent) (items : List α) : List α :=
  (items.drop e.start).take (e.stop - e.start)

/-- The classes of the pins of a whole side: by their cells in charts by cell type, and by their
names in all others. -/
def sideTags (rules : RuleSet) (data : BarData) (side : List Pin) : List String :=
  if data = .cellType then
    (stickyTags rules.cellClasses none (side.map (·.cell))).map (·.getD Chart.noCellClass)
  else
    (stickyTags rules.pathClasses rules.defaultClass (side.map (·.name))).map
      (·.getD Chart.noPathClass)

/-- The warning about a pin whose cell has no drive strength. -/
def unknownDriveWarning (p : Pin) : Diagnostic where
  severity := .warning
  code := Chart.unknownDrive
  message := s!"unknown driving cell '{p.cell}' ({p.name})"
  location := .nowhere
  notes := [s!"report line {p.line}"]

/-- The series of one kind of data on one part of a path. A part without pins has none. -/
def ofPath? (rules : RuleSet) (path : TimingPath) (data : BarData) (part : BarPart) :
    Option (BarSeries × List Diagnostic) := do
  let e ← extent? path part
  if e.stop ≤ e.start then none
  let pins := e.slice e.side
  let byCell := data == .cellType
  let lacking := pins.filter fun p => p.drive.isNone && !p.isPort
  let series : BarSeries := {
    data
    part
    title := s!"{data.title} of {part.title} ({path.startpoint} -> {path.endpoint})"
    names := pins.map (·.name)
    lines := pins.map (·.line)
    values := pins.map data.value
    tags := e.slice (sideTags rules data e.side)
    drive := if byCell then pins.map (·.drive) else []
    highlight := e.highlight }
  return (series, if byCell then lacking.map unknownDriveWarning else [])

/-- The note about data that no pin table of a report shows. -/
def missingColumnNote (data : BarData) : Diagnostic where
  severity := .note
  code := Chart.missingColumn
  message := s!"report has no {data.column.label} column, {data.title} chart skipped"
  location := .nowhere

end BarSeries

/-- The series of a request, by data and then by part, with remarks in the order in which they come
up. -/
def Report.barSeries (r : Report) (index : Nat) (request : BarRequest) :
    Except AnalysisError (List BarSeries × List Diagnostic) := do
  let path ← r.path index
  let chart (data : BarData) : List BarSeries × List Diagnostic :=
    if r.hasColumn data.column then
      let made := request.parts.toList.filterMap (BarSeries.ofPath? r.rules path data)
      (made.map (·.1), made.flatMap (·.2))
    else ([], [BarSeries.missingColumnNote data])
  let charts := request.data.toList.map chart
  return (charts.flatMap (·.1), charts.flatMap (·.2))

end PathTiming
