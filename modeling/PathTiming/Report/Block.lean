import PathTiming.Path.TimingPath
import PathTiming.Report.PinRow
import PathTiming.Rules.RuleSet

/-! The block of lines that describes one path, read line by line. -/
namespace PathTiming

inductive Stage where
  /-- The names of the path. -/
  | header
  /-- The launch clock and the data path. -/
  | launch
  /-- The capture clock. -/
  | capture
  /-- The slack. -/
  | summary
deriving Repr, DecidableEq, Inhabited

namespace Stage

def rank : Stage → Nat
  | header => 0
  | launch => 1
  | capture => 2
  | summary => 3

def inTable : Stage → Stage
  | header => launch
  | s => s

end Stage

/-- The heading that a wrapped line belongs to. -/
inductive Heading where
  | startpoint
  | endpoint
  | other
deriving Repr, DecidableEq, Inhabited

structure Block where
  path : TimingPath
  stage : Stage := .header
  heading : Heading := .startpoint
  layout : Layout := []
  startIsPort : Bool := false
  /-- The clock pin of the startpoint was found. -/
  clockPinFixed : Bool := false
  /-- A pin outside the clock network came after the last clock pin. -/
  leftClockNetwork : Bool := false
  /-- The last place on this side. -/
  lastPlace : Option (Float × Float) := none
  /-- The time up to which the launch clock network was read. -/
  launchClockTime : Option Float := none
  captureClockTime : Option Float := none
  crprSeen : Bool := false
deriving Inhabited

namespace Block

/-- Whether a text says that a startpoint is an input port. -/
def saysInputPort (text : List Char) : Bool := Text.occurs "input port".toList text

def firstWord (text : List Char) : String := String.ofList ((Text.words text).headD [])

def start (line : Nat) (startpoint : List Char) : Block where
  path := { line, startpoint := firstWord startpoint }
  startIsPort := saysInputPort startpoint

/-- Whether the block has all that a path needs: its launch side is closed. -/
def isComplete (b : Block) : Bool := b.stage == .capture || b.stage == .summary

def readHeading? (b : Block) (text : List Char) : Option Block :=
  let field (label : String) : Option (List Char) :=
    (label.toList.isPrefixOf? text).map Text.trim
  match field "Endpoint:" with
  | some rest => some { b with path.endpoint := firstWord rest, heading := .endpoint }
  | none =>
  match field "Path Group:" with
  | some rest => some { b with path.group := String.ofList rest, heading := .other }
  | none =>
  match field "Path Type:" with
  | some rest =>
    let kind : DelayType := if "min".toList.isPrefixOf rest then .min else .max
    some { b with path.delayType := kind, heading := .other }
  | none =>
  match field "Scenario:" with
  | some rest => some { b with path.scenario := some (String.ofList rest), heading := .other }
  | none =>
    if text.head? = some '(' then
      some { b with
        startIsPort := b.startIsPort || (b.heading == .startpoint && saysInputPort text) }
    else if text.contains ':' && !"Point".toList.isPrefixOf text then
      some { b with heading := .other }
    else none

def readClockEdge (b : Block) (clock : String) (edge : ClockEdge) (time : Float) : Block :=
  if b.stage = .launch then
    { b with
      path.launch.clock := some clock
      path.launch.edge := some edge
      path.launch.edgeTime := time
      launchClockTime := some time }
  else
    { b with
      path.capture.clock := some clock
      path.capture.edge := some edge
      path.capture.edgeTime := time
      captureClockTime := some time }

/-- Reads a row with a label. The result tells whether the block is at its end. -/
def readLabelled (b : Block) (line : Nat) (kind : RowKind) (rest : List Char) :
    Except FormatError (Block × Bool) := do
  match kind with
  | .sourceLatency =>
    let (delay, time) ← delayAndTime line "clock source latency" rest
    if b.stage = .launch then
      return ({ b with path.launch.sourceLatency := delay, launchClockTime := some time }, false)
    else
      return ({ b with path.capture.sourceLatency := delay, captureClockTime := some time }, false)
  | .networkDelay =>
    let time ← timeOf line "clock network delay" rest
    if b.stage = .launch then return ({ b with launchClockTime := some time }, false)
    else if b.crprSeen then return (b, false)
    else return ({ b with captureClockTime := some time }, false)
  | .inputDelay =>
    return ({ b with path.inputDelay := some (← delayOf line "input external delay" rest) }, false)
  | .outputDelay =>
    return ({ b with path.outputDelay := some (← delayOf line "output external delay" rest) },
      false)
  | .crpr =>
    let delay ← delayOf line "clock reconvergence pessimism" rest
    return ({ b with path.crpr := delay, crprSeen := true }, false)
  | .uncertainty =>
    return ({ b with path.uncertainty := ← delayOf line "clock uncertainty" rest }, false)
  | .library => return ({ b with path.library := ← delayOf line "library time" rest }, false)
  | .constraint =>
    return ({ b with path.maxDelay := some (← delayOf line "path delay constraint" rest) }, false)
  | .pathMargin =>
    return ({ b with path.pathMargin := some (← delayOf line "path margin" rest) }, false)
  | .arrival =>
    if b.stage = .launch then
      let time ← timeOf line "data arrival time" rest
      return ({ b with path.arrival := time, stage := .capture, lastPlace := none }, false)
    else return (b, false)
  | .required =>
    if b.stage = .capture then
      let time ← timeOf line "data required time" rest
      return ({ b with path.required := time, stage := .summary }, false)
    else return (b, false)
  | .slack =>
    if b.isComplete then
      return ({ b with path.slack := ← timeOf line "slack" rest }, true)
    else return (b, false)

def modifyLast {α : Type} (f : α → α) : List α → List α
  | [] => []
  | [a] => [f a]
  | a :: rest => a :: modifyLast f rest

/-- Reads the row of a net: its capacitance belongs to the pin before it. -/
def readNet (b : Block) (row : PinRow) : Block :=
  let columns := b.layout.select fun c => c == .fanout || c == .cap
  match (columns.assign row.values).find? fun (c, _) => c = .cap with
  | none => b
  | some (_, cap) =>
    let set (p : Pin) : Pin := { p with cap }
    if b.stage = .launch then { b with path.launchPins := modifyLast set b.path.launchPins }
    else { b with path.capturePins := modifyLast set b.path.capturePins }

/-- Whether the text in the place of a cell is the direction of a port. -/
def isDirection (cell : String) : Bool := cell == "in" || cell == "out" || cell == "inout"

def setValue (p : Pin) (value : Column × Float) : Pin :=
  match value.1 with
  | .cap => { p with cap := value.2 }
  | .trans => { p with transition := value.2 }
  | .delta => { p with delta := value.2 }
  | _ => p

/-- Whether values other than the last two may stand under a column. -/
def isExtra (c : Column) : Bool :=
  !(c == .incr || c == .path || c == .location || c == .fanout)

/-- The pin of a row, as far as the row alone tells. The last number is the time, the one before it
the delay. -/
def pinOf (b : Block) (line : Nat) (row : PinRow) : Except FormatError Pin :=
  let cell := if isDirection row.cell then "" else row.cell
  match row.values.reverse with
  | [] => .error ⟨line, .noDelay row.name⟩
  | time :: before =>
    let (increment, extra) : Float × List PlacedValue :=
      match before with
      | [] => (0, [])
      | delay :: extra => (delay.value, extra.reverse)
    let pin : Pin := { name := row.name, cell, line, increment, cumulative := time.value }
    .ok (((b.layout.select isExtra).assign extra).foldl setValue pin)

def classify (rules : RuleSet) (p : Pin) : Pin :=
  { p with
    isClock := rules.isClockPin p.name p.cell
    drive := if p.isPort then none else rules.drive.strength? p.cell }

def distance (p q : Float × Float) : Float := (q.1 - p.1).abs + (q.2 - p.2).abs

/-- Adds the delay of a labelled arc between two pins of one instance. -/
def noteHoldCheck (rules : RuleSet) (totals : Keyed String Float) (before : Option Pin) (p : Pin) :
    Keyed String Float :=
  match before with
  | none => totals
  | some q =>
    if p.inst.isEmpty ∨ q.inst ≠ p.inst then totals
    else
      match rules.holdCheck? p.cell q.shortName p.shortName with
      | none => totals
      | some tag => totals.alter tag fun total => total.getD 0 + p.increment

/-- Moves the clock pin of the startpoint. The pin of the startpoint itself fixes it; until then it
is the last pin of the first run of clock pins. A path from a port has none. -/
def placeClockPin (b : Block) (p : Pin) : Block :=
  let here := b.path.launchPins.length
  let start := b.path.startpoint
  let b := { b with startIsPort := b.startIsPort || (p.isPort && p.name == start) }
  if b.startIsPort || p.isPort then b
  else if p.inst == start || p.name == start then
    { b with path.clockPinAt := some here, clockPinFixed := true }
  else if p.isClock && !b.leftClockNetwork then { b with path.clockPinAt := some here }
  else if !p.isClock && b.path.clockPinAt.isSome then { b with leftClockNetwork := true }
  else b

/-- Notes the source of a generated clock, unless it comes after the clock pin. -/
def noteLaunchSource (b : Block) (row : PinRow) : Block :=
  let here := b.path.launchPins.length
  let inNetwork :=
    match b.path.clockPinAt with
    | some i => here ≤ i
    | none => true
  if row.isGenerated && inNetwork then { b with path.launch.generatedAt := some here } else b

def addLaunchPin (rules : RuleSet) (b : Block) (row : PinRow) (p : Pin) : Block :=
  let b := if b.clockPinFixed then b else (b.placeClockPin p).noteLaunchSource row
  { b with
    path.holdChecks := noteHoldCheck rules b.path.holdChecks b.path.launchPins.getLast? p
    path.launchPins := b.path.launchPins ++ [p] }

def addCapturePin (rules : RuleSet) (b : Block) (row : PinRow) (p : Pin) : Block :=
  let b :=
    if row.isGenerated then { b with path.capture.generatedAt := some b.path.capturePins.length }
    else b
  let b := if b.crprSeen then b else { b with captureClockTime := some p.cumulative }
  { b with
    path.holdChecks := noteHoldCheck rules b.path.holdChecks b.path.capturePins.getLast? p
    path.capturePins := b.path.capturePins ++ [p] }

def readPin (rules : RuleSet) (b : Block) (line : Nat) (row : PinRow) :
    Except FormatError Block := do
  if row.cell = "net" then return b.readNet row
  let pin := classify rules (← b.pinOf line row)
  let (b, pin) :=
    match row.location with
    | none => (b, pin)
    | some place =>
      ({ b with lastPlace := some place },
        { pin with distance := (b.lastPlace.map fun last => distance last place).getD 0 })
  if b.stage = .launch then return addLaunchPin rules b row pin
  else return addCapturePin rules b row pin

def isTableHeader (text : List Char) : Bool := "Point".toList.isPrefixOf text

def enterTable (b : Block) : Block := { b with stage := b.stage.inTable }

def readTableLine (rules : RuleSet) (b : Block) (line : Nat) (text : List Char) :
    Except FormatError (Block × Bool) := do
  match Row.ofText? (Text.trim text) with
  | some (.clockEdge clock edge rest) =>
    let time ← timeOf line "clock edge" rest
    return (b.enterTable.readClockEdge clock edge time, false)
  | some (.labelled kind rest) => b.enterTable.readLabelled line kind rest
  | none =>
    match ← PinRow.ofLine? line text with
    | none => return (b, false)
    | some row =>
      return (← readPin rules b.enterTable line row, false)

def readSummaryLine (b : Block) (line : Nat) (text : List Char) :
    Except FormatError (Block × Bool) := do
  match Row.ofText? (Text.trim text) with
  | some (.labelled .slack rest) =>
    return ({ b with path.slack := ← timeOf line "slack" rest }, true)
  | _ => return (b, false)

/-- Reads a line. The result tells whether the block is at its end. Blank lines and rulers mean
nothing. -/
def feed (rules : RuleSet) (b : Block) (line : Nat) (text : List Char) :
    Except FormatError (Block × Bool) :=
  let trimmed := Text.trim text
  if trimmed.all (· == '-') then .ok (b, false)
  else
    match if b.stage = .header then b.readHeading? trimmed else none with
    | some b => .ok (b, false)
    | none =>
      if isTableHeader trimmed then
        .ok ({ b.enterTable with layout := .ofHeader text }, false)
      else if b.stage = .summary then b.readSummaryLine line text
      else readTableLine rules b line text

def newColumns (text : List Char) : List Column :=
  if isTableHeader (Text.trim text) then (Layout.ofHeader text).known else []

/-- The path of a block at its end. The latencies count from the clock edges. -/
def finish (through : List String) (b : Block) : TimingPath :=
  let path := { b.path with through }
  let path :=
    match path.launch.generatedAt, path.clockPinAt with
    | some g, some i => if i < g then { path with launch.generatedAt := none } else path
    | _, _ => path
  let launchTime :=
    match path.clockPin? with
    | some pin => pin.cumulative
    | none => b.launchClockTime.getD path.launch.edgeTime
  { path with
    launch.latency := launchTime - path.launch.edgeTime
    capture.latency :=
      b.captureClockTime.getD path.capture.edgeTime - path.capture.edgeTime
    launch.delta := deltaSum path.launchClockPins
    dataDelta := deltaSum path.dataPins
    capture.delta := deltaSum path.capturePins }

end Block

end PathTiming
