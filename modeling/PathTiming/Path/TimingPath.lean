import PathTiming.Keyed
import PathTiming.Path.Pin

/-! Timing paths and the quantities derived from them. -/
namespace PathTiming

/-- Whether a path is checked for being too slow or too fast. -/
inductive DelayType where
  /-- Setup: the latest arrival counts. -/
  | max
  /-- Hold: the earliest arrival counts. -/
  | min
deriving Repr, DecidableEq, Inhabited

def DelayType.label : DelayType → String
  | max => "max"
  | min => "min"

inductive ClockEdge where
  | rise
  | fall
deriving Repr, DecidableEq, Inhabited

def ClockEdge.label : ClockEdge → String
  | rise => "rise"
  | fall => "fall"

/-- What a report says about the clock that launches or captures a path. -/
structure ClockSide where
  edge : Option ClockEdge := none
  clock : Option String := none
  /-- The time of the edge. -/
  edgeTime : Float := 0
  /-- Delay of the clock network, counted from the edge. -/
  latency : Float := 0
  sourceLatency : Float := 0
  /-- Delay added by crosstalk on the clock network. -/
  delta : Float := 0
  /-- Place of the source of the generated clock among the pins. -/
  generatedAt : Option Nat := none
deriving Inhabited

structure TimingPath where
  /-- Line of the startpoint. -/
  line : Nat
  startpoint : String := ""
  endpoint : String := ""
  group : String := ""
  delayType : DelayType := .max
  scenario : Option String := none
  launch : ClockSide := {}
  capture : ClockSide := {}
  /-- The launch clock network, and the data path after it. -/
  launchPins : List Pin := []
  /-- The capture clock network. -/
  capturePins : List Pin := []
  /-- Place of the clock pin of the startpoint among the launch pins. -/
  clockPinAt : Option Nat := none
  arrival : Float := 0
  required : Float := 0
  slack : Float := 0
  inputDelay : Option Float := none
  outputDelay : Option Float := none
  pathMargin : Option Float := none
  /-- The limit of a point-to-point constraint. -/
  maxDelay : Option Float := none
  uncertainty : Float := 0
  /-- Setup or hold time of the library. -/
  library : Float := 0
  /-- Clock reconvergence pessimism. -/
  crpr : Float := 0
  dataDelta : Float := 0
  /-- Delay of the labelled cell arcs. -/
  holdChecks : Keyed String Float := {}
  /-- Pins that the report command asked to go through. -/
  through : List String := []
deriving Inhabited

namespace TimingPath

/-- The pins of the launch clock network, up to the clock pin of the startpoint. -/
def launchClockPins (p : TimingPath) : List Pin :=
  match p.clockPinAt with
  | some i => p.launchPins.take (i + 1)
  | none => []

def dataPins (p : TimingPath) : List Pin :=
  match p.clockPinAt with
  | some i => p.launchPins.drop (i + 1)
  | none => p.launchPins

theorem launchClockPins_append_dataPins (p : TimingPath) :
    p.launchClockPins ++ p.dataPins = p.launchPins := by
  unfold launchClockPins dataPins
  cases p.clockPinAt <;> simp

def clockPin? (p : TimingPath) : Option Pin := p.clockPinAt.bind fun i => p.launchPins[i]?

/-- Name of the clock pin of the startpoint, or of the startpoint without one. -/
def startName (p : TimingPath) : String := (p.clockPin?.map (·.name)).getD p.startpoint

/-- Name of the last pin of the data path, or of the endpoint without one. -/
def endName (p : TimingPath) : String := (p.launchPins.getLast?.map (·.name)).getD p.endpoint

def hasHoldChecks (p : TimingPath) : Bool := !p.holdChecks.isEmpty

def dataLatency (p : TimingPath) : Float :=
  p.arrival - p.inputDelay.getD 0 - p.launch.latency - p.launch.edgeTime

/-- How much later the launch clock comes than the capture clock, less the pessimism. -/
def skew (p : TimingPath) : Float := p.launch.latency - p.capture.latency - p.crpr

def datapathLevel (p : TimingPath) : Nat := p.dataPins.length

/-- Source latency of the capture clock, with the pessimism on request. -/
def captureSourceLatency (p : TimingPath) (withCrpr : Bool) : Float :=
  if withCrpr then p.capture.sourceLatency + p.crpr else p.capture.sourceLatency

def launchBodyLatency (p : TimingPath) : Float := p.launch.latency - p.launch.sourceLatency

def captureBodyLatency (p : TimingPath) (withCrpr : Bool) : Float :=
  p.capture.latency - p.captureSourceLatency withCrpr

/-- Number of launch clock pins behind the source of the generated clock, or of all of them if the
source is not among them. -/
def launchGeneratedLength? (p : TimingPath) : Option Nat :=
  p.clockPinAt.map fun i =>
    match p.launch.generatedAt with
    | some g => i - g
    | none => i + 1

/-- Number of capture clock pins behind the source of the generated clock. -/
def captureGeneratedLength (p : TimingPath) : Nat :=
  match p.capture.generatedAt with
  | some g => p.capturePins.length - g - 1
  | none => p.capturePins.length

end TimingPath

end PathTiming
