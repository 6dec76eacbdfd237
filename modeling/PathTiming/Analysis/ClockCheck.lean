import PathTiming.Report.Report

/-! Comparison of the launch and the capture clock network of a path, pin by pin. -/
namespace PathTiming

inductive Verdict where
  | pass
  | fail
deriving Repr, DecidableEq, Inhabited

def Verdict.label : Verdict → String
  | pass => "pass"
  | fail => "fail"

def Verdict.ofFinding {α : Type} (finding : Option α) : Verdict :=
  if finding.isSome then .fail else .pass

/-- Whether the shorter network is the beginning of the longer one. -/
structure SourceCheck where
  verdict : Verdict
  launchLength : Nat
  captureLength : Nat
  /-- The first level, counted from 1, at which the pins differ. -/
  mismatch : Option Nat
deriving Repr, DecidableEq, Inhabited

/-- The level at which the networks part. -/
structure Fork where
  /-- The level of the last common pin; 0 if there is none. -/
  level : Nat
  /-- Lines of the last common pin. -/
  launchLine : Option Nat
  captureLine : Option Nat
deriving Repr, DecidableEq, Inhabited

/-- Two cells on one level that are not known to be of one type. -/
structure TypeConflict where
  level : Nat
  launchLine : Nat
  captureLine : Nat
  /-- Whether the rules call the cells clock cells. -/
  launchType : Option Bool
  captureType : Option Bool
deriving Repr, DecidableEq, Inhabited

def TypeConflict.isUnknown (c : TypeConflict) : Bool :=
  c.launchType.isNone || c.captureType.isNone

def TypeConflict.isReal (c : TypeConflict) : Bool :=
  c.isUnknown || c.launchType != c.captureType

structure TracePin where
  name : String
  cell : String
  line : Nat
  clockType : Option Bool
deriving Repr, DecidableEq, Inhabited

structure TraceRow where
  level : Nat
  launch : Option TracePin
  capture : Option TracePin
  /-- Both sides are the same pin. -/
  shared : Bool
deriving Repr, DecidableEq, Inhabited

structure ClockCheck where
  source : SourceCheck
  fork : Fork
  /-- The first conflict of types before the networks part. -/
  conflict : Option TypeConflict
  /-- The networks level by level, if they were asked for. -/
  trace : Option (List TraceRow)
deriving Repr, DecidableEq, Inhabited

namespace ClockCheck

def typeVerdict (c : ClockCheck) : Verdict := .ofFinding c.conflict

/-- The number of pins, from the source on, that two networks have in common. -/
def sharedLength : List Pin → List Pin → Nat
  | l :: launch, c :: capture => if l.name = c.name then sharedLength launch capture + 1 else 0
  | _, _ => 0

def tracePin (rules : RuleSet) (p : Pin) : TracePin :=
  ⟨p.name, p.cell, p.line, rules.clockType? p.cell⟩

/-- The levels of two networks, counted on from `level`. -/
def traceFrom (rules : RuleSet) (level : Nat) : List Pin → List Pin → List TraceRow
  | [], [] => []
  | l :: launch, [] =>
    ⟨level, some (tracePin rules l), none, false⟩ :: traceFrom rules (level + 1) launch []
  | [], c :: capture =>
    ⟨level, none, some (tracePin rules c), false⟩ :: traceFrom rules (level + 1) [] capture
  | l :: launch, c :: capture =>
    ⟨level, some (tracePin rules l), some (tracePin rules c), l.name == c.name⟩ ::
      traceFrom rules (level + 1) launch capture

/-- The types of two cells on one level; ports have none to compare. -/
def compareTypes? (rules : RuleSet) (level : Nat) (l c : Pin) : Option TypeConflict :=
  if l.isPort || c.isPort then none
  else
    let found : TypeConflict :=
      ⟨level, l.line, c.line, rules.clockType? l.cell, rules.clockType? c.cell⟩
    if found.isReal then some found else none

/-- The first conflict of types while the pins are the same, on the levels from `level` on. -/
def conflictFrom? (rules : RuleSet) (level : Nat) : List Pin → List Pin → Option TypeConflict
  | l :: launch, c :: capture =>
    if l.name = c.name then
      (compareTypes? rules level l c).or (conflictFrom? rules (level + 1) launch capture)
    else none
  | _, _ => none

def ofNetworks (launch capture : List Pin) (rules : RuleSet) (traced : Bool) : ClockCheck :=
  let shared := sharedLength launch capture
  let mismatch := if shared < min launch.length capture.length then some (shared + 1) else none
  let lastLine (pins : List Pin) : Option Nat :=
    if shared = 0 then none else pins[shared - 1]?.map (·.line)
  { source := ⟨.ofFinding mismatch, launch.length, capture.length, mismatch⟩
    fork := ⟨shared, lastLine launch, lastLine capture⟩
    conflict := conflictFrom? rules 1 launch capture
    trace := if traced then some (traceFrom rules 1 launch capture) else none }

end ClockCheck

def Report.clockCheck (r : Report) (index : Nat) (traced : Bool) :
    Except AnalysisError ClockCheck := do
  let path ← r.path index
  if path.clockPinAt.isNone then .error (.noLaunchClockPin index)
  if path.capturePins.isEmpty then .error (.noCaptureClock index)
  return .ofNetworks path.launchClockPins path.capturePins r.rules traced

end PathTiming
