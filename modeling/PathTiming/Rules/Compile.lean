import PathTiming.Diagnostic.Basic
import PathTiming.Rules.Entry
import PathTiming.Source.Sources

/-! Rules files. -/
namespace PathTiming

inductive RulesError where
  | unreadable (cause : FileError)
  | fault (line : Nat) (cause : RuleFault)
deriving Repr, DecidableEq, Inhabited

def RulesError.message : RulesError → String
  | unreadable cause => s!"failed to read rules file: {cause.message}"
  | fault line cause => s!"config syntax error (ln:{line}): {cause.message}"

namespace RuleSet

/-- Adds the rule of a line. A default class takes effect only when all lines are read. -/
def add (r : RuleSet) : RuleEntry → RuleSet
  | .toggle t value => { r with toggles := r.toggles.set t value }
  | .barSet tag codes => { r with barSets := r.barSets.insert tag codes }
  | .clockType rule => { r with clockTypes := r.clockTypes ++ [rule] }
  | .clockCells names =>
    { r with clockPins.cells := names.foldl (fun set n => insertName n set) r.clockPins.cells }
  | .clockInstances names =>
    { r with
      clockPins.instances := names.foldl (fun set n => insertName n set) r.clockPins.instances }
  | .clockPatterns patterns =>
    { r with clockPins.patterns := r.clockPins.patterns ++ patterns }
  | .clockOverride pattern => { r with clockOverrides := r.clockOverrides ++ [pattern] }
  | .defaultClass _ => r
  | .pathClass tag pattern => { r with pathClasses := r.pathClasses.insert tag pattern }
  | .cellClass tag pattern => { r with cellClasses := r.cellClasses.insert tag pattern }
  | .drivePattern pattern => { r with drive.pattern := some pattern }
  | .driveCell cell strength => { r with drive.cells := r.drive.cells.insert cell strength }
  | .holdCheck arc tag => { r with holdChecks := r.holdChecks.insert arc tag }

/-- The rules of numbered lines, up to the first line at fault. -/
def readEntries : List (Nat × String) → Except RulesError (List (Nat × RuleEntry))
  | [] => .ok []
  | (n, text) :: rest =>
    match RuleEntry.ofLine? text with
    | .error cause => .error (.fault n cause)
    | .ok none => readEntries rest
    | .ok (some entry) => (readEntries rest).map ((n, entry) :: ·)

/-- The default class that was asked for last, with the line that asked for it. -/
def requestedDefault? (entries : List (Nat × RuleEntry)) : Option (Nat × String) :=
  entries.foldl (fun last (n, entry) =>
    match entry with
    | .defaultClass tag => some (n, tag)
    | _ => last) none

/-- The kind of the warning about a default class that is no class. -/
def droppedDefaultClass : DiagnosticCode := ⟨.config, 101⟩

def droppedDefaultWarning (place : Location) (tag : String) : Diagnostic where
  severity := .warning
  code := droppedDefaultClass
  message := s!"default path group '{tag}' is not declared, ignored"
  location := place
  help := [s!"declare it with `pc: {tag} <pattern>`"]

def ofFile (file : SourceFile) : Except RulesError (RuleSet × List Diagnostic) := do
  let entries ← readEntries (file.linesFrom 1)
  let rules := (entries.map (·.2)).foldl add {}
  match requestedDefault? entries with
  | none => return (rules, [])
  | some (n, tag) =>
    if rules.pathClasses.contains tag then return ({ rules with defaultClass := some tag }, [])
    else return (rules, [droppedDefaultWarning (file.location n) tag])

def ofText (text : String) : Except RulesError (RuleSet × List Diagnostic) :=
  ofFile (.ofText .none "<rules>" text)

/-- Loads and reads a rules file. The text is kept even if there is a fault in it. -/
def load (sources : Sources) (disk : Disk) (path : String) :
    Sources × Except RulesError (RuleSet × List Diagnostic) :=
  match sources.load disk path with
  | .error cause => (sources, .error (.unreadable cause))
  | .ok (sources, file) => (sources, ofFile file)

end RuleSet

end PathTiming
