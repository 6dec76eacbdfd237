import PathTiming.Analysis.Trace
import PathTiming.CommandLine.Options
import PathTiming.Diagnostic.Log
import PathTiming.Diagnostic.Render
import PathTiming.Export.Chart
import PathTiming.Report.RangeList
import PathTiming.Rules.Compile
import PathTiming.Summary.Summary

/-! A run: from files and options to what is printed and written. -/
namespace PathTiming

inductive RunError where
  | rules (cause : RulesError)
  | unknownColumn (code : String)
  | report (cause : ReportError)
  | analysis (cause : AnalysisError)
  /-- A file cannot be written. -/
  | write (cause : FileError)
deriving Repr, DecidableEq, Inhabited

def RunError.message : RunError → String
  | rules cause => cause.message
  | unknownColumn code => s!"unknown CSV column '{code}'"
  | report cause => cause.message
  | analysis cause => cause.message
  | write cause => cause.message

structure RunState where
  disk : Disk
  sources : Sources := {}
  log : Log := {}
  /-- The text that was printed. -/
  printed : String := ""
deriving Inhabited

/-- A step of a run. What was done before a failure stays done. -/
abbrev Run := ExceptT RunError (StateM RunState)

namespace Run

def print (text : String) : Run Unit := modify fun s => { s with printed := s.printed ++ text }

def emit (messages : List Diagnostic) : Run Unit :=
  modify fun s => { s with log := s.log.emitAll messages }

def writeFile (path text : String) : Run Unit := do
  match (← get).disk.write path text with
  | .ok disk => modify fun s => { s with disk }
  | .error cause => throw (.write cause)

/-- Gives up with the cause that a pure step has failed for. -/
def orFail {ε α : Type} (cause : ε → RunError) (x : Except ε α) : Run α :=
  match x with
  | .ok a => pure a
  | .error e => throw (cause e)

def defaultRulesFile : String := ".ptana.setup"

def rulesFile? (o : Options) (disk : Disk) : Option String :=
  if o.noConfig then none
  else
    match o.config with
    | some path => some path
    | none => if disk.isFile defaultRulesFile then some defaultRulesFile else none

def loadRules (o : Options) : Run RuleSet := do
  let s ← get
  match rulesFile? o s.disk with
  | none => return {}
  | some path =>
    let (sources, result) := RuleSet.load s.sources s.disk path
    modify fun s => { s with sources }
    let (rules, warnings) ← orFail .rules result
    emit warnings
    return rules

def columns (o : Options) : Run (List Metric) :=
  if o.columns.isEmpty then return Metric.defaultColumns
  else orFail .unknownColumn (Metric.columns o.columns)

def announce (o : Options) : Run Unit := do
  if !o.quiet then
    let name := ((← get).disk.fullName? o.report).getD o.report
    print s!"\n Report: {name}\n\n"

def loadReport (o : Options) (rules : RuleSet) (ranges : List ScanRange) : Run Report := do
  let s ← get
  let loading := ({ rules } : Report).load s.sources s.disk o.report ranges
  modify fun s => { s with sources := loading.sources }
  emit loading.warnings
  let _ ← orFail .report loading.outcome
  return loading.report

def summaryOptions (o : Options) : SummaryOptions where
  clockCheck := o.clockCheck || o.traceFile.isSome
  trace := o.traceFile.isSome
  deltaSum := o.deltaSum
  segments := o.segments

/-- Prints the summaries of the paths of some indices, and collects the clock checks. -/
def summarize (r : Report) (o : SummaryOptions) : List Nat → Run (List (Nat × ClockCheck))
  | [] => return []
  | index :: rest => do
    let summary ← orFail .analysis (r.summary o index)
    print (Text.ofLines summary.lines)
    let checks ← summarize r o rest
    return (summary.check.map fun check => (index, check)).toList ++ checks

def writeTable (o : Options) (r : Report) (columns : List Metric) : Run Unit := do
  if let some path := o.tableFile then
    writeFile path (Text.ofLines (r.metricTable columns))

def writeTraces (o : Options) (r : Report) (checks : List (Nat × ClockCheck)) : Run Unit := do
  if let some path := o.traceFile then
    let sections := checks.map fun (index, check) =>
      ((r.paths[index]?).map (check.traceLines index)).getD []
    writeFile path (Text.ofLines sections.flatten)

/-- The charts that are asked for. Without a word about the parts, the full path is shown. -/
def barRequest (o : Options) (rules : RuleSet) : BarRequest × List Diagnostic :=
  let data :=
    match o.barData with
    | none => []
    | some [] => (Listed.all : List BarData).map BarData.code
    | some codes => codes
  let parts := if o.barParts.isEmpty then [BarPart.full.code] else o.barParts
  let (request, warnings) := BarRequest.ofCodes data parts
  match o.barSet with
  | none => (request, warnings)
  | some tag =>
    let (request, more) := request.addBarSet rules tag
    (request, warnings ++ more)

def writeBars (o : Options) (r : Report) : Run Unit := do
  let (request, warnings) := barRequest o r.rules
  emit warnings
  if r.paths.isEmpty || request.data.isEmpty then return
  let (series, remarks) ← orFail .analysis (r.barSeries (r.paths.length - 1) request)
  emit remarks
  let text := (Json.list BarSeries.toJson series).pretty ++ "\n"
  match o.barFile with
  | some path => writeFile path text
  | none => print text

def perform (o : Options) : Run Unit := do
  let rules ← loadRules o
  let ranges := (o.range.map ScanRange.listOfText).getD ScanRange.firstPath
  let columns ← columns o
  announce o
  let report ← loadReport o rules ranges
  if o.debug then
    print (report.toJson.pretty ++ "\n")
  else
    let checks ← summarize report (summaryOptions o) (List.range report.paths.length)
    writeTable o report columns
    writeTraces o report checks
    writeBars o report

end Run

structure Outcome where
  printed : String
  /-- The texts of the messages. -/
  messages : String
  disk : Disk
  failure : Option RunError
  /-- The exit code. -/
  code : Nat
deriving Inhabited

def messageText (o : Options) (terminal : Bool) (sources : Sources) (messages : List Diagnostic) :
    String :=
  match o.format with
  | .text => String.join (messages.map fun d => d.render sources (o.isColoured terminal))
  | .json =>
    if messages.isEmpty then "" else (Json.list Diagnostic.toJson messages).pretty ++ "\n"

def Options.run (o : Options) (disk : Disk) (terminal : Bool) : Outcome :=
  let (result, s) := (Run.perform o).run { disk }
  let failure :=
    match result with
    | .ok _ => none
    | .error e => some e
  { printed := s.printed
    messages := messageText o terminal s.sources s.log.queue
    disk := s.disk
    failure
    code := if failure.isSome || s.log.hasErrors then 1 else 0 }

end PathTiming
