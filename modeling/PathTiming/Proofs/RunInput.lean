import PathTiming.CommandLine.Run
import PathTiming.Proofs.RuleLines

/-! What a run reads: its rules, its columns and its report. It stops at the first of them that fails,
before it has written anything. -/
namespace PathTiming

theorem Log.emitAll_append (l : Log) (ds es : List Diagnostic) :
    l.emitAll (ds ++ es) = (l.emitAll ds).emitAll es := List.foldl_append

theorem Log.hasErrors_emitAll {ds : List Diagnostic} (h : ∀ d ∈ ds, d.severity ≠ .error)
    (l : Log) : (l.emitAll ds).hasErrors = l.hasErrors := by
  induction ds generalizing l with
  | nil => rfl
  | cons d ds ih =>
    obtain ⟨hd, hds⟩ := List.forall_mem_cons.mp h
    have hcount := l.count_emit d .error
    rw [if_neg hd, Nat.add_zero] at hcount
    have hemit : (l.emit d).hasErrors = l.hasErrors := congrArg (· != 0) hcount
    exact (ih hds (l.emit d)).trans hemit

/-! ### Messages about rules and reports -/

theorem RuleSet.severity_of_ofFile {file : SourceFile} {rules : RuleSet}
    {warnings : List Diagnostic} (h : ofFile file = .ok (rules, warnings)) :
    ∀ d ∈ warnings, d.severity ≠ .error := by
  unfold ofFile at h
  cases hentries : readEntries (file.linesFrom 1) with
  | error e =>
    rw [hentries] at h
    cases h
  | ok entries =>
    rw [hentries] at h
    dsimp only [bind, Except.bind] at h
    split at h
    · cases h
      simp
    · split_ifs at h
      · cases h
        simp
      · cases h
        simp [droppedDefaultWarning]

theorem Report.severity_of_read (r : Report) (file : SourceFile) (ranges : List ScanRange) :
    ∀ d ∈ (r.read file ranges).warnings, d.severity ≠ .error := by
  have hall : ∀ through, ∀ d ∈ (readRanges r.rules through file ranges).1, d.severity ≠ .error := by
    intro through
    induction ranges with
    | nil => simp [readRanges]
    | cons range ranges ih =>
      unfold readRanges
      split
      · simp
      · intro d hd
        rcases List.mem_append.mp hd with hd | hd
        · split_ifs at hd
          · rw [List.mem_singleton.mp hd]
            exact Severity.noConfusion
          · cases hd
        · exact ih d hd
  intro d hd
  refine hall (ReportHeader.ofLines ((file.linesFrom 1).map (·.2))).through d ?_
  unfold read at hd
  dsimp only at hd
  split at hd
  · rename_i hread
    rw [hread]
    exact hd
  · rename_i hread
    rw [hread]
    exact hd

namespace Run

/-! ### Steps of a run -/

section
variable {α β : Type} {x : Run α} {k : α → Run β} {s s' : RunState}

theorem run_bind_ok {a : α} (h : x.run.run s = (.ok a, s')) :
    (x >>= k).run.run s = (k a).run.run s' := by
  change (ExceptT.bindCont k (x.run.run s).1).run (x.run.run s).2 = _
  rw [h]
  rfl

theorem run_bind_error {e : RunError} (h : x.run.run s = (.error e, s')) :
    (x >>= k).run.run s = (.error e, s') := by
  change (ExceptT.bindCont k (x.run.run s).1).run (x.run.run s).2 = _
  rw [h]
  rfl

theorem run_print (text : String) (s : RunState) :
    (print text).run.run s = (.ok (), { s with printed := s.printed ++ text }) := rfl

theorem run_emit (messages : List Diagnostic) (s : RunState) :
    (emit messages).run.run s = (.ok (), { s with log := s.log.emitAll messages }) := rfl

end

def ranges (o : Options) : List ScanRange :=
  (o.range.map ScanRange.listOfText).getD ScanRange.firstPath

def rulesOf (o : Options) (disk : Disk) :
    Sources × Except RulesError (RuleSet × List Diagnostic) :=
  match rulesFile? o disk with
  | none => ({}, .ok ({}, []))
  | some path => RuleSet.load {} disk path

def columnsOf (o : Options) : Except String (List Metric) :=
  if o.columns.isEmpty then .ok Metric.defaultColumns else Metric.columns o.columns

def heading (o : Options) (disk : Disk) : String :=
  if o.quiet then ""
  else s!"\n Report: {(disk.fullName? o.report).getD o.report}\n\n"

def loading (o : Options) (disk : Disk) (sources : Sources) (rules : RuleSet) : Report.Loading :=
  ({ rules } : Report).load sources disk o.report (ranges o)

/-- What a run reads before it does anything else: the sources and messages that it has then, the
text that it has printed, and why it stops or what it goes on with. -/
inductive Reads (o : Options) (disk : Disk) :
    Sources → List Diagnostic → String → Except RunError (List Metric × Report) → Prop
  | badRules {sources : Sources} {e : RulesError} (hrules : rulesOf o disk = (sources, .error e)) :
      Reads o disk sources [] "" (.error (.rules e))
  | badColumn {sources : Sources} {rules : RuleSet} {warnings : List Diagnostic} {code : String}
      (hrules : rulesOf o disk = (sources, .ok (rules, warnings)))
      (hcolumns : columnsOf o = .error code) :
      Reads o disk sources warnings "" (.error (.unknownColumn code))
  | badReport {sources : Sources} {rules : RuleSet} {warnings : List Diagnostic}
      {cs : List Metric} {e : ReportError}
      (hrules : rulesOf o disk = (sources, .ok (rules, warnings))) (hcolumns : columnsOf o = .ok cs)
      (hreport : (loading o disk sources rules).outcome = .error e) :
      Reads o disk (loading o disk sources rules).sources
        (warnings ++ (loading o disk sources rules).warnings) (heading o disk) (.error (.report e))
  | done {sources : Sources} {rules : RuleSet} {warnings : List Diagnostic} {cs : List Metric}
      {count : Nat}
      (hrules : rulesOf o disk = (sources, .ok (rules, warnings))) (hcolumns : columnsOf o = .ok cs)
      (hreport : (loading o disk sources rules).outcome = .ok count) :
      Reads o disk (loading o disk sources rules).sources
        (warnings ++ (loading o disk sources rules).warnings) (heading o disk)
        (.ok (cs, (loading o disk sources rules).report))

theorem exists_reads (o : Options) (disk : Disk) :
    ∃ sources emitted printed result, Reads o disk sources emitted printed result := by
  rcases hrules : rulesOf o disk with ⟨sources, e | ⟨rules, warnings⟩⟩
  · exact ⟨_, _, _, _, .badRules hrules⟩
  cases hcolumns : columnsOf o with
  | error code => exact ⟨_, _, _, _, .badColumn hrules hcolumns⟩
  | ok cs =>
    cases hreport : (loading o disk sources rules).outcome with
    | error e => exact ⟨_, _, _, _, .badReport hrules hcolumns hreport⟩
    | ok count => exact ⟨_, _, _, _, .done hrules hcolumns hreport⟩

/-- A run that can read all input goes on with it. -/
theorem Reads.of_loaded {o : Options} {disk : Disk} {sources sources' : Sources}
    {emitted warnings : List Diagnostic} {printed : String}
    {result : Except RunError (List Metric × Report)} {rules : RuleSet} {cs : List Metric}
    {count : Nat} (h : Reads o disk sources emitted printed result)
    (hrules : rulesOf o disk = (sources', .ok (rules, warnings))) (hcolumns : columnsOf o = .ok cs)
    (hreport : (loading o disk sources' rules).outcome = .ok count) :
    result = .ok (cs, (loading o disk sources' rules).report) ∧
      sources = (loading o disk sources' rules).sources ∧
      emitted = warnings ++ (loading o disk sources' rules).warnings := by
  cases h with
  | badRules h => cases hrules.symm.trans h
  | badColumn h hcode => cases hcolumns.symm.trans hcode
  | badReport h _ herror =>
    cases hrules.symm.trans h
    cases hreport.symm.trans herror
  | done h hcs _ =>
    cases hrules.symm.trans h
    cases hcolumns.symm.trans hcs
    exact ⟨rfl, rfl, rfl⟩

def stateAfter (disk : Disk) (sources : Sources) (emitted : List Diagnostic) (printed : String) :
    RunState :=
  { disk, sources, log := ({} : Log).emitAll emitted, printed }

section
variable {o : Options} {disk : Disk} {sources : Sources} {emitted : List Diagnostic}
  {printed : String} {rules : RuleSet}

theorem run_loadRules_ok {warnings : List Diagnostic}
    (h : rulesOf o disk = (sources, .ok (rules, warnings))) :
    (loadRules o).run.run { disk } = (.ok rules, stateAfter disk sources warnings "") := by
  unfold rulesOf at h
  rw [loadRules, run_get_bind]
  cases hpath : rulesFile? o disk with
  | none =>
    rw [hpath] at h
    cases h
    rfl
  | some path =>
    rw [hpath] at h
    dsimp only at h ⊢
    rw [h]
    rfl

theorem run_loadRules_error {e : RulesError} (h : rulesOf o disk = (sources, .error e)) :
    (loadRules o).run.run { disk } = (.error (.rules e), stateAfter disk sources [] "") := by
  unfold rulesOf at h
  rw [loadRules, run_get_bind]
  cases hpath : rulesFile? o disk with
  | none =>
    rw [hpath] at h
    cases h
  | some path =>
    rw [hpath] at h
    dsimp only at h ⊢
    rw [h]
    rfl

theorem run_columns_ok {cs : List Metric} (h : columnsOf o = .ok cs) (s : RunState) :
    (columns o).run.run s = (.ok cs, s) := by
  unfold columnsOf at h
  unfold columns
  split_ifs at h ⊢
  · cases h
    rfl
  · rw [h]
    rfl

theorem run_columns_error {code : String} (h : columnsOf o = .error code) (s : RunState) :
    (columns o).run.run s = (.error (.unknownColumn code), s) := by
  unfold columnsOf at h
  unfold columns
  split_ifs at h ⊢
  rw [h]
  rfl

theorem run_announce :
    (announce o).run.run (stateAfter disk sources emitted "") =
      (.ok (), stateAfter disk sources emitted (heading o disk)) := by
  unfold announce heading
  cases o.quiet with
  | true => rfl
  | false => rfl

/-- Whether or not the report can be read, its warnings are emitted and its sources are kept. -/
theorem run_loadReport :
    (loadReport o rules (ranges o)).run.run (stateAfter disk sources emitted printed) =
      (match (loading o disk sources rules).outcome with
        | .ok _ => .ok (loading o disk sources rules).report
        | .error e => .error (.report e),
        stateAfter disk (loading o disk sources rules).sources
          (emitted ++ (loading o disk sources rules).warnings) printed) := by
  rw [stateAfter, stateAfter, Log.emitAll_append]
  unfold loading
  rw [loadReport, run_get_bind]
  dsimp only
  cases (({ rules } : Report).load sources disk o.report (ranges o)).outcome <;> rfl

end

section
variable {o : Options} {disk : Disk}

/-- Nothing that is read makes for an error among the messages. -/
theorem severity_of_reads {sources : Sources} {emitted : List Diagnostic} {printed : String}
    {result : Except RunError (List Metric × Report)}
    (h : Reads o disk sources emitted printed result) : ∀ d ∈ emitted, d.severity ≠ .error := by
  have hrules : ∀ {sources rules warnings}, rulesOf o disk = (sources, .ok (rules, warnings)) →
      ∀ d ∈ warnings, d.severity ≠ .error := by
    intro sources rules warnings hrules
    unfold rulesOf at hrules
    split at hrules
    · cases hrules
      exact fun d hd => absurd hd List.not_mem_nil
    · unfold RuleSet.load at hrules
      split at hrules
      · cases hrules
      · exact RuleSet.severity_of_ofFile (congrArg Prod.snd hrules)
  have hloading : ∀ sources rules, ∀ d ∈ (loading o disk sources rules).warnings,
      d.severity ≠ .error := by
    intro sources rules d hd
    unfold loading Report.load at hd
    split at hd
    · cases hd
    · exact Report.severity_of_read _ _ _ d hd
  cases h with
  | badRules h => exact fun d hd => absurd hd List.not_mem_nil
  | badColumn h hcolumns => exact hrules h
  | badReport h hcolumns hreport =>
    exact fun d hd => (List.mem_append.mp hd).elim (hrules h d) (hloading _ _ d)
  | done h hcolumns hreport =>
    exact fun d hd => (List.mem_append.mp hd).elim (hrules h d) (hloading _ _ d)

end

def finish (o : Options) (cs : List Metric) (report : Report) : Run Unit :=
  if o.debug then print (report.toJson.pretty ++ "\n")
  else do
    let checks ← summarize report (summaryOptions o) (List.range report.paths.length)
    writeTable o report cs
    writeTraces o report checks
    writeBars o report

theorem perform_eq (o : Options) : perform o = (do
    let rules ← loadRules o
    let cs ← columns o
    announce o
    let report ← loadReport o rules (ranges o)
    finish o cs report) := rfl

theorem run_perform {o : Options} {disk : Disk} {sources : Sources} {emitted : List Diagnostic}
    {printed : String} {result : Except RunError (List Metric × Report)}
    (h : Reads o disk sources emitted printed result) :
    (perform o).run.run { disk } =
      match result with
      | .error e => (.error e, stateAfter disk sources emitted printed)
      | .ok (cs, report) =>
        (finish o cs report).run.run (stateAfter disk sources emitted printed) := by
  rw [perform_eq]
  cases h with
  | badRules hrules => exact run_bind_error (run_loadRules_error hrules)
  | badColumn hrules hcolumns =>
    rw [run_bind_ok (run_loadRules_ok hrules)]
    exact run_bind_error (run_columns_error hcolumns _)
  | badReport hrules hcolumns hreport =>
    rw [run_bind_ok (run_loadRules_ok hrules), run_bind_ok (run_columns_ok hcolumns _),
      run_bind_ok run_announce]
    exact run_bind_error (by rw [run_loadReport, hreport])
  | done hrules hcolumns hreport =>
    rw [run_bind_ok (run_loadRules_ok hrules), run_bind_ok (run_columns_ok hcolumns _),
      run_bind_ok run_announce]
    exact run_bind_ok (by rw [run_loadReport, hreport])

end Run

end PathTiming
