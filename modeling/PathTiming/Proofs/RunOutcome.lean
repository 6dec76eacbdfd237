import PathTiming.Proofs.ChartRequest
import PathTiming.Proofs.DiskWrite
import PathTiming.Proofs.MessageText
import PathTiming.Proofs.PathText
import PathTiming.Proofs.RunInput

/-! What comes of a run: nothing is written and no summary is printed unless all input could be read,
and then nothing but the disk can stop it. -/
namespace PathTiming

/-! ### Summaries -/

namespace Report

def check? (r : Report) (o : SummaryOptions) (index : Nat) : Option ClockCheck := do
  let p ← r.paths[index]?
  if (o.clockCheck || r.rules.toggle .clockCheckEnable) && p.maxDelay.isNone then
    (r.clockCheck index o.trace).toOption
  else none

/-- A path with its index and its clock check, if that is made. -/
def checked? (r : Report) (o : SummaryOptions) (index : Nat) :
    Option (Nat × TimingPath × ClockCheck) := do
  let p ← r.paths[index]?
  let check ← r.check? o index
  return (index, p, check)

/-- The paths whose clock networks are checked, in order. -/
def checkedPaths (r : Report) (o : SummaryOptions) : List (Nat × TimingPath × ClockCheck) :=
  (List.range r.paths.length).filterMap (r.checked? o)

/-- One section for each checked path, numbered from 1 in the order of all paths. -/
def traceText (r : Report) (o : SummaryOptions) : String :=
  Text.ofLines ((r.checkedPaths o).flatMap fun (index, p, check) => check.traceLines index p)

section
variable {r : Report} {o : SummaryOptions} {index : Nat} {p : TimingPath}

theorem clockCheck_eq (hp : r.paths[index]? = some p) (traced : Bool) :
    r.clockCheck index traced =
      if p.clockPinAt.isNone then .error (.noLaunchClockPin index)
      else if p.capturePins.isEmpty then .error (.noCaptureClock index)
      else .ok (.ofNetworks p.launchClockPins p.capturePins r.rules traced) := by
  unfold clockCheck
  rw [path_eq_ok hp]
  dsimp only [bind, Except.bind]
  split_ifs <;> rfl

/-- The check of a path that exists is either made, or a part of the path is missing. -/
theorem checkResult_clockCheck (hp : r.paths[index]? = some p) (traced : Bool) :
    ∃ lines, Summary.checkResult p (r.clockCheck index traced) =
      .ok (lines, (r.clockCheck index traced).toOption) := by
  rw [clockCheck_eq hp]
  split_ifs
  · exact ⟨_, rfl⟩
  · exact ⟨_, rfl⟩
  · exact ⟨_, rfl⟩

/-- A check that is made for a trace has one. -/
theorem exists_trace {check : ClockCheck} (h : r.check? o index = some check)
    (htrace : o.trace = true) : ∃ levels, check.trace = some levels := by
  unfold check? at h
  cases hp : r.paths[index]? with
  | none => simp [hp] at h
  | some p =>
    rw [hp, htrace, clockCheck_eq hp] at h
    dsimp only [Option.bind_eq_bind, Option.bind_some] at h
    split_ifs at h <;> cases h
    exact ⟨_, rfl⟩

/-- The sections of the checked paths make up the text. -/
theorem exists_sections (r : Report) (htrace : o.trace = true) :
    ∃ sections, List.Forall₂ (fun (index, p, check) lines => SpellsSection index p check lines)
        (r.checkedPaths o) sections ∧
      r.traceText o = String.join (sections.flatten.map (· ++ "\n")) := by
  refine ⟨(r.checkedPaths o).map fun (index, p, check) => check.traceLines index p, ?_, ?_⟩
  · refine List.forall₂_map_right_iff.mpr (List.forall₂_same.mpr fun (index, p, check) hchecked => ?_)
    obtain ⟨index', -, hindex⟩ := List.mem_filterMap.mp hchecked
    obtain ⟨p', -, hindex⟩ := Option.bind_eq_some_iff.mp hindex
    obtain ⟨check', hcheck, hindex⟩ := Option.bind_eq_some_iff.mp hindex
    cases hindex
    obtain ⟨levels, hlevels⟩ := exists_trace hcheck htrace
    exact spellsSection_traceLines hlevels index p
  · rw [traceText, Text.ofLines, List.flatMap_def]

/-- Every path that a report has can be summarized. -/
theorem exists_summary (hp : r.paths[index]? = some p) (o : SummaryOptions) :
    ∃ s, r.summary o index = .ok s ∧ s.check = r.check? o index := by
  have hclock : ∃ lines, Summary.clock r index p
      (o.clockCheck || r.rules.toggle .clockCheckEnable) o.trace = .ok (lines, r.check? o index) := by
    unfold Summary.clock check?
    rw [hp]
    dsimp only [Option.bind_eq_bind, Option.bind_some]
    split_ifs
    · obtain ⟨lines, hlines⟩ := checkResult_clockCheck hp o.trace
      rw [hlines]
      exact ⟨_, rfl⟩
    · exact ⟨_, rfl⟩
  obtain ⟨lines, hlines⟩ := hclock
  unfold summary
  rw [path_eq_ok hp]
  dsimp only [bind, Except.bind]
  rw [hlines]
  exact ⟨_, rfl, rfl⟩

theorem exists_summaries (r : Report) (o : SummaryOptions) :
    ∃ summaries, List.Forall₂
      (fun index s => r.summary o index = .ok s ∧ s.check = r.check? o index ∧
        ∃ p, r.paths[index]? = some p ∧ IsSummaryOf p s.lines)
      (List.range r.paths.length) summaries := by
  have hall : ∀ index ∈ List.range r.paths.length,
      ∃ s, r.summary o index = .ok s ∧ s.check = r.check? o index ∧
        ∃ p, r.paths[index]? = some p ∧ IsSummaryOf p s.lines := fun index hindex => by
    have hp := List.getElem?_eq_getElem (List.mem_range.mp hindex)
    obtain ⟨s, hs, hcheck⟩ := exists_summary hp o
    exact ⟨s, hs, hcheck, _, hp, isSummaryOf_of_summary hp hs⟩
  generalize List.range r.paths.length = indices at hall
  induction indices with
  | nil => exact ⟨[], .nil⟩
  | cons index indices ih =>
    obtain ⟨⟨s, hs⟩, hrest⟩ := List.forall_mem_cons.mp hall
    obtain ⟨summaries, hsummaries⟩ := ih hrest
    exact ⟨s :: summaries, .cons hs hsummaries⟩

end

end Report

namespace Run

/-- The clock checks among summaries, with the indices of their paths. -/
def checksOf (indices : List Nat) (summaries : List Summary) : List (Nat × ClockCheck) :=
  (indices.zip summaries).filterMap fun (index, s) => s.check.map fun check => (index, check)

theorem checksOf_cons (index : Nat) (indices : List Nat) (s : Summary) (summaries : List Summary) :
    checksOf (index :: indices) (s :: summaries) =
      (s.check.map fun check => (index, check)).toList ++ checksOf indices summaries := by
  unfold checksOf
  rw [List.zip_cons_cons, List.filterMap_cons]
  dsimp only
  cases s.check <;> rfl

/-- Summaries that can be made are printed one after another. -/
theorem run_summarize {r : Report} {o : SummaryOptions} {indices : List Nat}
    {summaries : List Summary}
    (h : List.Forall₂ (fun index s => r.summary o index = .ok s) indices summaries)
    (s : RunState) :
    (summarize r o indices).run.run s =
      (.ok (checksOf indices summaries),
        { s with
          printed := s.printed ++ String.join (summaries.map fun x => Text.ofLines x.lines) }) := by
  induction h generalizing s with
  | nil =>
    change (Except.ok [], s) = _
    simp [checksOf]
  | @cons index summary indices summaries hsummary hrest ih =>
    have hstart : (orFail .analysis (r.summary o index)).run.run s = (.ok summary, s) := by
      rw [hsummary]
      rfl
    rw [summarize, run_bind_ok hstart, run_bind_ok (run_print _ _), run_bind_ok (ih _)]
    change (Except.ok ((summary.check.map fun check => (index, check)).toList ++ _), _) = _
    rw [checksOf_cons, List.map_cons, String.join_cons, ← String.append_assoc]

/-- What the checks of summaries are written as is what the checked paths are written as. -/
theorem flatten_checksOf {r : Report} {o : SummaryOptions} {indices : List Nat}
    {summaries : List Summary}
    (h : List.Forall₂ (fun index s => r.summary o index = .ok s) indices summaries)
    (hindices : ∀ index ∈ indices, index < r.paths.length) :
    ((checksOf indices summaries).map fun (index, check) =>
        ((r.paths[index]?).map (check.traceLines index)).getD []).flatten =
      (indices.filterMap (r.checked? o)).flatMap fun (index, p, check) =>
        check.traceLines index p := by
  induction h with
  | nil => rfl
  | @cons index summary indices summaries hsummary hrest ih =>
    obtain ⟨hindex, hlater⟩ := List.forall_mem_cons.mp hindices
    have hp := List.getElem?_eq_getElem hindex
    obtain ⟨s, hs, hcheck⟩ := Report.exists_summary hp o
    obtain rfl : s = summary := Except.ok.inj (hs.symm.trans hsummary)
    have hchecked : r.checked? o index = s.check.map fun check =>
        (index, r.paths[index], check) := by
      unfold Report.checked?
      rw [hp, hcheck]
      cases r.check? o index <;> rfl
    rw [checksOf_cons, List.map_append, List.flatten_append, ih hlater, List.filterMap_cons,
      hchecked]
    cases s.check with
    | none => rfl
    | some check =>
      change ((r.paths[index]?).map (check.traceLines index)).getD [] ++ [] ++ _ = _
      rw [hp, List.append_nil]
      rfl

/-! ### Exports -/

/-- The file for the table with its text, if there is one. -/
def tableExport (o : Options) (cs : List Metric) (r : Report) : List (String × String) :=
  (o.tableFile.map fun path => (path, Text.ofLines (r.metricTable cs))).toList

/-- The file for the traces with its text, if there is one. -/
def traceExport (o : Options) (r : Report) : List (String × String) :=
  (o.traceFile.map fun path => (path, r.traceText (summaryOptions o))).toList

def ended : Option RunError → Except RunError Unit
  | none => .ok ()
  | some e => .error e

def afterWrites (s : RunState) (written : Disk × Option FileError) :
    Except RunError Unit × RunState :=
  (ended (written.2.map .write), { s with disk := written.1 })

section
variable {o : Options} {r : Report} {s : RunState}

theorem run_writeFile (path text : String) (s : RunState) :
    (writeFile path text).run.run s = afterWrites s (s.disk.writeAll [(path, text)]) := by
  rw [writeFile, run_get_bind, Disk.writeAll]
  cases s.disk.write path text <;> rfl

theorem run_writeTable (o : Options) (cs : List Metric) (r : Report) (s : RunState) :
    (writeTable o r cs).run.run s = afterWrites s (s.disk.writeAll (tableExport o cs r)) := by
  unfold writeTable tableExport
  cases o.tableFile with
  | none => rfl
  | some path => exact run_writeFile path _ s

/-- The checks of all summaries give the text for the file of traces. -/
theorem run_writeTraces {summaries : List Summary}
    (h : List.Forall₂ (fun index s => r.summary (summaryOptions o) index = .ok s)
      (List.range r.paths.length) summaries) (s : RunState) :
    (writeTraces o r (checksOf (List.range r.paths.length) summaries)).run.run s =
      afterWrites s (s.disk.writeAll (traceExport o r)) := by
  unfold writeTraces traceExport Report.traceText Report.checkedPaths
  rw [← flatten_checksOf h fun index hindex => List.mem_range.mp hindex]
  cases o.traceFile with
  | none => rfl
  | some path => exact run_writeFile path _ s

/-- What the charts of a run come to: the text of the series, if there are any, and the messages. -/
inductive Charts (o : Options) (r : Report) : Option String → List Diagnostic → Prop
  | unasked (h : (r.paths.isEmpty || (barRequest o r.rules).1.data.isEmpty) = true) :
      Charts o r none (barRequest o r.rules).2
  | made {series : List BarSeries} {remarks : List Diagnostic}
      (h : (r.paths.isEmpty || (barRequest o r.rules).1.data.isEmpty) = false)
      (hseries : r.barSeries (r.paths.length - 1) (barRequest o r.rules).1 =
        .ok (series, remarks)) :
      Charts o r (some ((Json.list BarSeries.toJson series).pretty ++ "\n"))
        ((barRequest o r.rules).2 ++ remarks)

theorem exists_charts (o : Options) (r : Report) : ∃ text messages, Charts o r text messages := by
  cases h : r.paths.isEmpty || (barRequest o r.rules).1.data.isEmpty with
  | true => exact ⟨_, _, .unasked h⟩
  | false =>
    have hlast : r.paths.length - 1 < r.paths.length := by
      have hne : r.paths ≠ [] := by
        intro hnil
        rw [hnil] at h
        cases h
      have := List.length_pos_iff.mpr hne
      omega
    have hp := Report.path_eq_ok (List.getElem?_eq_getElem hlast)
    exact ⟨_, _, .made h (Report.barSeries_eq hp _)⟩

def barExport (o : Options) (text : Option String) : List (String × String) :=
  match o.barFile, text with
  | some path, some text => [(path, text)]
  | _, _ => []

/-- What is printed of charts: all, unless there is a file for them. -/
def barPrint (o : Options) (text : Option String) : String :=
  match o.barFile, text with
  | none, some text => text
  | _, _ => ""

theorem run_writeBars {text : Option String} {messages : List Diagnostic}
    (h : Charts o r text messages) (s : RunState) :
    (writeBars o r).run.run s =
      afterWrites { s with
        log := s.log.emitAll messages, printed := s.printed ++ barPrint o text }
        (s.disk.writeAll (barExport o text)) := by
  cases h with
  | unasked h =>
    unfold writeBars
    dsimp only
    rw [run_bind_ok (run_emit _ _), if_pos h]
    have hnone : barExport o none = [] ∧ barPrint o none = "" := by
      unfold barExport barPrint
      cases o.barFile <;> exact ⟨rfl, rfl⟩
    rw [hnone.1, hnone.2, String.append_empty]
    rfl
  | @made series remarks h hseries =>
    unfold writeBars
    dsimp only
    have hstart : (orFail .analysis (r.barSeries (r.paths.length - 1)
        (barRequest o r.rules).1)).run.run
          { s with log := s.log.emitAll (barRequest o r.rules).2 } =
        (.ok (series, remarks), { s with log := s.log.emitAll (barRequest o r.rules).2 }) := by
      rw [hseries]
      rfl
    rw [run_bind_ok (run_emit _ _), if_neg (by rw [h]; decide), run_bind_ok hstart]
    dsimp only
    rw [run_bind_ok (run_emit _ _), ← Log.emitAll_append]
    unfold barExport barPrint
    cases o.barFile with
    | none => rfl
    | some path =>
      dsimp only
      rw [String.append_empty]
      exact run_writeFile path _ _

theorem run_exports (cs : List Metric) {summaries : List Summary} {text : Option String}
    {messages : List Diagnostic}
    (hsummaries : List.Forall₂ (fun index s => r.summary (summaryOptions o) index = .ok s)
      (List.range r.paths.length) summaries)
    (hcharts : Charts o r text messages) (s : RunState) :
    (do
        writeTable o r cs
        writeTraces o r (checksOf (List.range r.paths.length) summaries)
        writeBars o r : Run Unit).run.run s =
      match s.disk.writeAll (tableExport o cs r ++ traceExport o r) with
      | (written, some cause) => (ended (some (.write cause)), { s with disk := written })
      | (before, none) =>
        afterWrites { s with
          disk := before
          log := s.log.emitAll messages
          printed := s.printed ++ barPrint o text } (before.writeAll (barExport o text)) := by
  have htable := run_writeTable o cs r s
  rw [Disk.writeAll_append]
  rcases hmiddle : s.disk.writeAll (tableExport o cs r) with ⟨middle, _ | cause⟩
  · rw [hmiddle] at htable
    have htraces := run_writeTraces hsummaries { s with disk := middle }
    rw [run_bind_ok htable]
    dsimp only at htraces ⊢
    rcases hbefore : middle.writeAll (traceExport o r) with ⟨before, _ | cause⟩
    · rw [hbefore] at htraces
      rw [run_bind_ok htraces]
      exact run_writeBars hcharts _
    · rw [hbefore] at htraces
      exact run_bind_error htraces
  · rw [hmiddle] at htable
    exact run_bind_error htable

end

/-- How a run ends that does not stop at its input: why it fails, the disk that it leaves, and what is
printed and emitted after the summaries. Charts are made when the other files are written. -/
inductive Finishes (o : Options) (cs : List Metric) (r : Report) (disk : Disk) :
    Option RunError → Disk → String → List Diagnostic → Prop
  | stopped {written : Disk} {cause : FileError}
      (h : disk.writeAll (tableExport o cs r ++ traceExport o r) = (written, some cause)) :
      Finishes o cs r disk (some (.write cause)) written "" []
  | finished {before written : Disk} {text : Option String} {messages : List Diagnostic}
      {failure : Option FileError}
      (h : disk.writeAll (tableExport o cs r ++ traceExport o r) = (before, none))
      (hcharts : Charts o r text messages)
      (hbars : before.writeAll (barExport o text) = (written, failure)) :
      Finishes o cs r disk (failure.map .write) written (barPrint o text) messages

section
variable {o : Options} {cs : List Metric} {r : Report} {disk : Disk} {sources : Sources}
  {emitted : List Diagnostic} {printed : String}

theorem run_finish_debug (hdebug : o.debug = true) :
    (finish o cs r).run.run (stateAfter disk sources emitted printed) =
      (ended none, stateAfter disk sources emitted (printed ++ (r.toJson.pretty ++ "\n"))) := by
  unfold finish
  rw [if_pos hdebug]
  rfl

theorem run_finish (hdebug : o.debug = false) {summaries : List Summary}
    (hsummaries : List.Forall₂ (fun index s => r.summary (summaryOptions o) index = .ok s)
      (List.range r.paths.length) summaries) :
    ∃ failure written shown later, Finishes o cs r disk failure written shown later ∧
      (finish o cs r).run.run (stateAfter disk sources emitted printed) =
        (ended failure, stateAfter written sources (emitted ++ later)
          (printed ++ String.join (summaries.map fun x => Text.ofLines x.lines) ++ shown)) := by
  obtain ⟨text, messages, hcharts⟩ := exists_charts o r
  have hfinish : finish o cs r = (do
      let checks ← summarize r (summaryOptions o) (List.range r.paths.length)
      writeTable o r cs
      writeTraces o r checks
      writeBars o r) := by
    unfold finish
    rw [if_neg (by rw [hdebug]; decide)]
  rw [hfinish, run_bind_ok (run_summarize hsummaries _), run_exports cs hsummaries hcharts]
  dsimp only [stateAfter]
  rcases hexports : disk.writeAll (tableExport o cs r ++ traceExport o r) with ⟨before, _ | cause⟩
  · dsimp only
    rcases hbars : before.writeAll (barExport o text) with ⟨written, failure⟩
    refine ⟨_, _, _, _, .finished hexports hcharts hbars, ?_⟩
    rw [Log.emitAll_append]
    rfl
  · refine ⟨_, _, _, _, .stopped hexports, ?_⟩
    rw [List.append_nil, String.append_empty]

end

/-! ### The files that are left -/

def exportPaths (o : Options) : List String :=
  o.tableFile.toList ++ o.traceFile.toList ++ o.barFile.toList

section
variable {o : Options} {cs : List Metric} {r : Report} {disk written : Disk}
  {failure : Option RunError} {shown : String} {later : List Diagnostic}

theorem paths_of_exports (o : Options) (cs : List Metric) (r : Report) (text : Option String) :
    ((tableExport o cs r ++ traceExport o r ++ barExport o text).map (·.1)).Sublist
      (exportPaths o) := by
  have htable : (tableExport o cs r).map (·.1) = o.tableFile.toList := by
    unfold tableExport
    cases o.tableFile <;> rfl
  have htrace : (traceExport o r).map (·.1) = o.traceFile.toList := by
    unfold traceExport
    cases o.traceFile <;> rfl
  have hbars : ((barExport o text).map (·.1)).Sublist o.barFile.toList := by
    unfold barExport
    split
    · rename_i h
      rw [h]
      exact List.Sublist.refl _
    · exact List.nil_sublist _
  rw [List.map_append, List.map_append, htable, htrace]
  exact hbars.append_left _

/-- However a run ends, it has written its files one after another up to the first that it could not
write. Charts belong to a run that could write the table and the traces. -/
theorem Finishes.exists_writeAll (h : Finishes o cs r disk failure written shown later) :
    ∃ text cause, disk.writeAll (tableExport o cs r ++ traceExport o r ++ barExport o text) =
        (written, cause) ∧ failure = cause.map .write ∧
      (cause = none → Charts o r text later ∧ shown = barPrint o text) := by
  cases h with
  | @stopped written cause h =>
    refine ⟨none, some cause, ?_, rfl, fun hnone => by cases hnone⟩
    rw [Disk.writeAll_append, h]
  | @finished before written text messages cause h hcharts hbars =>
    refine ⟨text, cause, ?_, rfl, fun _ => ⟨hcharts, rfl⟩⟩
    rw [Disk.writeAll_append, h]
    exact hbars

theorem Finishes.failure_eq_none (h : Finishes o cs r disk failure written shown later)
    (hwritable : ∀ path ∈ exportPaths o, ∃ name, disk.target path = .ok name) :
    failure = none := by
  obtain ⟨text, cause, hwritten, rfl, -⟩ := h.exists_writeAll
  obtain ⟨after, hafter⟩ := Disk.exists_writeAll fun w hw =>
    hwritable w.1 ((paths_of_exports o cs r text).subset (List.mem_map_of_mem hw))
  cases hwritten.symm.trans hafter
  rfl

/-- Where no chart is asked for, nothing is said but what there is to say of the request. -/
theorem Finishes.later_eq (h : Finishes o cs r disk none written shown later)
    (hdata : (barRequest o r.rules).1.data.isEmpty = true) : later = (barRequest o r.rules).2 := by
  obtain ⟨text, cause, -, hcause, hcharts⟩ := h.exists_writeAll
  obtain rfl : cause = none := by simpa using hcause.symm
  cases (hcharts rfl).1 with
  | unasked => rfl
  | made hasked => simp [hdata] at hasked

theorem Finishes.get? (h : Finishes o cs r disk failure written shown later) {name : List String}
    (hother : ∀ path ∈ exportPaths o, disk.target path ≠ .ok name) :
    written.files.get? name = disk.files.get? name := by
  obtain ⟨text, cause, hwritten, -, -⟩ := h.exists_writeAll
  have hkept := Disk.get?_writeAll fun w hw =>
    hother w.1 ((paths_of_exports o cs r text).subset (List.mem_map_of_mem hw))
  rw [hwritten] at hkept
  exact hkept

/-- Each file holds its own text in the end, if no other one is written to its place. -/
theorem Finishes.read (h : Finishes o cs r disk failure written shown later)
    (hapart : (exportPaths o).Pairwise disk.Apart)
    (hwrites : ∀ cause, failure ≠ some (.write cause)) :
    failure = none ∧ ∃ text, Charts o r text later ∧ shown = barPrint o text ∧
      ∀ w ∈ tableExport o cs r ++ traceExport o r ++ barExport o text,
        written.read w.1 = .ok w.2.toUTF8 := by
  obtain ⟨text, cause, hwritten, rfl, hcharts⟩ := h.exists_writeAll
  cases cause with
  | some cause => exact absurd rfl (hwrites cause)
  | none =>
    obtain ⟨hcharts, hshown⟩ := hcharts rfl
    refine ⟨rfl, text, hcharts, hshown, Disk.read_of_writeAll hwritten ?_⟩
    exact List.pairwise_map.mp (hapart.sublist (paths_of_exports o cs r text))

end

/-! ### Outcomes -/

section
variable {o : Options} {disk : Disk} {r : Report}

theorem severity_of_barRequest (o : Options) (rules : RuleSet) :
    ∀ d ∈ (barRequest o rules).2, d.severity ≠ .error := by
  have hwarning : ∀ d ∈ (barRequest o rules).2, d.severity = .warning := by
    unfold barRequest
    dsimp only
    split
    · exact fun d hd => (BarRequest.kind_of_ofCodes _ _ d hd).1
    · intro d hd
      rcases List.mem_append.mp hd with hd | hd
      · exact (BarRequest.kind_of_ofCodes _ _ d hd).1
      · exact (BarRequest.kind_of_addBarSet _ _ _ d hd).1
  intro d hd
  rw [hwarning d hd]
  exact Severity.noConfusion

theorem severity_of_charts {text : Option String} {messages : List Diagnostic}
    (h : Charts o r text messages) : ∀ d ∈ messages, d.severity ≠ .error := by
  cases h with
  | unasked h => exact severity_of_barRequest o r.rules
  | made h hseries =>
    refine fun d hd => (List.mem_append.mp hd).elim (severity_of_barRequest o r.rules d) ?_
    exact Report.severity_of_barSeries hseries d

theorem severity_of_finishes {cs : List Metric} {failure : Option RunError} {written : Disk}
    {shown : String} {later : List Diagnostic}
    (h : Finishes o cs r disk failure written shown later) : ∀ d ∈ later, d.severity ≠ .error := by
  cases h with
  | stopped h => exact fun d hd => absurd hd List.not_mem_nil
  | finished h hcharts hbars => exact severity_of_charts hcharts

end

end Run

theorem Options.run_eq {o : Options} {disk written : Disk} {terminal : Bool} {sources : Sources}
    {emitted : List Diagnostic} {printed : String} {failure : Option RunError}
    (h : (Run.perform o).run.run { disk } =
      (Run.ended failure, Run.stateAfter written sources emitted printed))
    (hemitted : ∀ d ∈ emitted, d.severity ≠ .error) :
    o.run disk terminal =
      { printed
        messages := messageText o terminal sources emitted
        disk := written
        failure
        code := if failure.isSome then 1 else 0 } := by
  have hqueue : (Run.stateAfter written sources emitted printed).log.queue = emitted :=
    Log.queue_emitAll _ _
  have herrors : (Run.stateAfter written sources emitted printed).log.hasErrors = false :=
    Log.hasErrors_emitAll hemitted _
  have hrun : (Run.perform o).run { disk } =
      (Run.ended failure, Run.stateAfter written sources emitted printed) := h
  unfold Options.run
  rw [hrun]
  dsimp only
  rw [hqueue, herrors, Bool.or_false]
  cases failure <;> rfl

section
variable {o : Options} {disk : Disk} {sources : Sources} {emitted : List Diagnostic}
  {printed : String}

theorem Options.run_of_error {e : RunError}
    (h : Run.Reads o disk sources emitted printed (.error e)) (terminal : Bool) :
    o.run disk terminal =
      { printed
        messages := messageText o terminal sources emitted
        disk
        failure := some e
        code := 1 } :=
  run_eq (Run.run_perform h) (Run.severity_of_reads h)

theorem Options.run_of_debug {cs : List Metric} {r : Report}
    (h : Run.Reads o disk sources emitted printed (.ok (cs, r))) (hdebug : o.debug = true)
    (terminal : Bool) :
    o.run disk terminal =
      { printed := printed ++ (r.toJson.pretty ++ "\n")
        messages := messageText o terminal sources emitted
        disk
        failure := none
        code := 0 } :=
  run_eq ((Run.run_perform h).trans (Run.run_finish_debug hdebug)) (Run.severity_of_reads h)

theorem Options.exists_finishes {cs : List Metric} {r : Report}
    (h : Run.Reads o disk sources emitted printed (.ok (cs, r))) (hdebug : o.debug = false)
    (terminal : Bool) :
    ∃ summaries failure written shown later,
      List.Forall₂ (fun index s => r.summary (Run.summaryOptions o) index = .ok s ∧
          s.check = r.check? (Run.summaryOptions o) index ∧
          ∃ p, r.paths[index]? = some p ∧ IsSummaryOf p s.lines)
        (List.range r.paths.length) summaries ∧
      Run.Finishes o cs r disk failure written shown later ∧
      o.run disk terminal =
        { printed := printed ++ String.join (summaries.map fun s => Text.ofLines s.lines) ++ shown
          messages := messageText o terminal sources (emitted ++ later)
          disk := written
          failure
          code := if failure.isSome then 1 else 0 } := by
  obtain ⟨summaries, hsummaries⟩ := r.exists_summaries (Run.summaryOptions o)
  obtain ⟨failure, written, shown, later, hfinishes, hfinish⟩ :=
    Run.run_finish hdebug (hsummaries.imp fun _ _ h => h.1)
  have hall : ∀ d ∈ emitted ++ later, d.severity ≠ .error := fun d hd =>
    (List.mem_append.mp hd).elim (Run.severity_of_reads h d) (Run.severity_of_finishes hfinishes d)
  exact ⟨summaries, failure, written, shown, later, hsummaries, hfinishes,
    run_eq ((Run.run_perform h).trans hfinish) hall⟩

end

/-- A run leaves all files alone that it was not asked to write, however it ends. -/
theorem Options.get?_run (o : Options) (disk : Disk) (terminal : Bool) {name : List String}
    (hother : ∀ path ∈ Run.exportPaths o, disk.target path ≠ .ok name) :
    (o.run disk terminal).disk.files.get? name = disk.files.get? name := by
  obtain ⟨sources, emitted, printed, result, hreads⟩ := Run.exists_reads o disk
  cases result with
  | error e => rw [run_of_error hreads]
  | ok found =>
    cases hdebug : o.debug with
    | true => rw [run_of_debug hreads hdebug]
    | false =>
      obtain ⟨summaries, failure, written, shown, later, -, hfinishes, hrun⟩ :=
        exists_finishes hreads hdebug terminal
      rw [hrun]
      exact hfinishes.get? hother

/-- A run reads its rules, its columns and its report. If one of them fails, the run fails with
the disk as it was and without a summary. A debug run never writes a file. Any other run prints the
summaries of all paths in order, and only writing can make it fail. If all files are written, each to a
place of its own, they hold the table of the paths and one section for each path that was checked.
Whatever happens, each message that came up is shown once, in order. -/
theorem Options.run_all_or_nothing (o : Options) (disk : Disk) (terminal : Bool) :
    ∃ sources emitted printed result, Run.Reads o disk sources emitted printed result ∧
      (∀ e, result = .error e → ∃ messages, Renders o terminal sources emitted messages ∧
        o.run disk terminal =
          { printed
            messages
            disk
            failure := some e
            code := 1 }) ∧
      (o.debug = true → (o.run disk terminal).disk = disk) ∧
      ∀ cs r, result = .ok (cs, r) →
        (o.debug = true → ∃ messages, Renders o terminal sources emitted messages ∧
          o.run disk terminal =
            { printed := printed ++ (r.toJson.pretty ++ "\n")
              messages
              disk
              failure := none
              code := 0 }) ∧
        (o.debug = false →
          ∃ summaries failure written shown later messages,
            List.Forall₂ (fun index s => r.summary (Run.summaryOptions o) index = .ok s ∧
                s.check = r.check? (Run.summaryOptions o) index ∧
                ∃ p, r.paths[index]? = some p ∧ IsSummaryOf p s.lines)
              (List.range r.paths.length) summaries ∧
            Run.Finishes o cs r disk failure written shown later ∧
            Renders o terminal sources (emitted ++ later) messages ∧
            o.run disk terminal =
              { printed := printed ++
                  String.join (summaries.map fun s => String.join (s.lines.map (· ++ "\n"))) ++ shown
                messages
                disk := written
                failure
                code := if failure.isSome then 1 else 0 } ∧
            ((∀ path ∈ Run.exportPaths o, ∃ name, disk.target path = .ok name) →
              failure = none) ∧
            ((Run.exportPaths o).Pairwise disk.Apart →
              (∀ cause, failure ≠ some (.write cause)) →
                failure = none ∧
                (∀ path ∈ o.tableFile, written.read path =
                  .ok (String.join ((r.metricTable cs).map (· ++ "\n"))).toUTF8) ∧
                ∀ path ∈ o.traceFile, ∃ sections,
                  List.Forall₂ (fun (index, p, check) lines => SpellsSection index p check lines)
                    (r.checkedPaths (Run.summaryOptions o)) sections ∧
                  written.read path =
                    .ok (String.join (sections.flatten.map (· ++ "\n"))).toUTF8)) := by
  obtain ⟨sources, emitted, printed, result, hreads⟩ := Run.exists_reads o disk
  refine ⟨sources, emitted, printed, result, hreads, ?_, ?_, ?_⟩
  · rintro e rfl
    exact ⟨_, renders_messageText o terminal sources emitted, run_of_error hreads terminal⟩
  · intro hdebug
    cases result with
    | error e => rw [run_of_error hreads]
    | ok found => rw [run_of_debug hreads hdebug]
  rintro cs r rfl
  refine ⟨fun hdebug => ?_, fun hdebug => ?_⟩
  · exact ⟨_, renders_messageText o terminal sources emitted, run_of_debug hreads hdebug terminal⟩
  obtain ⟨summaries, failure, written, shown, later, hsummaries, hfinishes, hrun⟩ :=
    exists_finishes hreads hdebug terminal
  refine ⟨summaries, failure, written, shown, later, _, hsummaries, hfinishes,
    renders_messageText o terminal sources (emitted ++ later), hrun, hfinishes.failure_eq_none,
    fun hapart hwrites => ?_⟩
  obtain ⟨hnone, text, -, -, hread⟩ := hfinishes.read hapart hwrites
  refine ⟨hnone, fun path hpath => ?_, fun path hpath => ?_⟩
  · refine hread (path, _) (List.mem_append_left _ (List.mem_append_left _ ?_))
    rw [Run.tableExport, Option.mem_def.mp hpath]
    exact List.mem_singleton_self _
  · have htrace : (Run.summaryOptions o).trace = true := by
      rw [Run.summaryOptions, Option.mem_def.mp hpath]
      rfl
    obtain ⟨sections, hsections, htext⟩ := r.exists_sections htrace
    refine ⟨sections, hsections, ?_⟩
    rw [← htext]
    refine hread (path, _) (List.mem_append_left _ (List.mem_append_right _ ?_))
    rw [Run.traceExport, Option.mem_def.mp hpath]
    exact List.mem_singleton_self _

def tracedText : String :=
  "Startpoint: ff/CK\nEndpoint: g/D\nPoint  Incr  Path\nbuf/Z (BUF) 1 1\nff/CK (DFF) 1 2\n" ++
    "g/D (DFF) 2 4\ndata arrival time 4\nclock c (rise edge) 5 5\nbuf/Z (BUF) 1 6\n" ++
    "g/CK (DFF) 1 7\ndata required time 7\nslack 3\n"

/-- A disk with nothing but a report of one path with both clock networks. -/
def reportDisk : Disk where
  files := ⟨[(["report"], .ok tracedText.toUTF8)]⟩

/-- The run writes a table and traces. It asks for the report, and for a path that is not there. -/
def tracedRun : Options where
  report := "report"
  noConfig := true
  range := some "1,99"
  tableFile := some "table"
  traceFile := some "trace"

def tracedFile : SourceFile := .ofText ⟨0⟩ "report" tracedText

theorem loading_tracedRun : Run.loading tracedRun reportDisk {} {} =
    ⟨(({ rules := {} } : Report).read tracedFile (Run.ranges tracedRun)).report, ⟨#[tracedFile]⟩,
      (({ rules := {} } : Report).read tracedFile (Run.ranges tracedRun)).warnings,
      (({ rules := {} } : Report).read tracedFile (Run.ranges tracedRun)).outcome.mapError
        .format⟩ := by
  have hlocate : reportDisk.locate "report" = .ok ["report"] := by decide +kernel
  have hread : reportDisk.readText "report" = .ok tracedText := by
    refine Disk.readText_of_read ?_ (by decide +kernel)
    rw [Disk.read, hlocate]
    rfl
  have hadd : ({} : Sources).add "report" tracedText = (⟨#[tracedFile]⟩, tracedFile) := rfl
  rw [Run.loading, show tracedRun.report = "report" from rfl, Report.load_of_ok hread, hadd]

theorem values_tracedRun :
    (Run.loading tracedRun reportDisk {} {}).outcome.toOption = some 1 ∧
      (Run.loading tracedRun reportDisk {} {}).warnings =
        [{ severity := .warning
           code := ⟨.report, 201⟩
           message := "no timing path found from line 99"
           location := ⟨⟨0⟩, 99⟩ }] ∧
      ((Run.loading tracedRun reportDisk {} {}).report.checkedPaths
        (Run.summaryOptions tracedRun)).map
          (fun (index, p, _) => (index, p.line, p.startpoint, p.endpoint)) =
        [(0, 1, "ff/CK", "g/D")] ∧
      (Run.loading tracedRun reportDisk {} {}).sources.describe? ⟨⟨0⟩, 99⟩ = some "report:99" ∧
      (Run.loading tracedRun reportDisk {} {}).sources.lineText? ⟨⟨0⟩, 99⟩ = none := by
  rw [loading_tracedRun, tracedFile]
  unfold tracedText
  rw [SourceFile.ofText_append₃ rfl rfl rfl]
  decide +kernel

/-- The warning about the range is shown with its place, and without a line. -/
theorem messages_tracedRun {messages : String}
    (h : Renders tracedRun false (Run.loading tracedRun reportDisk {} {}).sources
      (Run.loading tracedRun reportDisk {} {}).warnings messages) :
    messages = "warning[R201]: no timing path found from line 99\n  --> report:99\n" := by
  obtain ⟨-, hwarnings, -, hdescribe, hline⟩ := values_tracedRun
  rw [hwarnings] at h
  cases h with
  | silent hformat => cases hformat
  | json hformat => cases hformat
  | @text coloured texts hformat hcolour htexts =>
    obtain rfl : coloured = false := by
      cases coloured with
      | false => rfl
      | true => simp [tracedRun] at hcolour
    obtain ⟨text, rest, htext, hnil, rfl⟩ := List.forall₂_cons_left_iff.mp htexts
    obtain rfl := List.forall₂_nil_left_iff.mp hnil
    rw [htext.unique (spellsMessage_render _ _ _), Diagnostic.render, hdescribe, hline]
    rfl

theorem target_tracedRun :
    reportDisk.target "table" = .ok ["table"] ∧ reportDisk.target "trace" = .ok ["trace"] := by
  decide +kernel

/-- The names of the two files lead to different places. -/
theorem apart_tracedRun : (Run.exportPaths tracedRun).Pairwise reportDisk.Apart := by
  change ["table", "trace"].Pairwise reportDisk.Apart
  refine List.pairwise_pair.mpr fun name hname => ?_
  rw [target_tracedRun.1] at hname
  rw [target_tracedRun.2]
  cases hname
  decide

theorem Options.run_all_or_nothing_tracedRun :
    (tracedRun.run reportDisk false).failure = none ∧
      (tracedRun.run reportDisk false).code = 0 ∧
      (tracedRun.run reportDisk false).messages =
        "warning[R201]: no timing path found from line 99\n  --> report:99\n" ∧
      ∃ rest, (tracedRun.run reportDisk false).disk.read "trace" =
        .ok ("### path 1 (ln:1) ff/CK -> g/D\n" ++ rest).toUTF8 := by
  have hrules : Run.rulesOf tracedRun reportDisk = ({}, .ok ({}, [])) := rfl
  have hcolumns : Run.columnsOf tracedRun = .ok Metric.defaultColumns := rfl
  obtain ⟨hloaded, -, hchecked, -, -⟩ := values_tracedRun
  obtain ⟨sources, emitted, printed, result, hreads, -, -, hdone⟩ :=
    run_all_or_nothing tracedRun reportDisk false
  obtain ⟨rfl, rfl, rfl⟩ := hreads.of_loaded hrules hcolumns (ok_of_toOption hloaded)
  obtain ⟨-, hfinished⟩ := hdone _ _ rfl
  obtain ⟨summaries, failure, written, shown, later, messages, -, hfinishes, hrenders, hrun,
    hwritable, hread⟩ := hfinished rfl
  obtain rfl : failure = none := by
    refine hwritable ?_
    change ∀ path ∈ ["table", "trace"], _
    exact List.forall_mem_cons.mpr ⟨⟨_, target_tracedRun.1⟩,
      List.forall_mem_singleton.mpr ⟨_, target_tracedRun.2⟩⟩
  obtain ⟨-, -, htraces⟩ := hread apart_tracedRun (by simp)
  rw [hrun]
  refine ⟨rfl, rfl, ?_, ?_⟩
  · -- No chart was asked for, so that the warning about the range is the only message.
    obtain rfl : later = [] := hfinishes.later_eq rfl
    rw [List.append_nil, List.nil_append] at hrenders
    exact messages_tracedRun hrenders
  · obtain ⟨sections, hsections, htext⟩ := htraces "trace" rfl
    obtain ⟨⟨index, p, check⟩, hpath, hvalues⟩ := List.map_eq_singleton_iff.mp hchecked
    rw [hpath] at hsections
    obtain ⟨lines, rest, ⟨levels, rows, width, -, -, rfl⟩, hnil, rfl⟩ :=
      List.forall₂_cons_left_iff.mp hsections
    obtain ⟨rfl, hline, hstart, hend⟩ : index = 0 ∧ p.line = 1 ∧ p.startpoint = "ff/CK" ∧
        p.endpoint = "g/D" := by
      simpa using hvalues
    rw [htext, hline, hstart, hend, List.flatten_cons, List.cons_append, List.cons_append,
      List.map_cons, String.join_cons]
    exact ⟨_, rfl⟩

end PathTiming
