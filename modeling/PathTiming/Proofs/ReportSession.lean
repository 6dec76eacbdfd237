import PathTiming.Proofs.ReportOptions

/-! Reading ranges adds all that they hold, or nothing; what was read once stays. -/
namespace PathTiming

/-- Either a function gives a result everywhere on a list, or it fails at a first place. -/
theorem forall₂_ok_or_error {ε α β : Type} (f : α → Except ε β) (as : List α) :
    (∃ bs, List.Forall₂ (fun a b => f a = .ok b) as bs) ∨
      ∃ before a after bs e, as = before ++ a :: after ∧
        List.Forall₂ (fun a b => f a = .ok b) before bs ∧ f a = .error e := by
  induction as with
  | nil => exact .inl ⟨[], .nil⟩
  | cons a rest ih =>
    cases ha : f a with
    | error e => exact .inr ⟨[], a, rest, [], e, rfl, .nil, ha⟩
    | ok b =>
      obtain ⟨bs, hbs⟩ | ⟨before, x, after, bs, e, rfl, hbs, hx⟩ := ih
      · exact .inl ⟨b :: bs, .cons ha hbs⟩
      · exact .inr ⟨a :: before, x, after, b :: bs, e, rfl, .cons ha hbs, hx⟩

namespace EnumSet
variable {α : Type} [Listed α] [DecidableEq α]

/-- A union depends on the members only. -/
theorem union_congr {s t s' t' : EnumSet α}
    (h : ∀ a, (s.contains a || t.contains a) = (s'.contains a || t'.contains a)) :
    s.union t = s'.union t' := by
  unfold union
  exact congrArg filter (funext h)

end EnumSet

namespace Report

def header (file : SourceFile) : ReportHeader := .ofLines ((file.linesFrom 1).map (·.2))

theorem style_header (file : SourceFile) : (header file).style = styleAsked? file.lines := by
  rw [header, ReportHeader.style_ofLines, SourceFile.linesFrom_eq_numbered, map_snd_numbered]
  rfl

def scan (r : Report) (file : SourceFile) (range : ScanRange) : Except FormatError Scan :=
  Scan.ofRange r.rules (header file).through file range

def Scans (r : Report) (file : SourceFile) (ranges : List ScanRange) (found : List Scan) : Prop :=
  List.Forall₂ (fun range s => r.scan file range = .ok s) ranges found

theorem scans_or_error (r : Report) (file : SourceFile) (ranges : List ScanRange) :
    (∃ found, r.Scans file ranges found) ∨
      ∃ before range after found e, ranges = before ++ range :: after ∧
        r.Scans file before found ∧ r.scan file range = .error e :=
  forall₂_ok_or_error (r.scan file) ranges

/-- The warnings about the ranges whose scans hold no path, each at the first line of its range. -/
def emptyRangeWarnings (file : SourceFile) (ranges : List ScanRange) (found : List Scan) :
    List Diagnostic :=
  ((ranges.zip found).filter (·.2.paths.isEmpty)).map fun (range, _) =>
    { severity := .warning
      code := ⟨.report, 201⟩
      message := s!"no timing path found from line {max range.start 1}"
      location := ⟨file.id, max range.start 1⟩ }

def Findings.ofScans : List Scan → Findings
  | [] => {}
  | s :: rest => ⟨s.paths ++ (ofScans rest).paths, s.columns.union (ofScans rest).columns⟩

theorem Findings.paths_ofScans (found : List Scan) :
    (ofScans found).paths = found.flatMap (·.paths) := by
  induction found with
  | nil => rfl
  | cons s rest ih => rw [ofScans, ih, List.flatMap_cons]

theorem emptyRangeWarnings_cons (file : SourceFile) (range : ScanRange) (s : Scan)
    (ranges : List ScanRange) (found : List Scan) :
    emptyRangeWarnings file (range :: ranges) (s :: found) =
      (if s.paths.isEmpty then [emptyRangeWarning file range] else []) ++
        emptyRangeWarnings file ranges found := by
  unfold emptyRangeWarnings
  rw [List.zip_cons_cons, List.filter_cons]
  split_ifs <;> rfl

section
variable {rules : RuleSet} {through : List String} {file : SourceFile}
  {ranges : List ScanRange} {found : List Scan}

theorem readRanges_of_scans
    (h : List.Forall₂ (fun range s => Scan.ofRange rules through file range = .ok s) ranges found) :
    readRanges rules through file ranges =
      (emptyRangeWarnings file ranges found, .ok (.ofScans found)) := by
  induction h with
  | nil => rfl
  | cons hs hrest ih =>
    unfold readRanges
    rw [hs, ih, emptyRangeWarnings_cons]
    rfl

theorem readRanges_of_error {range : ScanRange} {e : FormatError}
    (h : List.Forall₂ (fun range s => Scan.ofRange rules through file range = .ok s) ranges found)
    (he : Scan.ofRange rules through file range = .error e) (after : List ScanRange) :
    readRanges rules through file (ranges ++ range :: after) =
      (emptyRangeWarnings file ranges found, .error e) := by
  induction h with
  | nil =>
    rw [List.nil_append, readRanges, he]
    rfl
  | cons hs hrest ih =>
    rw [List.cons_append, readRanges, hs, ih, emptyRangeWarnings_cons]
    rfl

end

section
variable {r : Report} {file : SourceFile} {ranges : List ScanRange} {found : List Scan}

theorem Scans.exists_scan (h : r.Scans file ranges found) {range : ScanRange}
    (hr : range ∈ ranges) : ∃ s, r.scan file range = .ok s := by
  induction h with
  | nil => cases hr
  | @cons range' s ranges found hs hrest ih =>
    rcases List.mem_cons.mp hr with rfl | hr
    · exact ⟨s, hs⟩
    · exact ih hr

/-- Ranges that can all be scanned are added. -/
theorem read_of_scans (h : r.Scans file ranges found) :
    r.read file ranges =
      { report := { r with
          paths := r.paths ++ found.flatMap (·.paths)
          options := r.options.union
            (optionsOf (header file) (Findings.ofScans found).columns) }
        warnings := emptyRangeWarnings file ranges found
        outcome := .ok (found.flatMap (·.paths)).length } := by
  have hread : readRanges r.rules (ReportHeader.ofLines ((file.linesFrom 1).map (·.2))).through
      file ranges = _ := readRanges_of_scans h
  unfold read
  dsimp only
  rw [hread, ← Findings.paths_ofScans]
  rfl

/-- Nothing is added if a range cannot be scanned. -/
theorem read_of_error {range : ScanRange} {e : FormatError} (h : r.Scans file ranges found)
    (he : r.scan file range = .error e) (after : List ScanRange) :
    r.read file (ranges ++ range :: after) =
      ⟨r, emptyRangeWarnings file ranges found, .error e⟩ := by
  have hread : readRanges r.rules (ReportHeader.ofLines ((file.linesFrom 1).map (·.2))).through
      file (ranges ++ range :: after) = _ := readRanges_of_error h he after
  unfold read
  dsimp only
  rw [hread]

theorem rules_read (r : Report) (file : SourceFile) (ranges : List ScanRange) :
    (r.read file ranges).report.rules = r.rules := by
  obtain ⟨found, h⟩ | ⟨before, range, after, found, e, rfl, h, he⟩ := r.scans_or_error file ranges
  · rw [read_of_scans h]
  · rw [read_of_error h he after]

theorem scans_read_iff (r : Report) (file : SourceFile) (ranges ranges' : List ScanRange)
    (found : List Scan) :
    (r.read file ranges).report.Scans file ranges' found ↔ r.Scans file ranges' found := by
  unfold Scans scan
  rw [rules_read]

theorem read_ok_iff : (∃ n, (r.read file ranges).outcome = .ok n) ↔
    ∃ found, r.Scans file ranges found := by
  constructor
  · rintro ⟨n, hn⟩
    obtain ⟨found, h⟩ | ⟨before, range, after, found, e, rfl, h, he⟩ :=
      r.scans_or_error file ranges
    · exact ⟨found, h⟩
    · rw [read_of_error h he after] at hn
      cases hn
  · rintro ⟨found, h⟩
    exact ⟨_, by rw [read_of_scans h]⟩

/-- A report shows an option: the command at its head asks for the style, or a line of a path in one
of the ranges announces the column. -/
def Shows (r : Report) (file : SourceFile) (ranges : List ScanRange) (o : ReportOption) : Prop :=
  (∃ style, styleAsked? file.lines = some style ∧ o = .style style) ∨
    ∃ range ∈ ranges, ∃ l, range.ReadsLine r.rules (header file).through file l ∧
      ∃ c, Announces l.2 c ∧ o = .column c

theorem optionsOf_contains_iff (head : ReportHeader) (columns : EnumSet Column) (o : ReportOption) :
    (optionsOf head columns).contains o = true ↔
      (∃ style, head.style = some style ∧ o = .style style) ∨
        ∃ c, columns.contains c = true ∧ o = .column c := by
  unfold optionsOf EnumSet.ofList
  rw [EnumSet.contains_filter, List.contains_iff_mem, List.mem_append]
  simp [EnumSet.contains, eq_comm]

theorem Scans.contains_columns (h : r.Scans file ranges found) (c : Column) :
    (Findings.ofScans found).columns.contains c = true ↔
      ∃ range ∈ ranges, ∃ s, r.scan file range = .ok s ∧ s.columns.contains c = true := by
  induction h with
  | nil => simp [Findings.ofScans]
  | cons hs hrest ih => simp [Findings.ofScans, ih, hs]

theorem Scans.contains_optionsOf (h : r.Scans file ranges found) (o : ReportOption) :
    (optionsOf (header file) (Findings.ofScans found).columns).contains o = true ↔
      r.Shows file ranges o := by
  rw [optionsOf_contains_iff, style_header]
  refine or_congr_right ⟨?_, ?_⟩
  · rintro ⟨c, hc, rfl⟩
    obtain ⟨range, hrange, s, hs, hc⟩ := (h.contains_columns c).mp hc
    obtain ⟨l, hl, hc⟩ := (Scan.contains_columns hs c).mp hc
    exact ⟨range, hrange, l, hl, c, hc, rfl⟩
  · rintro ⟨range, hrange, l, hl, c, hc, rfl⟩
    obtain ⟨s, hs⟩ := h.exists_scan hrange
    exact ⟨c, (h.contains_columns c).mpr
      ⟨range, hrange, s, hs, (Scan.contains_columns hs c).mpr ⟨l, hl, hc⟩⟩, rfl⟩

end

section
variable {r : Report} {file : SourceFile} {ranges₁ ranges₂ : List ScanRange}
  {found₁ found₂ : List Scan}

theorem Scans.append (h₁ : r.Scans file ranges₁ found₁) (h₂ : r.Scans file ranges₂ found₂) :
    r.Scans file (ranges₁ ++ ranges₂) (found₁ ++ found₂) := by
  induction h₁ with
  | nil => exact h₂
  | cons hs hrest ih => exact .cons hs ih

theorem Scans.of_append {found : List Scan} (h : r.Scans file (ranges₁ ++ ranges₂) found) :
    ∃ found₁ found₂, found = found₁ ++ found₂ ∧ r.Scans file ranges₁ found₁ ∧
      r.Scans file ranges₂ found₂ := by
  induction ranges₁ generalizing found with
  | nil => exact ⟨[], found, rfl, .nil, h⟩
  | cons range rest ih =>
    cases h with
    | cons hs hrest =>
      obtain ⟨found₁, found₂, rfl, h₁, h₂⟩ := ih hrest
      exact ⟨_ :: found₁, found₂, rfl, .cons hs h₁, h₂⟩

theorem emptyRangeWarnings_append (h : r.Scans file ranges₁ found₁) :
    emptyRangeWarnings file (ranges₁ ++ ranges₂) (found₁ ++ found₂) =
      emptyRangeWarnings file ranges₁ found₁ ++ emptyRangeWarnings file ranges₂ found₂ := by
  induction h with
  | nil => rfl
  | cons hs hrest ih =>
    rw [List.cons_append, List.cons_append, emptyRangeWarnings_cons, emptyRangeWarnings_cons, ih,
      List.append_assoc]

theorem shows_append (r : Report) (file : SourceFile) (ranges₁ ranges₂ : List ScanRange)
    (o : ReportOption) :
    r.Shows file (ranges₁ ++ ranges₂) o ↔ r.Shows file ranges₁ o ∨ r.Shows file ranges₂ o := by
  unfold Shows
  constructor
  · rintro (hstyle | ⟨range, hrange, hcolumn⟩)
    · exact .inl (.inl hstyle)
    · rcases List.mem_append.mp hrange with hrange | hrange
      · exact .inl (.inr ⟨range, hrange, hcolumn⟩)
      · exact .inr (.inr ⟨range, hrange, hcolumn⟩)
  · rintro ((hstyle | ⟨range, hrange, hcolumn⟩) | (hstyle | ⟨range, hrange, hcolumn⟩))
    · exact .inl hstyle
    · exact .inr ⟨range, List.mem_append_left ranges₂ hrange, hcolumn⟩
    · exact .inl hstyle
    · exact .inr ⟨range, List.mem_append_right ranges₁ hrange, hcolumn⟩

/-- What is read in one call could as well be read in two. -/
theorem read_append_of_scans (h₁ : r.Scans file ranges₁ found₁) (h₂ : r.Scans file ranges₂ found₂) :
    (r.read file (ranges₁ ++ ranges₂)).report =
        ((r.read file ranges₁).report.read file ranges₂).report ∧
      (r.read file (ranges₁ ++ ranges₂)).warnings = (r.read file ranges₁).warnings ++
        ((r.read file ranges₁).report.read file ranges₂).warnings := by
  have h₂' := (r.scans_read_iff file ranges₁ ranges₂ found₂).mpr h₂
  have hoptions : r.options.union
      (optionsOf (header file) (Findings.ofScans (found₁ ++ found₂)).columns) =
      (r.options.union (optionsOf (header file) (Findings.ofScans found₁).columns)).union
        (optionsOf (header file) (Findings.ofScans found₂).columns) := by
    -- The head shows its style in each of the calls, which adds nothing to the set.
    apply EnumSet.union_congr
    intro o
    rw [EnumSet.contains_union, Bool.eq_iff_iff]
    rw [Bool.or_eq_true, Bool.or_eq_true, Bool.or_eq_true, (h₁.append h₂).contains_optionsOf,
      h₁.contains_optionsOf, h₂.contains_optionsOf, shows_append, or_assoc]
  rw [read_of_scans (h₁.append h₂), read_of_scans h₂', read_of_scans h₁]
  dsimp only
  rw [hoptions, List.flatMap_append, List.append_assoc]
  exact ⟨rfl, emptyRangeWarnings_append h₁⟩

/-- One call reads all ranges exactly if two calls do. -/
theorem read_append_ok_iff (r : Report) (file : SourceFile) (ranges₁ ranges₂ : List ScanRange)
    (n : Nat) :
    (r.read file (ranges₁ ++ ranges₂)).outcome = .ok n ↔
      ∃ n₁ n₂, (r.read file ranges₁).outcome = .ok n₁ ∧
        ((r.read file ranges₁).report.read file ranges₂).outcome = .ok n₂ ∧ n = n₁ + n₂ := by
  constructor
  · intro hn
    obtain ⟨found, h⟩ := read_ok_iff.mp ⟨n, hn⟩
    obtain ⟨found₁, found₂, rfl, h₁, h₂⟩ := h.of_append
    have h₂' := (r.scans_read_iff file ranges₁ ranges₂ found₂).mpr h₂
    refine ⟨_, _, by rw [read_of_scans h₁], by rw [read_of_scans h₂'], ?_⟩
    rw [read_of_scans h] at hn
    cases hn
    rw [List.flatMap_append, List.length_append]
  · rintro ⟨n₁, n₂, hn₁, hn₂, rfl⟩
    obtain ⟨found₁, h₁⟩ := read_ok_iff.mp ⟨n₁, hn₁⟩
    obtain ⟨found₂, h₂'⟩ := read_ok_iff.mp ⟨n₂, hn₂⟩
    have h₂ := (r.scans_read_iff file ranges₁ ranges₂ found₂).mp h₂'
    rw [read_of_scans h₂'] at hn₂
    rw [read_of_scans h₁] at hn₁
    cases hn₁
    cases hn₂
    rw [read_of_scans (h₁.append h₂), List.flatMap_append, List.length_append]

end

theorem paths_prefix_read (r : Report) (file : SourceFile) (ranges : List ScanRange) :
    r.paths <+: (r.read file ranges).report.paths := by
  obtain ⟨found, h⟩ | ⟨before, range, after, found, e, rfl, h, he⟩ :=
    r.scans_or_error file ranges
  · rw [read_of_scans h]
    exact List.prefix_append _ _
  · have hpaths : (r.read file (before ++ range :: after)).report.paths = r.paths := by
      rw [read_of_error h he after]
    exact ⟨[], by rw [hpaths, List.append_nil]⟩

theorem load_of_error {sources : Sources} {disk : Disk} {path : String} {cause : FileError}
    (h : disk.readText path = .error cause) (r : Report) (ranges : List ScanRange) :
    r.load sources disk path ranges = ⟨r, sources, [], .error (.unreadable cause)⟩ := by
  unfold load Sources.load
  rw [h]
  rfl

theorem load_of_ok {sources : Sources} {disk : Disk} {path text : String}
    (h : disk.readText path = .ok text) (r : Report) (ranges : List ScanRange) :
    r.load sources disk path ranges =
      ⟨(r.read (sources.add path text).2 ranges).report, (sources.add path text).1,
        (r.read (sources.add path text).2 ranges).warnings,
        (r.read (sources.add path text).2 ranges).outcome.mapError .format⟩ := by
  unfold load Sources.load
  rw [h]
  rfl

theorem paths_prefix_load (r : Report) (sources : Sources) (disk : Disk) (path : String)
    (ranges : List ScanRange) : r.paths <+: (r.load sources disk path ranges).report.paths := by
  unfold load
  split
  · exact List.prefix_refl _
  · exact r.paths_prefix_read _ ranges

end Report

inductive ReadCall where
  | parse (file : SourceFile) (ranges : List ScanRange)
  | load (disk : Disk) (path : String) (ranges : List ScanRange)

structure Session where
  report : Report
  sources : Sources := {}

namespace Session

def step (s : Session) : ReadCall → Session
  | .parse file ranges => { s with report := (s.report.read file ranges).report }
  | .load disk path ranges =>
    let loading := s.report.load s.sources disk path ranges
    ⟨loading.report, loading.sources⟩

def run (s : Session) (calls : List ReadCall) : Session := calls.foldl step s

theorem paths_prefix_step (s : Session) (call : ReadCall) :
    s.report.paths <+: (s.step call).report.paths := by
  cases call with
  | parse file ranges => exact s.report.paths_prefix_read file ranges
  | load disk path ranges => exact s.report.paths_prefix_load s.sources disk path ranges

theorem paths_prefix_run (s : Session) (calls : List ReadCall) :
    s.report.paths <+: (s.run calls).report.paths := by
  induction calls generalizing s with
  | nil => exact List.prefix_refl _
  | cons call rest ih => exact (s.paths_prefix_step call).trans (ih (s.step call))

/-- A path keeps its index and its values. -/
theorem path_run {s : Session} {index : Nat} {p : TimingPath} (h : s.report.path index = .ok p)
    (calls : List ReadCall) : (s.run calls).report.path index = .ok p := by
  obtain ⟨later, hlater⟩ := s.paths_prefix_run calls
  unfold Report.path at h ⊢
  cases hp : s.report.paths[index]? with
  | none => simp [hp] at h
  | some q =>
    have hlt : index < s.report.paths.length := (List.getElem?_eq_some_iff.mp hp).1
    rw [← hlater, List.getElem?_append_left hlt, hp]
    rw [hp] at h
    exact h

end Session

/-- Reading ranges of a report adds what the ranges hold by themselves, or nothing. One call for all
ranges does the same as one call after another, and no call changes a path that was read before. A
file that cannot be read changes nothing at all. -/
theorem Report.read_atomic_and_additive (r : Report) (file : SourceFile)
    (ranges : List ScanRange) :
    ((∃ found, r.Scans file ranges found ∧
        (r.read file ranges).outcome = .ok (found.flatMap (·.paths)).length ∧
        (r.read file ranges).report.rules = r.rules ∧
        (r.read file ranges).report.paths = r.paths ++ found.flatMap (·.paths) ∧
        (r.read file ranges).report.options.Ordered ∧
        (∀ o, (r.read file ranges).report.options.contains o = true ↔
          r.options.contains o = true ∨ r.Shows file ranges o) ∧
        (r.read file ranges).warnings = emptyRangeWarnings file ranges found) ∨
      ∃ before range after found e, ranges = before ++ range :: after ∧
        r.Scans file before found ∧ r.scan file range = .error e ∧
        (r.read file ranges).outcome = .error e ∧ (r.read file ranges).report = r ∧
        (r.read file ranges).warnings = emptyRangeWarnings file before found) ∧
    (∀ ranges₁ ranges₂ n, (r.read file (ranges₁ ++ ranges₂)).outcome = .ok n ↔
      ∃ n₁ n₂, (r.read file ranges₁).outcome = .ok n₁ ∧
        ((r.read file ranges₁).report.read file ranges₂).outcome = .ok n₂ ∧ n = n₁ + n₂) ∧
    (∀ ranges₁ ranges₂ n, (r.read file (ranges₁ ++ ranges₂)).outcome = .ok n →
      (r.read file (ranges₁ ++ ranges₂)).report =
          ((r.read file ranges₁).report.read file ranges₂).report ∧
        (r.read file (ranges₁ ++ ranges₂)).warnings = (r.read file ranges₁).warnings ++
          ((r.read file ranges₁).report.read file ranges₂).warnings) ∧
    (∀ sources calls index p, r.path index = .ok p →
      ((⟨r, sources⟩ : Session).run calls).report.path index = .ok p) ∧
    ∀ sources disk path cause, disk.readText path = .error cause →
      r.load sources disk path ranges = ⟨r, sources, [], .error (.unreadable cause)⟩ := by
  refine ⟨?_, ?_, ?_, ?_, ?_⟩
  · obtain ⟨found, h⟩ | ⟨before, range, after, found, e, rfl, h, he⟩ :=
      r.scans_or_error file ranges
    · refine .inl ⟨found, h, ?_⟩
      rw [read_of_scans h]
      refine ⟨rfl, rfl, rfl, EnumSet.ordered_filter _, fun o => ?_, rfl⟩
      rw [EnumSet.contains_union, Bool.or_eq_true, h.contains_optionsOf]
    · refine .inr ⟨before, range, after, found, e, rfl, h, he, ?_⟩
      rw [read_of_error h he after]
      exact ⟨rfl, rfl, rfl⟩
  · exact r.read_append_ok_iff file
  · intro ranges₁ ranges₂ n hn
    obtain ⟨found, h⟩ := read_ok_iff.mp ⟨n, hn⟩
    obtain ⟨found₁, found₂, rfl, h₁, h₂⟩ := h.of_append
    exact read_append_of_scans h₁ h₂
  · intro sources calls index p hp
    exact Session.path_run hp calls
  · intro sources disk path cause hcause
    exact load_of_error hcause r ranges

/-- A report whose head asks for a style, with one path and a table of two columns. -/
def styledReport : SourceFile :=
  .ofText ⟨0⟩ "styled" ("report_timing -path_type full_clock\nStartpoint: a\nPoint Incr Path\n" ++
    "data arrival time 3\n")

theorem Report.read_atomic_and_additive_styledReport :
    ∃ found, ({ rules := {} } : Report).Scans styledReport [.whole, { start := 4 }] found ∧
      (found.flatMap (·.paths)).length = 1 ∧
      (({ rules := {} } : Report).read styledReport [.whole, { start := 4 }]).report.paths =
        found.flatMap (·.paths) ∧
      (({ rules := {} } : Report).read styledReport [.whole, { start := 4 }]).report.options.toList =
        [.style .fullClock, .column .incr, .column .path] ∧
      ({ rules := {} } : Report).Shows styledReport [.whole, { start := 4 }] (.column .incr) ∧
      (({ rules := {} } : Report).read styledReport [.whole, { start := 4 }]).warnings =
        [{ severity := .warning
           code := ⟨.report, 201⟩
           message := "no timing path found from line 4"
           location := ⟨⟨0⟩, 4⟩ }] ∧
      (({ rules := {} } : Report).read styledReport [.whole, { start := 4 }]).report =
        ((({ rules := {} } : Report).read styledReport [.whole]).report.read styledReport
          [{ start := 4 }]).report := by
  have hread : ((({ rules := {} } : Report).read styledReport
        [.whole, { start := 4 }]).outcome.toOption,
      (({ rules := {} } : Report).read styledReport
        [.whole, { start := 4 }]).report.options.toList,
      (({ rules := {} } : Report).read styledReport [.whole, { start := 4 }]).warnings) =
      (some 1, [.style .fullClock, .column .incr, .column .path],
        [{ severity := .warning
           code := ⟨.report, 201⟩
           message := "no timing path found from line 4"
           location := ⟨⟨0⟩, 4⟩ }]) := by
    rw [styledReport, SourceFile.ofText_append rfl rfl]
    decide +kernel
  obtain ⟨hcount, htail⟩ := Prod.mk.inj hread
  obtain ⟨hoptions, hwarnings⟩ := Prod.mk.inj htail
  obtain ⟨hparts, -, hadditive, -⟩ :=
    read_atomic_and_additive { rules := {} } styledReport [.whole, { start := 4 }]
  obtain ⟨found, h, houtcome, -, hpaths, -, hshown, -⟩ |
    ⟨_, _, _, _, _, -, -, -, herror, -⟩ := hparts
  · have hincr := (hshown (.column .incr)).mp (by rw [EnumSet.contains, hoptions]; rfl)
    rw [EnumSet.contains_empty] at hincr
    rw [houtcome] at hcount
    have hlength := Option.some.inj hcount
    refine ⟨found, h, hlength, hpaths, hoptions, hincr.resolve_left Bool.false_ne_true, hwarnings,
      ?_⟩
    exact (hadditive [.whole] [{ start := 4 }] _ houtcome).1
  · rw [herror] at hcount
    cases hcount

end PathTiming
