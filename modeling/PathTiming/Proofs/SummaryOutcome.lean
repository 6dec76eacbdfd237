import PathTiming.Proofs.ClockLatency
import PathTiming.Proofs.NetworkComparison
import PathTiming.Proofs.RunOutcome
import PathTiming.Proofs.SegmentPartition

/-! What comes of a summary. It is written block by block, and what is written before a failure stays
written; but on a path that was read nothing fails, and the networks of its clocks are compared
whenever they can be. -/
namespace PathTiming

/-- What came of writing: the lines that were written, and a result or a failure. A failure takes no
line back. -/
structure Written (α : Type) where
  lines : List String
  outcome : Except AnalysisError α

namespace Written

instance : Monad Written where
  pure a := ⟨[], .ok a⟩
  bind w k :=
    match w.outcome with
    | .ok a => ⟨w.lines ++ (k a).lines, (k a).outcome⟩
    | .error e => ⟨w.lines, .error e⟩

def write (lines : List String) : Written Unit := ⟨lines, .ok ()⟩

def ask {α : Type} (answer : Except AnalysisError α) : Written α := ⟨[], answer⟩

theorem write_bind {α : Type} (lines : List String) (k : Unit → Written α) :
    (write lines >>= k) = ⟨lines ++ (k ()).lines, (k ()).outcome⟩ := rfl

theorem write_bind_pure {α : Type} (lines : List String) (a : α) :
    (write lines >>= fun _ => pure a) = ⟨lines, .ok a⟩ := by
  show (⟨lines ++ [], .ok a⟩ : Written α) = ⟨lines, .ok a⟩
  rw [List.append_nil]

theorem bind_of_ok {α β : Type} {w : Written α} {lines : List String} {a : α}
    (h : w = ⟨lines, .ok a⟩) (k : α → Written β) :
    (w >>= k) = ⟨lines ++ (k a).lines, (k a).outcome⟩ := by
  rw [h]
  rfl

theorem ask_ok_bind {α β : Type} (a : α) (k : α → Written β) : (ask (.ok a) >>= k) = k a := rfl

end Written

namespace Report
open Written (write ask)

def skippedLine (part : String) : String :=
  Summary.label "clock path check:" ++ s!" skipped (no {part})"

/-- Writes the result of the clock check, if it is asked for, behind what is shown already. -/
def writeCheck (r : Report) (index : Nat) (path : TimingPath) (checked traced : Bool) :
    Written (Option ClockCheck) := do
  if checked && path.maxDelay.isNone then
    write (if r.rules.toggle .clockSkewOnReport then [Summary.thinRule] else [])
    match r.clockCheck index traced with
    | .ok check =>
      write (Summary.checkLines path check)
      return some check
    | .error e =>
      match e.missing? with
      | some part =>
        write [skippedLine part]
        return none
      | none => ask (.error e)
  else return none

def writeClock (r : Report) (index : Nat) (path : TimingPath) (checked traced : Bool) :
    Written (Option ClockCheck) := do
  let shown := r.rules.toggle .clockSkewOnReport
  let asked := checked && path.maxDelay.isNone
  write (Summary.skewLines r.rules path)
  let check ← r.writeCheck index path checked traced
  write (path.maxDelay.map (Summary.field "max delay:")).toList
  write (if shown || asked || path.maxDelay.isSome then [Summary.rule] else [])
  return check

/-- Writes the segment block, if it is asked for. The segments are asked of the report once more. -/
def writeSegments (r : Report) (o : SummaryOptions) (index : Nat) (path : TimingPath) :
    Written Unit := do
  if o.segments || r.rules.toggle .pathSegmentEnable then
    if !r.rules.pathClasses.isEmpty then
      let _ ← ask (r.segments index)
    write (Summary.segments r path)

def writeSummary (r : Report) (o : SummaryOptions) (index : Nat) :
    Written (Option ClockCheck) := do
  let path ← ask (r.path index)
  write (Summary.banner r.rules path)
  write (Summary.slack r.rules path)
  let check ← r.writeClock index path (o.clockCheck || r.rules.toggle .clockCheckEnable) o.trace
  write (if o.deltaSum || r.rules.toggle .deltaSumEnable then Summary.delta r path else [])
  r.writeSegments o index path
  write [""]
  return check

/-- The first part of a path that the check of its clock networks needs and does not find. -/
def missingPart? (p : TimingPath) : Option String :=
  if p.clockPinAt.isNone then some "launch clock pin"
  else if p.capturePins.isEmpty then some "capture clock path"
  else none

def clockBlock (rules : RuleSet) (p : TimingPath) (lines : List String) : List String :=
  let shown := rules.toggle .clockSkewOnReport
  Summary.skewLines rules p ++ (if shown && !lines.isEmpty then [Summary.thinRule] else []) ++
    lines ++ (p.maxDelay.map (Summary.field "max delay:")).toList ++
    if shown || !lines.isEmpty || p.maxDelay.isSome then [Summary.rule] else []

section
variable {r : Report} {index : Nat} {p : TimingPath} {checked traced : Bool}

/-- Lines of the check of a path, and its result: none if it is not asked for or a part of the path
is missing. -/
inductive CheckOutcome (r : Report) (index : Nat) (p : TimingPath) (checked traced : Bool) :
    List String → Option ClockCheck → Prop
  | notAsked (ha : (checked && p.maxDelay.isNone) = false) :
      CheckOutcome r index p checked traced [] none
  | skipped {part : String} (ha : (checked && p.maxDelay.isNone) = true)
      (hm : missingPart? p = some part) :
      CheckOutcome r index p checked traced [skippedLine part] none
  | made {check : ClockCheck} (ha : (checked && p.maxDelay.isNone) = true)
      (hm : missingPart? p = none) (hc : r.clockCheck index traced = .ok check) :
      CheckOutcome r index p checked traced (Summary.checkLines p check) (some check)

theorem CheckOutcome.isEmpty {lines : List String} {check : Option ClockCheck}
    (h : CheckOutcome r index p checked traced lines check) :
    lines.isEmpty = !(checked && p.maxDelay.isNone) := by
  cases h with
  | notAsked ha => rw [ha]; rfl
  | skipped ha hm => rw [ha]; rfl
  | made ha hm hc => rw [ha]; rfl

theorem exists_checkOutcome (hp : r.paths[index]? = some p) (checked traced : Bool) :
    ∃ lines check, CheckOutcome r index p checked traced lines check := by
  have hcheck := clockCheck_eq hp traced
  cases ha : checked && p.maxDelay.isNone with
  | false => exact ⟨_, _, .notAsked ha⟩
  | true =>
    cases hm : missingPart? p with
    | some part => exact ⟨_, _, .skipped ha hm⟩
    | none =>
      unfold missingPart? at hm
      split_ifs at hm with hlaunch hcapture
      rw [if_neg hlaunch, if_neg hcapture] at hcheck
      refine ⟨_, _, .made ha ?_ hcheck⟩
      rw [missingPart?, if_neg hlaunch, if_neg hcapture]

/-- Where a part is missing, the check fails for want of it. -/
theorem missing_of_clockCheck (hp : r.paths[index]? = some p) {part : String}
    (hm : missingPart? p = some part) (traced : Bool) :
    ∃ e, r.clockCheck index traced = .error e ∧ e.missing? = some part := by
  rw [clockCheck_eq hp]
  unfold missingPart? at hm
  split_ifs at hm ⊢ with hlaunch hcapture
  · cases hm
    exact ⟨_, rfl, rfl⟩
  · cases hm
    exact ⟨_, rfl, rfl⟩

theorem isEmpty_skewLines (rules : RuleSet) (p : TimingPath) :
    (Summary.skewLines rules p).isEmpty = !rules.toggle .clockSkewOnReport := by
  unfold Summary.skewLines
  cases rules.toggle .clockSkewOnReport with
  | false => rfl
  | true => cases p.maxDelay <;> rfl

/-- The block is closed by a rule unless it is empty. -/
theorem clockBlock_eq (rules : RuleSet) (p : TimingPath) (lines : List String) :
    clockBlock rules p lines =
      let skew := Summary.skewLines rules p
      let block := skew ++ (if skew.isEmpty || lines.isEmpty then [] else [Summary.thinRule]) ++
        lines ++ (p.maxDelay.map (Summary.field "max delay:")).toList
      if block.isEmpty then [] else block ++ [Summary.rule] := by
  have hskew := isEmpty_skewLines rules p
  unfold clockBlock
  dsimp only
  -- the thin rule and the last one are told by the switch there, and by what is empty here
  cases hs : Summary.skewLines rules p with
  | nil =>
    rw [hs, List.isEmpty_nil, eq_comm, Bool.not_eq_true'] at hskew
    rw [hskew]
    cases lines <;> cases p.maxDelay <;> rfl
  | cons line rest =>
    rw [hs, List.isEmpty_cons, eq_comm, Bool.not_eq_false'] at hskew
    rw [hskew]
    cases lines <;> simp

theorem clock_eq (hp : r.paths[index]? = some p) {lines : List String}
    {check : Option ClockCheck} (h : CheckOutcome r index p checked traced lines check) :
    Summary.clock r index p checked traced = .ok (clockBlock r.rules p lines, check) := by
  rw [clockBlock_eq]
  unfold Summary.clock
  cases h with
  | notAsked ha =>
    rw [ha]
    rfl
  | skipped ha hm =>
    obtain ⟨e, he, hpart⟩ := missing_of_clockCheck hp hm traced
    rw [ha, if_pos rfl, he, Summary.checkResult, hpart]
    rfl
  | made ha hm hc =>
    rw [ha, if_pos rfl, hc]
    rfl

theorem writeCheck_eq (hp : r.paths[index]? = some p) {lines : List String}
    {check : Option ClockCheck} (h : CheckOutcome r index p checked traced lines check) :
    r.writeCheck index p checked traced =
      ⟨(if r.rules.toggle .clockSkewOnReport && !lines.isEmpty then [Summary.thinRule] else []) ++
        lines, .ok check⟩ := by
  rw [h.isEmpty, Bool.not_not, writeCheck]
  cases h with
  | notAsked ha =>
    rw [ha, Bool.and_false]
    rfl
  | skipped ha hm =>
    obtain ⟨e, he, hpart⟩ := missing_of_clockCheck hp hm traced
    rw [ha, if_pos rfl, Written.write_bind, Bool.and_true, he]
    dsimp only
    rw [hpart]
    rfl
  | made ha hm hc =>
    rw [ha, if_pos rfl, Written.write_bind, Bool.and_true, hc]
    dsimp only
    rw [Written.write_bind_pure]

/-- The clock block is written as it stands in the summary. -/
theorem writeClock_eq (hp : r.paths[index]? = some p) {lines : List String}
    {check : Option ClockCheck} (h : CheckOutcome r index p checked traced lines check) :
    r.writeClock index p checked traced = ⟨clockBlock r.rules p lines, .ok check⟩ := by
  unfold writeClock
  dsimp only
  rw [Written.write_bind, Written.bind_of_ok (writeCheck_eq hp h), Written.write_bind,
    Written.write_bind_pure]
  dsimp only
  rw [clockBlock, h.isEmpty, Bool.not_not]
  simp only [List.append_assoc]

theorem writeSegments_eq (hp : r.paths[index]? = some p) (o : SummaryOptions) :
    r.writeSegments o index p =
      ⟨if o.segments || r.rules.toggle .pathSegmentEnable then Summary.segments r p else [],
        .ok ()⟩ := by
  have hsegments : r.segments index = .ok (.ofPath p r.rules) := by
    rw [segments, path_eq_ok hp]
    rfl
  unfold writeSegments
  rw [hsegments]
  split_ifs <;> rfl

/-- The lines of the summary of a path around those of the check. -/
def summaryLines (r : Report) (o : SummaryOptions) (p : TimingPath) (lines : List String) :
    List String :=
  Summary.banner r.rules p ++ Summary.slack r.rules p ++ clockBlock r.rules p lines ++
    (if o.deltaSum || r.rules.toggle .deltaSumEnable then Summary.delta r p else []) ++
    (if o.segments || r.rules.toggle .pathSegmentEnable then Summary.segments r p else []) ++ [""]

theorem summary_eq (hp : r.paths[index]? = some p) {o : SummaryOptions} {lines : List String}
    {check : Option ClockCheck}
    (h : CheckOutcome r index p (o.clockCheck || r.rules.toggle .clockCheckEnable) o.trace lines
      check) :
    r.summary o index = .ok ⟨r.summaryLines o p lines, check⟩ := by
  unfold summary
  rw [path_eq_ok hp]
  dsimp only [bind, Except.bind]
  rw [clock_eq hp h]
  rfl

/-- What is written of a summary is all of it. -/
theorem writeSummary_eq (hp : r.paths[index]? = some p) {o : SummaryOptions} {lines : List String}
    {check : Option ClockCheck}
    (h : CheckOutcome r index p (o.clockCheck || r.rules.toggle .clockCheckEnable) o.trace lines
      check) :
    r.writeSummary o index = ⟨r.summaryLines o p lines, .ok check⟩ := by
  unfold writeSummary
  rw [path_eq_ok hp, Written.ask_ok_bind, Written.write_bind, Written.write_bind,
    Written.bind_of_ok (writeClock_eq hp h), Written.write_bind,
    Written.bind_of_ok (writeSegments_eq hp o), Written.write_bind_pure]
  dsimp only
  rw [summaryLines]
  simp only [List.append_assoc]

/-- Nothing is written of a path that does not exist. -/
theorem summary_of_length_le (h : r.paths.length ≤ index) (o : SummaryOptions) :
    r.summary o index = .error (.noSuchPath index r.paths.length) ∧
      r.writeSummary o index = ⟨[], .error (.noSuchPath index r.paths.length)⟩ := by
  have hpath : r.path index = .error (.noSuchPath index r.paths.length) := by
    rw [path, List.getElem?_eq_none h]
  constructor
  · rw [summary, hpath]
    rfl
  · rw [writeSummary, hpath]
    rfl

end

/-! ### The line of a check that was skipped -/

def isSkippedLine (line : String) : Bool :=
  (Summary.label "clock path check:").toList.isPrefixOf line.toList

theorem isSkippedLine_field {name : String} (x : Float)
    (hlength : (Summary.label "clock path check:").toList.length ≤
      (Summary.label name).toList.length)
    (h : isSkippedLine (Summary.label name) = false) :
    isSkippedLine (Summary.field name x) = false := by
  rw [isSkippedLine, Bool.eq_false_iff, ne_eq, List.isPrefixOf_iff_prefix] at h ⊢
  intro hprefix
  rw [Summary.field, String.toList_append] at hprefix
  exact h (List.prefix_of_prefix_length_le hprefix (List.prefix_append _ _) hlength)

theorem isSkippedLine_skewLines (rules : RuleSet) (p : TimingPath) :
    ∀ line ∈ Summary.skewLines rules p, isSkippedLine line = false := by
  have hnames : ∀ name ∈ ["launch clock edge value:", "capture clock edge value:",
      "launch clock latency:", "capture clock latency:", "crpr:", "clock skew:"],
      (Summary.label "clock path check:").toList.length ≤ (Summary.label name).toList.length ∧
        isSkippedLine (Summary.label name) = false := by
    decide +kernel
  have hfield : ∀ name ∈ ["launch clock edge value:", "capture clock edge value:",
      "launch clock latency:", "capture clock latency:", "crpr:", "clock skew:"], ∀ x,
      isSkippedLine (Summary.field name x) = false := fun name hname x =>
    isSkippedLine_field x (hnames name hname).1 (hnames name hname).2
  intro line hline
  unfold Summary.skewLines at hline
  split_ifs at hline
  · cases hline
  · rw [List.mem_singleton.mp hline]
    exact hfield _ (by simp) _
  · simp only [List.mem_cons, List.not_mem_nil, or_false] at hline
    rcases hline with rfl | rfl | rfl | rfl | rfl | rfl <;> exact hfield _ (by simp) _

theorem countP_isSkippedLine {rules : RuleSet} {p : TimingPath} (hlimit : p.maxDelay = none)
    (part : String) : (clockBlock rules p [skippedLine part]).countP isSkippedLine = 1 := by
  have hskipped : isSkippedLine (skippedLine part) = true := by
    rw [isSkippedLine, List.isPrefixOf_iff_prefix, skippedLine, String.toList_append]
    exact List.prefix_append _ _
  have hskew : (Summary.skewLines rules p).countP isSkippedLine = 0 := by
    rw [List.countP_eq_zero]
    intro line hline
    rw [isSkippedLine_skewLines rules p line hline]
    exact Bool.false_ne_true
  have hrule : isSkippedLine Summary.rule = false := by decide +kernel
  have hthin : isSkippedLine Summary.thinRule = false := by decide +kernel
  rw [clockBlock, hlimit]
  cases rules.toggle .clockSkewOnReport <;> simp [hskew, hskipped, hrule, hthin]

end Report

/-! ### Rows of a limit -/

namespace Block

section
variable {rules : RuleSet} {b b' : Block} {l : Nat × String} {atEnd : Bool}

theorem Step.maxDelay_of_not_labelled {line : Nat} {text : List Char}
    (h : Step rules line text b b' atEnd)
    (hlabel : ∀ kind rest, Row.ofText? (Text.trim text) ≠ some (.labelled kind rest)) :
    b'.path.maxDelay = b.path.maxDelay := by
  cases h with
  | skip => rfl
  | heading hs hb =>
    obtain ⟨_, _, _, _, _, _, he⟩ := readHeading?_eq hb
    rw [he]
  | tableHeader ht => rfl
  | clockEdge hs hr ht =>
    unfold readClockEdge
    split_ifs <;> rfl
  | labelled hs hr hb => exact absurd hr (hlabel _ _)
  | pinRow hs hr hrow hb =>
    obtain ⟨_, _, _, _, _, _, _, _, _, _, _, he⟩ := hb.eq
    rw [he]
    rfl
  | slack hs hr ht => rfl

/-- A line of a table gives a path a limit just when it is labelled as the row of one. -/
theorem isSome_maxDelay_of_feed (hs : b.InTable)
    (hf : b.feed rules l.1 l.2.toList = .ok (b', atEnd)) :
    b'.path.maxDelay.isSome = (b.path.maxDelay.isSome || isLabelled .constraint l) := by
  by_cases hlabel : ∃ kind rest, Row.ofText? (Text.trim l.2.toList) = some (.labelled kind rest)
  · obtain ⟨kind, rest, hrow⟩ := hlabel
    rw [(labels_of_row hrow).2.1 .constraint]
    cases labelledStep_of_feed hs hrow hf <;> simp
  · have hno : isLabelled .constraint l = false := by
      rw [Bool.eq_false_iff, ne_eq, isLabelled_iff]
      rintro ⟨rest, hrow⟩
      exact hlabel ⟨_, rest, hrow⟩
    rw [hno, Bool.or_false, (feed_step hf).maxDelay_of_not_labelled]
    intro kind rest hrow
    exact hlabel ⟨kind, rest, hrow⟩

theorem isSome_maxDelay_tableLaw (rules : RuleSet) :
    TableLaw rules (fun b => b.path.maxDelay.isSome) (fun s l => s || isLabelled .constraint l)
      (fun s l => s || isLabelled .constraint l) := by
  have hother : ∀ {kind l}, isLabelled kind l = true → kind ≠ .constraint →
      isLabelled .constraint l = false := by
    intro kind l hl hne
    obtain ⟨rest, hrow⟩ := isLabelled_iff.mp hl
    rw [(labels_of_row hrow).2.1 .constraint]
    exact decide_eq_false hne
  constructor
  · exact fun b => rfl
  · intro b b' l atEnd hs ho hf
    obtain ⟨-, rfl | hheading⟩ := header_cases_of_feed hs ho hf
    · rfl
    · obtain ⟨_, _, _, _, _, _, he⟩ := readHeading?_eq hheading
      rw [he]
  · exact fun hs hf => isSome_maxDelay_of_feed (.inl hs) hf
  · exact fun hs hf => isSome_maxDelay_of_feed (.inr hs) hf
  · intro b b' l atEnd hs hf
    obtain ⟨layout, slack, rfl⟩ := eq_of_summary hs hf
    rfl
  · intro s l hl
    rw [hother hl (by decide), Bool.or_false]
  · intro s l hl
    rw [hl.elim (hother · (by decide)) (hother · (by decide)), Bool.or_false]

end

end Block

def BlockText.rows (t : BlockText) : List (Nat × String) :=
  launchTable t.tables ++ captureTable t.tables

theorem foldl_or_isLabelled (kind : RowKind) (s : Bool) (lines : List (Nat × String)) :
    lines.foldl (fun s l => s || isLabelled kind l) s = (s || lines.any (isLabelled kind)) := by
  induction lines generalizing s with
  | nil => rw [List.foldl_nil, List.any_nil, Bool.or_false]
  | cons l lines ih => rw [List.foldl_cons, ih, List.any_cons, Bool.or_assoc]

/-- A path has a limit just when a row of its tables gives one. -/
theorem BlockText.isSome_maxDelay_of_read {rules : RuleSet} {t : BlockText} {r : BlockReading}
    (h : t.read rules = .ok r) :
    r.block.path.maxDelay.isSome = t.rows.any (isLabelled .constraint) := by
  have hview := (Block.isSome_maxDelay_tableLaw rules).view_of_read h
  rw [foldl_or_isLabelled, foldl_or_isLabelled] at hview
  rw [hview, rows, List.any_append]
  rfl

def TimingPath.ReadFrom (p : TimingPath) (t : BlockText) : Prop :=
  ∃ rules reading through, t.read rules = .ok reading ∧ p = reading.block.finish through

theorem TimingPath.IsParsed.exists_readFrom {p : TimingPath} (h : p.IsParsed) :
    ∃ t, p.ReadFrom t := by
  obtain ⟨r, file, ranges, hp⟩ := h
  obtain ⟨range, -, t, -, reading, hread, hpath⟩ := Report.exists_block_of_mem_read hp
  exact ⟨t, r.rules, reading, _, hread, hpath⟩

theorem TimingPath.ReadFrom.maxDelay_eq_none_iff {p : TimingPath} {t : BlockText}
    (h : p.ReadFrom t) : p.maxDelay = none ↔ ∀ l ∈ t.rows, isLabelled .constraint l = false := by
  obtain ⟨rules, reading, through, hread, rfl⟩ := h
  rw [Block.finish_eq, ← Option.isSome_eq_false_iff.trans Option.isNone_iff_eq_none,
    BlockText.isSome_maxDelay_of_read hread, List.any_eq_false]
  simp only [Bool.not_eq_true]

/-- Where the networks are the same as far as both go, the source passes. -/
theorem Summary.sourceDetail_ofNetworks (launch capture : List Pin) (rules : RuleSet)
    (traced : Bool) :
    sourceDetail (ClockCheck.ofNetworks launch capture rules traced).source ≠
      "(no common source)" := by
  obtain ⟨hverdict, hmismatch, -⟩ | ⟨-, hmismatch, -⟩ :=
    ClockCheck.verdict_ofNetworks launch capture rules traced
  · rw [sourceDetail, hmismatch]
    dsimp only
    rw [if_pos hverdict]
    decide
  · rw [sourceDetail, hmismatch]
    intro h
    have hsecond := congrArg (fun s => s.toList[1]?) h
    simp [toString] at hsecond

namespace Report

section
variable {r : Report} {o : SummaryOptions} {index : Nat} {p : TimingPath}

theorem missingPart?_eq_none_iff :
    missingPart? p = none ↔ p.clockPinAt.isSome = true ∧ p.capturePins ≠ [] := by
  unfold missingPart?
  cases p.clockPinAt <;> cases p.capturePins <;> simp

/-- A check that is made compares both networks. -/
theorem CheckOutcome.isSome_iff {checked traced : Bool} {lines : List String}
    {check : Option ClockCheck} (h : CheckOutcome r index p checked traced lines check) :
    check.isSome = true ↔ checked = true ∧ p.maxDelay = none ∧ p.clockPinAt.isSome = true ∧
      p.capturePins ≠ [] := by
  rw [← missingPart?_eq_none_iff, ← Option.isNone_iff_eq_none, ← and_assoc, ← Bool.and_eq_true]
  cases h with
  | notAsked ha => simp [ha]
  | skipped ha hm => simp [hm]
  | made ha hm hc => simp [ha, hm]

end

end Report

/-- The summary of a path that was read never fails, whatever is asked for, and no place that it looks
up lies outside the path. The clock networks are compared if that is asked for, the path has no row
of a limit, and both networks have their pins. If only pins are missing, one line says which. Of a
path that does not exist nothing is written. -/
theorem Session.summary_outcome (rules : RuleSet) (sources : Sources) (calls : List ReadCall)
    (o : SummaryOptions) (index : Nat) :
    let r := ((⟨{ rules }, sources⟩ : Session).run calls).report
    let checked := o.clockCheck || r.rules.toggle .clockCheckEnable
    (r.paths.length ≤ index →
      r.summary o index = .error (.noSuchPath index r.paths.length) ∧
        r.writeSummary o index = ⟨[], .error (.noSuchPath index r.paths.length)⟩) ∧
    ∀ p, r.paths[index]? = some p →
      (∃ t, p.ReadFrom t) ∧
      (∀ t, p.ReadFrom t →
        (p.maxDelay = none ↔ ∀ l ∈ t.rows, isLabelled .constraint l = false)) ∧
      p.InBounds ∧
      (∀ pins ∈ [p.dataPins, p.launchClockPins, p.capturePins],
        ∀ run ∈ segmentRuns pins r.rules.pathClasses r.rules.defaultClass,
          run.start < run.stop ∧ run.stop ≤ pins.length) ∧
      ∃ s, r.summary o index = .ok s ∧ r.writeSummary o index = ⟨s.lines, .ok s.check⟩ ∧
        (s.check.isSome = true ↔ checked = true ∧ p.maxDelay = none ∧
          p.clockPinAt.isSome = true ∧ p.capturePins ≠ []) ∧
        (∀ check, s.check = some check → r.clockCheck index o.trace = .ok check ∧
          check.fork.level ≤ min p.launchClockPins.length p.capturePins.length ∧
          Summary.sourceDetail check.source ≠ "(no common source)") ∧
        (checked = true → p.maxDelay = none → ∀ part, Report.missingPart? p = some part →
          s.lines = r.summaryLines o p [Report.skippedLine part] ∧
          (Report.clockBlock r.rules p [Report.skippedLine part]).countP
            Report.isSkippedLine = 1) := by
  intro r checked
  refine ⟨fun hindex => Report.summary_of_length_le hindex o, fun p hp => ?_⟩
  have hparsed : p.IsParsed := isParsed_of_mem_run (List.mem_of_getElem? hp)
  obtain ⟨file, hplaced⟩ := hparsed.wellPlaced
  obtain ⟨lines, check, houtcome⟩ := Report.exists_checkOutcome hp checked o.trace
  refine ⟨hparsed.exists_readFrom, fun t ht => ht.maxDelay_eq_none_iff, hplaced.inBounds, ?_,
    ⟨r.summaryLines o p lines, check⟩, Report.summary_eq hp houtcome,
    Report.writeSummary_eq hp houtcome, houtcome.isSome_iff, ?_, ?_⟩
  · intro pins _ run hrun
    obtain ⟨-, hlt, hle⟩ := (divides_segmentRuns pins _ _).bounds run hrun
    rw [length_stickyTags_names, Nat.zero_add] at hle
    exact ⟨hlt, hle⟩
  · intro check' hcheck
    cases houtcome with
    | notAsked ha => cases hcheck
    | skipped ha hm => cases hcheck
    | made ha hm hc =>
      cases hcheck
      have hpins := Report.missingPart?_eq_none_iff.mp hm
      have hmade := Report.clockCheck_eq hp o.trace
      rw [hc, if_neg (by simpa [Option.isSome_iff_ne_none] using hpins.1),
        if_neg (by simpa using hpins.2)] at hmade
      cases hmade
      exact ⟨hc, ClockCheck.sharedLength_le _ _, Summary.sourceDetail_ofNetworks _ _ _ _⟩
  · intro hasked hlimit part hpart
    cases houtcome with
    | notAsked ha => simp [hasked, hlimit] at ha
    | skipped ha hm =>
      rw [hm] at hpart
      cases hpart
      exact ⟨rfl, Report.countP_isSkippedLine hlimit part⟩
    | made ha hm hc =>
      rw [hm] at hpart
      cases hpart

/-- A report with a path that has both clock networks, and one without a capture clock. -/
def bareCapture : SourceFile :=
  .ofText ⟨0⟩ "bare_capture" ("Startpoint: a\na/C (D) 1\ndata arrival time 1\na/C (D) 1\n" ++
    "Startpoint: b\nb/C (D) 1\ndata arrival time 1\n")

theorem Session.summary_outcome_bareCapture :
    ∃ r, r = ((⟨{ rules := {} }, {}⟩ : Session).run [.parse bareCapture [.whole]]).report ∧
      (∃ s, r.summary { clockCheck := true } 0 = .ok s ∧ s.check.isSome = true) ∧
      (∃ s p, r.summary { clockCheck := true } 1 = .ok s ∧ s.check.isSome = false ∧
        s.lines = r.summaryLines { clockCheck := true } p
          [Report.skippedLine "capture clock path"]) ∧
      r.writeSummary { clockCheck := true } 2 = ⟨[], .error (.noSuchPath 2 2)⟩ := by
  generalize hr : ((⟨{ rules := {} }, {}⟩ : Session).run [.parse bareCapture [.whole]]).report = r
  have hpaths : r.paths.map (fun p => (p.maxDelay.isNone, p.clockPinAt, p.capturePins.length)) =
      [(true, some 0, 1), (true, some 0, 0)] := by
    rw [← hr, bareCapture, SourceFile.ofText_append rfl rfl]
    decide +kernel
  obtain ⟨p, q, hpq⟩ : ∃ p q, r.paths = [p, q] :=
    List.length_eq_two.mp (by simpa using congrArg List.length hpaths)
  rw [hpq] at hpaths
  obtain ⟨⟨hplimit, hpat, hpcapture⟩, hqlimit, hqat, hqcapture⟩ :
      (p.maxDelay = none ∧ p.clockPinAt = some 0 ∧ p.capturePins.length = 1) ∧
        q.maxDelay = none ∧ q.clockPinAt = some 0 ∧ q.capturePins = [] := by
    simpa using hpaths
  have houtcome := fun index => summary_outcome {} {} [.parse bareCapture [.whole]]
    { clockCheck := true } index
  rw [hr] at houtcome
  refine ⟨r, rfl, ?_, ?_, ?_⟩
  · obtain ⟨-, -, -, -, s, hs, -, hmade, -⟩ := (houtcome 0).2 p (by rw [hpq]; rfl)
    refine ⟨s, hs, hmade.mpr ⟨rfl, hplimit, by rw [hpat]; rfl, ?_⟩⟩
    exact List.ne_nil_of_length_pos (by omega)
  · obtain ⟨-, -, -, -, s, hs, -, hmade, -, hskipped⟩ := (houtcome 1).2 q (by rw [hpq]; rfl)
    refine ⟨s, q, hs, ?_, (hskipped rfl hqlimit _ ?_).1⟩
    · rw [Bool.eq_false_iff, ne_eq, hmade]
      exact fun h => h.2.2.2 hqcapture
    · rw [Report.missingPart?, hqat, hqcapture]
      rfl
  · have hnone := ((houtcome 2).1 (by rw [hpq]; rfl)).2
    rw [hnone, hpq]
    rfl

end PathTiming
