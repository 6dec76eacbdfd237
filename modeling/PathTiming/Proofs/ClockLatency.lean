import PathTiming.Proofs.PinConservation

/-! The latencies of the clocks of a path. On each side the last row of the clock network tells how
far the clock has come, and the latency is counted from the clock edge. -/
namespace PathTiming

def lastValue? (line : Nat) (rest : List Char) : Option Float :=
  (rowValues line rest).toOption.bind (·.getLast?)

/-- The time of a row of a table, which is its last number. -/
def rowTime? (l : Nat × String) : Option Float :=
  match Row.ofText? (Text.trim l.2.toList) with
  | some (.labelled _ rest) => lastValue? l.1 rest
  | some (.clockEdge _ _ rest) => lastValue? l.1 rest
  | none => (tableRow? l.1 l.2.toList).bind fun row => row.values.getLast?.map (·.value)

def isClockEdge (l : Nat × String) : Bool :=
  match Row.ofText? (Text.trim l.2.toList) with
  | some (.clockEdge ..) => true
  | _ => false

/-- Whether a row of the launch table tells how far the launch clock has come. -/
def advancesLaunch (l : Nat × String) : Bool :=
  isClockEdge l || isLabelled .sourceLatency l || isLabelled .networkDelay l

/-- Whether a row of the capture table tells how far the capture clock has come. Behind the
pessimism, the clock network does not count. -/
def advancesCapture (crprSeen : Bool) (l : Nat × String) : Bool :=
  isClockEdge l || isLabelled .sourceLatency l ||
    !crprSeen && (isLabelled .networkDelay l || (pinRow? l).isSome)

/-- Whether a line is the row of a pin that is taken for the header of a table. -/
def isLost (l : Nat × String) : Bool := (pinRow? l).any (!isKept ·)

namespace BlockText

/-- Whether the pessimism stands in the tables of a block before a line. -/
def crprBefore (t : BlockText) (line : Nat) : Bool :=
  t.tables.any fun l => isLabelled .crpr l && l.1 < line

/-- The rows that tell how far the launch clock has come. -/
def launchClockRows (t : BlockText) : List (Nat × String) :=
  (launchTable t.tables).filter advancesLaunch

/-- The rows that tell how far the capture clock has come. -/
def captureClockRows (t : BlockText) : List (Nat × String) :=
  (captureTable t.tables).filter fun l => advancesCapture (t.crprBefore l.1) l

end BlockText

/-- The time of the last row, or that of the clock edge without any row. -/
def IsLastTime (rows : List (Nat × String)) (edgeTime time : Float) : Prop :=
  match rows.getLast? with
  | none => time = edgeTime
  | some l => rowTime? l = some time

/-- The latency of a clock is the time of the last row, counted from the clock edge. -/
def ClockSide.TimedBy (side : ClockSide) (rows : List (Nat × String)) : Prop :=
  ∃ time, IsLastTime rows side.edgeTime time ∧ side.latency = time - side.edgeTime

/-- What the rows of the tables have told of the clocks. Of each clock it is the time of the last
row, if there was a row; this would be no time if the row had none. -/
structure ClockTimes where
  launch : Option (Option Float)
  capture : Option (Option Float)
  crprSeen : Bool

namespace ClockTimes

def afterLaunchRow (s : ClockTimes) (l : Nat × String) : ClockTimes :=
  { s with
    launch := if advancesLaunch l then some (rowTime? l) else s.launch
    crprSeen := s.crprSeen || isLabelled .crpr l }

def afterCaptureRow (s : ClockTimes) (l : Nat × String) : ClockTimes :=
  { s with
    capture := if !isLost l && advancesCapture s.crprSeen l then some (rowTime? l) else s.capture
    crprSeen := s.crprSeen || isLabelled .crpr l }

end ClockTimes

theorem lastValue?_of_delayAndTime {line : Nat} {what : String} {rest : List Char}
    {delay time : Float} (h : delayAndTime line what rest = .ok (delay, time)) :
    lastValue? line rest = some time := by
  obtain ⟨values, hvalues, h⟩ := ok_of_bind h
  have hlast : lastValue? line rest = values.reverse.head? := by
    rw [lastValue?, hvalues, List.head?_reverse]
    rfl
  rw [hlast]
  split at h
  · cases h
  · rename_i only hreverse
    cases h
    rw [hreverse, List.head?_cons]
  · rename_i before hreverse
    cases h
    rw [hreverse, List.head?_cons]

theorem lastValue?_of_timeOf {line : Nat} {what : String} {rest : List Char} {time : Float}
    (h : timeOf line what rest = .ok time) : lastValue? line rest = some time := by
  obtain ⟨⟨delay, time'⟩, hv, rfl⟩ := ok_of_map h
  exact lastValue?_of_delayAndTime hv

/-- A row has one label, and then it is neither the row of a clock edge nor that of a pin. -/
theorem labels_of_row {l : Nat × String} {kind : RowKind} {rest : List Char}
    (hrow : Row.ofText? (Text.trim l.2.toList) = some (.labelled kind rest)) :
    isClockEdge l = false ∧ (∀ k, isLabelled k l = decide (kind = k)) ∧ pinRow? l = none := by
  refine ⟨by simp [isClockEdge, hrow], fun k => ?_,
    pinRow?_of_isLabelled (isLabelled_iff.mpr ⟨_, hrow⟩)⟩
  simp only [isLabelled, hrow]
  rfl

theorem labels_of_no_row {l : Nat × String} (hrow : Row.ofText? (Text.trim l.2.toList) = none) :
    isClockEdge l = false ∧ ∀ k, isLabelled k l = false :=
  ⟨by simp [isClockEdge, hrow], fun k => by simp [isLabelled, hrow]⟩

/-- The row of a pin is lost when it is taken for the header of a table. -/
theorem isLost_of_pinRow? {l : Nat × String} (hsome : (pinRow? l).isSome = true)
    (hno : ∀ row, tableRow? l.1 l.2.toList = some row →
      row.cell = "net" ∨ Block.isTableHeader row.name.toList = true) : isLost l = true := by
  obtain ⟨pin, hpin⟩ := Option.isSome_iff_exists.mp hsome
  obtain ⟨row, hrow, hkept⟩ := Option.bind_eq_some_iff.mp hpin
  split_ifs at hkept with hnone
  cases hkept
  rw [not_or] at hnone
  simp [isLost, hpin, isKept, (hno row hrow).resolve_left hnone.2]

namespace Block

def clockTimes (b : Block) : ClockTimes :=
  ⟨b.launchClockTime.map some, b.captureClockTime.map some, b.crprSeen⟩

section
variable {rules : RuleSet} {b b' : Block} {l : Nat × String} {atEnd : Bool}

/-- What a row of the table that is being read tells of the clocks. -/
def clockTimesAfter (b : Block) (l : Nat × String) : ClockTimes :=
  if b.stage = .launch then b.clockTimes.afterLaunchRow l else b.clockTimes.afterCaptureRow l

theorem LabelledStep.clockTimes {kind : RowKind} {rest : List Char}
    (h : LabelledStep b l.1 rest kind b' atEnd)
    (hrow : Row.ofText? (Text.trim l.2.toList) = some (.labelled kind rest)) :
    b'.clockTimes = b.clockTimesAfter l := by
  obtain ⟨hedge, hlabel, hpin⟩ := labels_of_row hrow
  have htime : rowTime? l = lastValue? l.1 rest := by simp only [rowTime?, hrow]
  unfold clockTimesAfter ClockTimes.afterLaunchRow ClockTimes.afterCaptureRow advancesLaunch
    advancesCapture isLost
  simp only [hedge, hlabel, hpin, htime]
  cases h with
  | launchSource hs hv => simp [Block.clockTimes, hs, lastValue?_of_delayAndTime hv]
  | captureSource hs hv => simp [Block.clockTimes, hs, lastValue?_of_delayAndTime hv]
  | launchNetwork hs hv => simp [Block.clockTimes, hs, lastValue?_of_timeOf hv]
  | captureNetwork hs hc hv => simp [Block.clockTimes, hs, hc, lastValue?_of_timeOf hv]
  | lateNetwork hs hc hv => simp [Block.clockTimes, hs, hc]
  | _ => simp [Block.clockTimes]

theorem readClockEdge_clockTimes {clock : String} {edge : ClockEdge} {rest : List Char}
    {time : Float} (hrow : Row.ofText? (Text.trim l.2.toList) = some (.clockEdge clock edge rest))
    (ht : timeOf l.1 "clock edge" rest = .ok time) :
    (b.readClockEdge clock edge time).clockTimes = b.clockTimesAfter l := by
  have hedge : isClockEdge l = true := by simp only [isClockEdge, hrow]
  have hlabel : ∀ k, isLabelled k l = false := fun k => by simp only [isLabelled, hrow]
  have hpin : pinRow? l = none := by simp [pinRow?, tableRow?, hrow]
  have htime : rowTime? l = some time := by
    simp only [rowTime?, hrow, lastValue?_of_timeOf ht]
  unfold clockTimesAfter ClockTimes.afterLaunchRow ClockTimes.afterCaptureRow advancesLaunch
    advancesCapture isLost readClockEdge
  simp only [hedge, hlabel, hpin, htime]
  by_cases hs : b.stage = .launch <;> simp [Block.clockTimes, hs]

/-- A line without a label that gives no pin tells nothing of the clocks. -/
theorem clockTimes_of_feed_of_no_pin (hs : b.InTable)
    (hlabel : Row.ofText? (Text.trim l.2.toList) = none)
    (hno : ∀ row, tableRow? l.1 l.2.toList = some row →
      row.cell = "net" ∨ isTableHeader row.name.toList = true)
    (hf : b.feed rules l.1 l.2.toList = .ok (b', atEnd)) : b'.clockTimes = b.clockTimes := by
  cases hr : (Text.trim l.2.toList).all (· == '-') with
  | true =>
    rw [feed_ruler hr] at hf
    cases hf
    rfl
  | false =>
    cases ht : isTableHeader (Text.trim l.2.toList) with
    | true =>
      rw [feed_tableHeader (absurd · hs.ne_header) hr ht] at hf
      cases hf
      rfl
    | false =>
      rw [feed_tableLine (absurd · hs.ne_header) hs.ne_summary hr ht, readTableLine, hlabel,
        hs.enterTable] at hf
      obtain ⟨row?, hline, hf⟩ := ok_of_bind hf
      cases row? with
      | none =>
        cases hf
        rfl
      | some row =>
        have hrow := tableRow?_eq_some_iff.mpr ⟨hr, hlabel, hline⟩
        have hc : row.cell = "net" := (hno row hrow).resolve_right (by
          rw [name_of_tableRow? hrow, ← isTableHeader_trim, ht]
          exact Bool.false_ne_true)
        obtain ⟨b₁, hread, hf⟩ := ok_of_bind hf
        cases hf
        rw [readPin_eq, if_pos hc] at hread
        cases hread
        obtain ⟨launchPins, capturePins, he⟩ := b.readNet_eq row
        rw [he]
        rfl

theorem cumulative_of_pinOf {row : PinRow} {p : Pin} (hp : b.pinOf l.1 row = .ok p) :
    row.values.getLast?.map (·.value) = some p.cumulative := by
  unfold pinOf at hp
  dsimp only at hp
  split at hp
  · cases hp
  · rename_i time before hreverse
    cases hp
    have hlast : row.values.getLast? = some time := by
      rw [← List.head?_reverse, hreverse, List.head?_cons]
    have htime := foldl_setValue_frame (g := Pin.cumulative)
      (fun p v => by unfold setValue; split <;> rfl)
    rw [hlast, htime]
    rfl

theorem cumulative_atPlace_classify (rules : RuleSet) (b : Block) (row : PinRow) (p : Pin) :
    (b.atPlace row (classify rules p)).cumulative = p.cumulative := by
  unfold atPlace
  cases row.location <;> rfl

theorem addCapturePin_clockTimes (rules : RuleSet) (b : Block) (row : PinRow) (p : Pin) :
    (addCapturePin rules b row p).clockTimes =
      { b.clockTimes with
        capture := if b.crprSeen then b.clockTimes.capture else some (some p.cumulative) } := by
  unfold addCapturePin
  by_cases hg : row.isGenerated = true <;> by_cases hc : b.crprSeen = true <;>
    simp [Block.clockTimes, hg, hc]

/-- The row of a pin tells how far the capture clock has come, and nothing of the launch clock. -/
theorem clockTimes_of_feed_of_pin {row : PinRow} (hs : b.InTable)
    (hrow : tableRow? l.1 l.2.toList = some row) (hc : row.cell ≠ "net")
    (ht : isTableHeader row.name.toList = false)
    (hf : b.feed rules l.1 l.2.toList = .ok (b', atEnd)) :
    b'.clockTimes = b.clockTimesAfter l := by
  have hlabel := (tableRow?_eq_some_iff.mp hrow).2.1
  have hname : row.name ≠ "Point" := fun hname => by
    rw [hname] at ht
    exact absurd ht (by decide)
  have hpin : pinRow? l = some (row.name, l.1) := by simp [pinRow?, hrow, hc, hname]
  obtain ⟨hedge, hlabelled⟩ := labels_of_no_row hlabel
  have htime : rowTime? l = row.values.getLast?.map (·.value) := by simp [rowTime?, hlabel, hrow]
  rw [feed_tableRow hs hrow ht] at hf
  obtain ⟨b₁, hread, he⟩ := ok_of_map hf
  cases he
  rw [readPin_eq, if_neg hc] at hread
  obtain ⟨p, hp, hread⟩ := ok_of_bind hread
  rw [cumulative_of_pinOf hp] at htime
  unfold clockTimesAfter ClockTimes.afterLaunchRow ClockTimes.afterCaptureRow advancesLaunch
    advancesCapture isLost
  simp only [hedge, hlabelled, hpin, htime, isKept]
  by_cases hlaunch : b.stage = .launch
  · rw [if_pos hlaunch] at hread
    cases hread
    obtain ⟨_, _, _, _, _, _, he, -⟩ := addLaunchPin_eq rules (b.moveTo row) row
      (b.atPlace row (classify rules p))
    rw [he]
    simp [Block.clockTimes, hlaunch, moveTo]
  · rw [if_neg hlaunch] at hread
    cases hread
    rw [addCapturePin_clockTimes, cumulative_atPlace_classify]
    cases hcrpr : b.crprSeen <;> simp [Block.clockTimes, hlaunch, moveTo, hcrpr, ht]

/-- What every line of a table tells of the clocks. -/
theorem clockTimes_of_feed (hs : b.InTable) (hf : b.feed rules l.1 l.2.toList = .ok (b', atEnd)) :
    b'.clockTimes = b.clockTimesAfter l := by
  cases hlabel : Row.ofText? (Text.trim l.2.toList) with
  | some row =>
    cases row with
    | labelled kind rest => exact (labelledStep_of_feed hs hlabel hf).clockTimes hlabel
    | clockEdge clock edge rest =>
      obtain ⟨hr, ht⟩ := notHeader_of_row hlabel
      rw [feed_tableLine (absurd · hs.ne_header) hs.ne_summary hr ht, readTableLine, hlabel,
        hs.enterTable] at hf
      obtain ⟨time, htime, hf⟩ := ok_of_bind hf
      cases hf
      exact readClockEdge_clockTimes hlabel htime
  | none =>
    by_cases hpin : ∃ row, tableRow? l.1 l.2.toList = some row ∧ row.cell ≠ "net" ∧
        isTableHeader row.name.toList = false
    · obtain ⟨row, hrow, hc, ht⟩ := hpin
      exact clockTimes_of_feed_of_pin hs hrow hc ht hf
    · have hno : ∀ row, tableRow? l.1 l.2.toList = some row →
          row.cell = "net" ∨ isTableHeader row.name.toList = true := by
        intro row hrow
        by_contra hc
        rw [not_or, Bool.not_eq_true] at hc
        exact hpin ⟨row, hrow, hc⟩
      rw [clockTimes_of_feed_of_no_pin hs hlabel hno hf]
      -- nothing is told by such a line, as the only pins in it are lost
      obtain ⟨hedge, hlabelled⟩ := labels_of_no_row hlabel
      have hlost := fun hsome => isLost_of_pinRow? (l := l) hsome hno
      unfold clockTimesAfter ClockTimes.afterLaunchRow ClockTimes.afterCaptureRow advancesLaunch
        advancesCapture
      simp only [hedge, hlabelled]
      cases hsome : (pinRow? l).isSome with
      | false => simp
      | true => simp [hlost hsome]

theorem clockTimes_tableLaw (rules : RuleSet) :
    TableLaw rules Block.clockTimes ClockTimes.afterLaunchRow ClockTimes.afterCaptureRow := by
  constructor
  · exact fun b => rfl
  · intro b b' l atEnd hs ho hf
    obtain ⟨-, rfl | hheading⟩ := header_cases_of_feed hs ho hf
    · rfl
    · obtain ⟨_, _, _, _, _, _, he⟩ := readHeading?_eq hheading
      rw [he]
      rfl
  · intro b b' l atEnd hs hf
    rw [clockTimes_of_feed (.inl hs) hf, clockTimesAfter, if_pos hs]
  · intro b b' l atEnd hs hf
    rw [clockTimes_of_feed (.inr hs) hf, clockTimesAfter, if_neg (by simp [hs])]
  · intro b b' l atEnd hs hf
    obtain ⟨layout, slack, rfl⟩ := eq_of_summary hs hf
    rfl
  · intro s l hl
    obtain ⟨rest, hrow⟩ := isLabelled_iff.mp hl
    obtain ⟨hedge, hlabel, -⟩ := labels_of_row hrow
    simp [ClockTimes.afterLaunchRow, advancesLaunch, hedge, hlabel]
  · intro s l hl
    obtain ⟨kind, hkind, hl⟩ : ∃ kind, (kind = .required ∨ kind = .slack) ∧
        isLabelled kind l = true :=
      hl.elim (fun hl => ⟨_, .inl rfl, hl⟩) fun hl => ⟨_, .inr rfl, hl⟩
    obtain ⟨rest, hrow⟩ := isLabelled_iff.mp hl
    obtain ⟨hedge, hlabel, hpin⟩ := labels_of_row hrow
    rcases hkind with rfl | rfl <;>
      simp [ClockTimes.afterCaptureRow, advancesCapture, hedge, hlabel, hpin]

end

end Block

/-- The last of some rows is the last row behind the first, or the first. -/
theorem getLast?_cons_or {α β : Type} (f : α → β) (a : α) (as : List α) (o : Option β) :
    ((a :: as).getLast?.map f).or o = (as.getLast?.map f).or (some (f a)) := by
  cases as with
  | nil => rfl
  | cons b as =>
    rw [List.getLast?_cons_cons, List.getLast?_cons]
    rfl

namespace ClockTimes

theorem foldl_afterLaunchRow (s : ClockTimes) (lines : List (Nat × String)) :
    lines.foldl afterLaunchRow s =
      { s with
        launch := ((lines.filter advancesLaunch).getLast?.map rowTime?).or s.launch
        crprSeen := s.crprSeen || lines.any (isLabelled .crpr) } := by
  induction lines generalizing s with
  | nil => simp
  | cons l rest ih =>
    rw [List.foldl_cons, ih, afterLaunchRow]
    by_cases hl : advancesLaunch l = true
    · simp only [hl, if_true, List.filter_cons_of_pos, getLast?_cons_or, List.any_cons,
        Bool.or_assoc]
    · simp only [hl, if_false, Bool.false_eq_true, List.any_cons, Bool.or_assoc,
        List.filter_cons_of_neg, not_false_eq_true]

/-- Each row must be told whether the pessimism stands before it. -/
theorem foldl_afterCaptureRow (seen : Nat → Bool) (s : ClockTimes) (lines : List (Nat × String))
    (hseen : ∀ before l after, lines = before ++ l :: after →
      seen l.1 = (s.crprSeen || before.any (isLabelled .crpr))) :
    lines.foldl afterCaptureRow s =
      { s with
        capture := (((lines.filter fun l => advancesCapture (seen l.1) l).filter
          (!isLost ·)).getLast?.map rowTime?).or s.capture
        crprSeen := s.crprSeen || lines.any (isLabelled .crpr) } := by
  induction lines generalizing s with
  | nil => simp
  | cons l rest ih =>
    have hfirst : seen l.1 = s.crprSeen := by simpa using hseen [] l rest rfl
    have hrest := ih (s.afterCaptureRow l) (by
      intro before l' after hrest
      rw [hseen (l :: before) l' after (by rw [hrest]; rfl)]
      simp [afterCaptureRow, Bool.or_assoc])
    rw [List.foldl_cons, hrest, List.filter_filter, List.filter_filter, afterCaptureRow]
    by_cases hl : (!isLost l && advancesCapture s.crprSeen l) = true
    · rw [List.filter_cons_of_pos (by rwa [hfirst]), getLast?_cons_or]
      simp only [hl, if_true, List.any_cons, Bool.or_assoc]
    · rw [List.filter_cons_of_neg (by rwa [hfirst])]
      simp only [hl, if_false, Bool.false_eq_true, List.any_cons, Bool.or_assoc]

end ClockTimes

namespace BlockText

theorem crprBefore_of_append {t : BlockText} {before after : List (Nat × String)}
    {l : Nat × String} (hordered : t.tables.Pairwise (·.1 < ·.1))
    (h : t.tables = before ++ l :: after) :
    t.crprBefore l.1 = before.any (isLabelled .crpr) := by
  rw [h, List.pairwise_append] at hordered
  obtain ⟨-, hafter, hbefore⟩ := hordered
  rw [crprBefore, h, Bool.eq_iff_iff, List.any_eq_true, List.any_eq_true]
  constructor
  · rintro ⟨c, hc, hcrpr⟩
    rw [Bool.and_eq_true, decide_eq_true_eq] at hcrpr
    rcases List.mem_append.mp hc with hc | hc
    · exact ⟨c, hc, hcrpr.1⟩
    · rcases List.mem_cons.mp hc with rfl | hc
      · exact absurd hcrpr.2 (Nat.lt_irrefl _)
      · exact absurd hcrpr.2 (Nat.lt_asymm ((List.pairwise_cons.mp hafter).1 c hc))
  · rintro ⟨c, hc, hcrpr⟩
    refine ⟨c, List.mem_append_left _ hc, ?_⟩
    rw [hcrpr, decide_eq_true (hbefore c hc l List.mem_cons_self)]
    rfl

end BlockText

theorem append_of_captureTable {lines before after : List (Nat × String)} {l : Nat × String}
    (h : captureTable lines = before ++ l :: after) :
    ∃ arrival more, isLabelled .arrival arrival = true ∧
      lines = (launchTable lines ++ arrival :: before) ++ l :: more := by
  unfold captureTable at h
  have hlines := List.takeWhile_append_dropWhile (p := (!isLabelled .arrival ·)) (l := lines)
  have hhead := List.head?_dropWhile_not (!isLabelled .arrival ·) lines
  cases hrest : lines.dropWhile (!isLabelled .arrival ·) with
  | nil =>
    rw [hrest] at h
    simp [captureRows] at h
  | cons arrival later =>
    rw [hrest, List.tail_cons] at h
    rw [hrest] at hlines hhead
    obtain ⟨more, hmore⟩ : captureRows later <+: later := List.takeWhile_prefix _
    rw [h] at hmore
    refine ⟨arrival, after ++ more, by simpa using hhead, ?_⟩
    conv_lhs => rw [← hlines, ← hmore]
    simp [launchTable]

/-- The times of a block at its end are those of the last rows of its tables. -/
theorem BlockText.clockTimes_of_read {rules : RuleSet} {t : BlockText} {r : BlockReading}
    (hsorted : t.body.Pairwise (·.1 < ·.1)) (h : t.read rules = .ok r) :
    r.block.launchClockTime.map some = t.launchClockRows.getLast?.map rowTime? ∧
      r.block.captureClockTime.map some =
        (t.captureClockRows.filter (!isLost ·)).getLast?.map rowTime? := by
  have hordered : t.tables.Pairwise (·.1 < ·.1) := hsorted.sublist (List.dropWhile_sublist _)
  have htimes := (Block.clockTimes_tableLaw rules).view_of_read h
  rw [ClockTimes.foldl_afterLaunchRow, ClockTimes.foldl_afterCaptureRow t.crprBefore]
    at htimes
  · have hlaunch := congrArg ClockTimes.launch htimes
    have hcapture := congrArg ClockTimes.capture htimes
    exact ⟨hlaunch.trans (Option.or_none ..), hcapture.trans (Option.or_none ..)⟩
  · intro before l after hrows
    obtain ⟨arrival, more, harrival, htables⟩ := append_of_captureTable hrows
    obtain ⟨rest, hrow⟩ := isLabelled_iff.mp harrival
    have hno : isLabelled .crpr arrival = false := by simp [(labels_of_row hrow).2.1]
    rw [crprBefore_of_append hordered htables, List.any_append, List.any_cons, hno,
      Bool.false_or]
    rfl

theorem isLastTime_getD {rows : List (Nat × String)} {time? : Option Float} (edgeTime : Float)
    (h : time?.map some = rows.getLast?.map rowTime?) :
    IsLastTime rows edgeTime (time?.getD edgeTime) := by
  unfold IsLastTime
  cases hlast : rows.getLast? with
  | none =>
    rw [hlast, Option.map_none, Option.map_eq_none_iff] at h
    rw [h]
    rfl
  | some l =>
    rw [hlast, Option.map_some, Option.map_eq_some_iff] at h
    obtain ⟨time, rfl, htime⟩ := h
    exact htime.symm

theorem getLast?_filter_of_getLast? {α : Type} {p : α → Bool} {as : List α}
    (h : ∀ a ∈ as.getLast?, p a = true) : (as.filter p).getLast? = as.getLast? := by
  cases has : as.getLast? with
  | none => rw [List.getLast?_eq_none_iff.mp has, List.filter_nil, List.getLast?_nil]
  | some a =>
    obtain ⟨before, rfl⟩ := List.getLast?_eq_some_iff.mp has
    rw [List.filter_append, List.filter_cons_of_pos (h a has), List.filter_nil,
      List.getLast?_concat]

/-- Only the last row counts. -/
theorem ClockSide.TimedBy.congr {side : ClockSide} {rows rows' : List (Nat × String)}
    (h : side.TimedBy rows) (hlast : rows.getLast? = rows'.getLast?) : side.TimedBy rows' := by
  obtain ⟨time, htime, hlatency⟩ := h
  refine ⟨time, ?_, hlatency⟩
  unfold IsLastTime at htime ⊢
  rwa [← hlast]

namespace Report

section
variable {r : Report} {file : SourceFile} {ranges : List ScanRange} {p : TimingPath}

/-- The launch latency counts up to the clock pin, or without one up to the last row of the launch
clock. The capture latency counts up to the last row of the capture clock that is not lost: up to the
last row of all, unless that is lost. -/
theorem latencies_of_read (hp : p ∈ (r.read file ranges).report.paths.drop r.paths.length) :
    ∃ range ∈ ranges, ∃ t ∈ range.blocks file, t.line = p.line ∧
      (∀ i, p.clockPinAt = some i → ∃ pin, p.launchPins[i]? = some pin ∧
        p.launch.latency = pin.cumulative - p.launch.edgeTime) ∧
      (p.clockPinAt = none → p.launch.TimedBy t.launchClockRows) ∧
      p.capture.TimedBy (t.captureClockRows.filter (!isLost ·)) ∧
      ((∀ l ∈ t.captureClockRows.getLast?, isLost l = false) →
        p.capture.TimedBy t.captureClockRows) := by
  obtain ⟨range, hrange, t, ht, reading, hread, rfl⟩ := exists_block_of_mem_read hp
  obtain ⟨hlaunch, hcapture⟩ :=
    BlockText.clockTimes_of_read (ScanRange.body_of_mem_blocks ht).1 hread
  have hplaced := ScanRange.wellPlaced_of_read ht hread (header file).through
  rw [Block.finish_eq] at hplaced ⊢
  refine ⟨range, hrange, t, ht, (BlockText.path_line_of_read hread).symm, fun i hi => ?_,
    fun hnone => ⟨_, isLastTime_getD _ hlaunch, ?_⟩, ⟨_, isLastTime_getD _ hcapture, rfl⟩,
    fun hlast => ClockSide.TimedBy.congr ⟨_, isLastTime_getD _ hcapture, rfl⟩
      (getLast?_filter_of_getLast? (by simpa using hlast))⟩
  · obtain ⟨pin, hpin, -⟩ := hplaced.clockPin i hi
    have hclock : reading.block.path.clockPin? = some pin := by
      rw [TimingPath.clockPin?, hi]
      exact hpin
    refine ⟨pin, hpin, ?_⟩
    rw [hclock]
    rfl
  · have hclock : reading.block.path.clockPin? = none := by
      rw [TimingPath.clockPin?, hnone]
      rfl
    rw [hclock]
    rfl

end

def latePin : SourceFile :=
  .ofText ⟨0⟩ "late_pin" ("Startpoint: ff1\nff1/CK (DFFX1) 1\ndata arrival time 3\n" ++
    "clock network delay 5\nclock reconvergence pessimism 1\nff2/CK (DFFX1) 7\n")

theorem latencies_of_read_latePin :
    ∃ p ∈ (({ rules := {} } : Report).read latePin [.whole]).report.paths.drop
        ({ rules := {} } : Report).paths.length,
      p.clockPinAt = some 0 ∧
        (∃ pin, p.launchPins[0]? = some pin ∧
          p.launch.latency = pin.cumulative - p.launch.edgeTime) ∧
        p.capture.TimedBy [(4, "clock network delay 5")] := by
  obtain ⟨hfirst, hrows, hkept⟩ :
      (({ rules := {} } : Report).read latePin [.whole]).report.paths[0]?.map
        (·.clockPinAt) = some (some 0) ∧
      (∀ t ∈ ScanRange.whole.blocks latePin,
        t.captureClockRows = [(4, "clock network delay 5")]) ∧
      isLost (4, "clock network delay 5") = false := by
    rw [latePin, SourceFile.ofText_append rfl rfl]
    decide +kernel
  obtain ⟨p, hmem, hat⟩ := exists_added_of_first rfl hfirst
  obtain ⟨range, hrange, t, ht, -, hlaunch, -, -, hcapture⟩ := latencies_of_read hmem
  rw [List.mem_singleton.mp hrange] at ht
  rw [hrows t ht] at hcapture
  exact ⟨p, hmem, hat, hlaunch 0 hat, hcapture (by simpa using hkept)⟩

/-- A report with a capture pin whose name begins like the header of a table. -/
def pointerCapture : SourceFile :=
  .ofText ⟨0⟩ "pointer_capture" ("Startpoint: ff1\ndata arrival time 1\nclk (in) 1\n" ++
    "Pointer/Z (BUFX2) 5\n")

/-- A pin that is lost is missing from the capture latency. -/
theorem captureLatency_misses_lostPin :
    ¬ ∀ (r : Report) (file : SourceFile) (ranges : List ScanRange),
      ∀ p ∈ (r.read file ranges).report.paths.drop r.paths.length,
        ∃ range ∈ ranges, ∃ t ∈ range.blocks file, t.line = p.line ∧
          p.capture.TimedBy t.captureClockRows := by
  intro h
  obtain ⟨hfirst, hrows, htime⟩ :
      (({ rules := {} } : Report).read pointerCapture [.whole]).report.paths[0]?.map
        (fun p : TimingPath => decide (p.capture.latency = 5 - p.capture.edgeTime)) =
          some false ∧
      (∀ t ∈ ScanRange.whole.blocks pointerCapture,
        t.captureClockRows.getLast? = some (4, "Pointer/Z (BUFX2) 5")) ∧
      rowTime? (4, "Pointer/Z (BUFX2) 5") = some 5 := by
    rw [pointerCapture, SourceFile.ofText_append rfl rfl]
    decide +kernel
  obtain ⟨p, hmem, hwrong⟩ := exists_added_of_first rfl hfirst
  obtain ⟨range, hrange, t, ht, -, time, hlast, hlatency⟩ :=
    h { rules := {} } pointerCapture _ p hmem
  rw [List.mem_singleton.mp hrange] at ht
  rw [IsLastTime, hrows t ht] at hlast
  obtain rfl : 5 = time := Option.some.inj (htime.symm.trans hlast)
  exact of_decide_eq_false hwrong hlatency

end Report

end PathTiming
