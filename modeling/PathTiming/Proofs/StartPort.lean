import PathTiming.Proofs.PinConservation

/-! Which paths begin at a port: the report says so where it names the startpoint, or the port has
a row among the launch pins. -/
namespace PathTiming

def isPinRow (l : Nat × String) : Bool :=
  match PinRow.ofLine? l.1 l.2.toList with
  | .ok (some _) => true
  | .ok none | .error _ => false

/-- Whether a line ends what a report says of a startpoint: it is another heading, or it belongs to
a table. -/
def endsStart (l : Nat × String) : Bool :=
  let text := Text.trim l.2.toList
  !text.all (· == '-') && text.head? != some '(' &&
    (text.contains ':' || Block.isTableHeader text || (Row.ofText? text).isSome || isPinRow l)

/-- The lines in parentheses that describe a startpoint, when these lines come after it. -/
def startDescription (lines : List (Nat × String)) : List (List Char) :=
  ((lines.takeWhile (!endsStart ·)).map fun l => Text.trim l.2.toList).filter
    (·.head? == some '(')

/-- Whether a startpoint, or what comes after it in some lines, says that it is an input port. -/
def startTold (startpoint : List Char) (lines : List (Nat × String)) : Bool :=
  Block.saysInputPort startpoint || (startDescription lines).any Block.saysInputPort

/-- Whether a block says that its startpoint is an input port. -/
def BlockText.saysInputPort (t : BlockText) : Bool := startTold t.startpoint t.body

/-- A heading is no ruler. -/
theorem all_dash_eq_false_of_isHeading {text : List Char} (h : isHeading text = true) :
    text.all (· == '-') = false := by
  rw [Bool.eq_false_iff]
  intro hall
  rw [List.all_eq_true] at hall
  rw [isHeading, Bool.or_eq_true, Bool.and_eq_true] at h
  obtain hopen | ⟨hcolon, -⟩ := h
  · exact absurd (hall '(' (List.mem_of_mem_head? (by simpa using hopen))) (by decide)
  · exact absurd (hall ':' (by simpa using hcolon)) (by decide)

/-- What is said of a startpoint ends at the first table, or at a heading without parentheses. -/
theorem endsStart_iff {l : Nat × String} : endsStart l = true ↔
    opensTable l = true ∨
      (Text.trim l.2.toList).head? ≠ some '(' ∧ isHeading (Text.trim l.2.toList) = true := by
  cases hr : (Text.trim l.2.toList).all (· == '-') with
  | true =>
    have hno : isHeading (Text.trim l.2.toList) ≠ true := fun h => by
      rw [all_dash_eq_false_of_isHeading h] at hr
      cases hr
    simp [endsStart, opensTable, hr, hno]
  | false =>
    have hrow : ((Row.ofText? (Text.trim l.2.toList)).isSome || isPinRow l) =
        ((Row.ofText? (Text.trim l.2.toList)).isSome || (tableRow? l.1 l.2.toList).isSome) := by
      unfold tableRow? isPinRow
      rw [hr]
      cases Row.ofText? (Text.trim l.2.toList) with
      | some row => rfl
      | none =>
        rcases PinRow.ofLine? l.1 l.2.toList with fault | (- | row) <;> rfl
    simp only [endsStart, opensTable, isHeading, hr, Bool.or_assoc, hrow]
    cases (Text.trim l.2.toList).contains ':' <;>
      cases Block.isTableHeader (Text.trim l.2.toList) <;> simp [and_comm]

theorem takeWhile_open_eq_self_iff {lines : List (Nat × String)} :
    lines.takeWhile (!endsStart ·) = lines ↔ ∀ l ∈ lines, endsStart l = false := by
  rw [List.takeWhile_eq_self_iff]
  simp only [Bool.not_eq_true']

/-- What is said of a startpoint goes on in later lines unless some line has ended it. -/
theorem takeWhile_open_append (lines later : List (Nat × String)) :
    (lines ++ later).takeWhile (!endsStart ·) =
      if ∀ l ∈ lines, endsStart l = false then lines ++ later.takeWhile (!endsStart ·)
      else lines.takeWhile (!endsStart ·) := by
  have hall : (lines.takeWhile (!endsStart ·)).length = lines.length ↔
      ∀ l ∈ lines, endsStart l = false := by
    rw [← takeWhile_open_eq_self_iff]
    exact ⟨(List.takeWhile_prefix _).eq_of_length, congrArg List.length⟩
  rw [List.takeWhile_append]
  simp only [hall]

theorem startDescription_prefix {lines more : List (Nat × String)} (h : lines <+: more)
    {text : List Char} (ht : text ∈ startDescription lines) : text ∈ startDescription more := by
  obtain ⟨later, rfl⟩ := h
  unfold startDescription at ht ⊢
  rw [List.mem_filter] at ht ⊢
  refine ⟨?_, ht.2⟩
  obtain ⟨l, hl, rfl⟩ := List.mem_map.mp ht.1
  refine List.mem_map_of_mem ?_
  rw [takeWhile_open_append]
  split_ifs with hopen
  · exact List.mem_append_left _ ((List.takeWhile_prefix _).sublist.subset hl)
  · exact hl

theorem startDescription_concat (lines : List (Nat × String)) (l : Nat × String) :
    startDescription (lines ++ [l]) = startDescription lines ++
      if (∀ x ∈ lines, endsStart x = false) ∧ (Text.trim l.2.toList).head? = some '('
      then [Text.trim l.2.toList] else [] := by
  unfold startDescription
  rw [takeWhile_open_append]
  by_cases hlines : ∀ x ∈ lines, endsStart x = false
  · rw [if_pos hlines, takeWhile_open_eq_self_iff.mpr hlines, List.map_append, List.filter_append]
    congr 1
    by_cases hl : (Text.trim l.2.toList).head? = some '('
    · have hopen : endsStart l = false := by simp [endsStart, hl]
      rw [if_pos ⟨hlines, hl⟩]
      simp [hopen, hl]
    · cases hend : endsStart l <;> simp [hend, hl]
  · rw [if_neg hlines, if_neg fun h => hlines h.1, List.append_nil]

section
variable {startpoint : List Char} {lines more : List (Nat × String)}

theorem startTold_mono (h : lines <+: more) (ht : startTold startpoint lines = true) :
    startTold startpoint more = true := by
  unfold startTold at ht ⊢
  rw [Bool.or_eq_true, List.any_eq_true] at ht ⊢
  exact ht.imp_right fun ⟨text, hmem, hinput⟩ => ⟨text, startDescription_prefix h hmem, hinput⟩

/-- Behind a line that ends it, nothing is said of a startpoint any more. -/
theorem startTold_eq_of_ended (h : lines <+: more) (hend : ∃ l ∈ lines, endsStart l = true) :
    startTold startpoint lines = startTold startpoint more := by
  obtain ⟨later, rfl⟩ := h
  have hclosed : ¬ ∀ l ∈ lines, endsStart l = false := by simpa using hend
  unfold startTold startDescription
  rw [takeWhile_open_append, if_neg hclosed]

end

namespace Block

/-- A heading is either a text in parentheses, which may say that the startpoint is a port, or has
a colon and comes after what is said of the startpoint. -/
theorem readHeading?_cases {b b' : Block} {text : List Char} (h : b.readHeading? text = some b') :
    text.head? = some '(' ∧ b' = { b with
        startIsPort := b.startIsPort || (b.heading == .startpoint && saysInputPort text) } ∨
      b'.heading ≠ .startpoint ∧ b'.startIsPort = b.startIsPort := by
  unfold readHeading? at h
  dsimp only at h
  split at h
  · cases h
    exact .inr ⟨by simp, rfl⟩
  split at h
  · cases h
    exact .inr ⟨by simp, rfl⟩
  split at h
  · cases h
    exact .inr ⟨by simp, rfl⟩
  split at h
  · cases h
    exact .inr ⟨by simp, rfl⟩
  split_ifs at h with hopen hcolon
  · cases h
    exact .inl ⟨hopen, rfl⟩
  · cases h
    exact .inr ⟨by simp, rfl⟩

section
variable {rules : RuleSet} {b b' : Block} {line : Nat} {text : List Char} {atEnd : Bool}

/-- A line in parentheses is read as a heading in the header of a block. -/
theorem feed_parenthesis (hs : b.stage = .header) (hopen : (Text.trim text).head? = some '(') :
    b.feed rules line text = .ok ({ b with
      startIsPort :=
        b.startIsPort || (b.heading == .startpoint && saysInputPort (Text.trim text)) }, false) := by
  obtain ⟨rest, htext⟩ := List.head?_eq_some_iff.mp hopen
  unfold feed readHeading?
  simp [htext, hs, List.isPrefixOf?]

/-- No line leads back to the header of a block. -/
theorem Step.stage_eq_header (h : Step rules line text b b' atEnd) (hs : b'.stage = .header) :
    b.stage = .header := by
  obtain hsame | htable | ⟨-, hsummary⟩ | ⟨-, hcapture, -⟩ := h.stage_cases
  · rwa [hsame] at hs
  · exact absurd (htable.symm.trans hs) b.enterTable_stage_ne_header
  · cases hsummary.symm.trans hs
  · cases hcapture.symm.trans hs

/-- A block stays at what is said of the startpoint until a line ends that. -/
theorem waiting_iff_of_feed {l : Nat × String} (h : b.feed rules l.1 l.2.toList = .ok (b', atEnd)) :
    b'.stage = .header ∧ b'.heading = .startpoint ↔
      (b.stage = .header ∧ b.heading = .startpoint) ∧ endsStart l = false := by
  by_cases hs : b.stage = .header
  case neg =>
    exact iff_of_false (fun hw => hs ((feed_step h).stage_eq_header hw.1)) fun hw => hs hw.1.1
  by_cases hopen : (Text.trim l.2.toList).head? = some '('
  · have hgoesOn : endsStart l = false := by simp [endsStart, hopen]
    rw [feed_parenthesis hs hopen] at h
    cases h
    exact (and_iff_left hgoesOn).symm
  cases hends : endsStart l with
  | true =>
    refine iff_of_false (fun hw => ?_) (by simp)
    obtain ho | ⟨-, hyes⟩ := endsStart_iff.mp hends
    · rw [feed_opensTable hs ho] at h
      exact b.enterTable_stage_ne_header ((feed_step h).stage_eq_header hw.1)
    · obtain ⟨b₁, hheading⟩ :=
        Option.isSome_iff_exists.mp ((b.isSome_readHeading? _).trans hyes)
      rw [feed_heading hs (all_dash_eq_false_of_isHeading hyes) hheading] at h
      cases h
      obtain ⟨hopen', -⟩ | ⟨hother, -⟩ := readHeading?_cases hheading
      · exact hopen hopen'
      · exact hother hw.2
  | false =>
    have hgoesOn : ¬ (opensTable l = true ∨ _) := endsStart_iff.not.mp (by simp [hends])
    rw [not_or, Bool.not_eq_true] at hgoesOn
    obtain ⟨ho, hno⟩ := hgoesOn
    obtain ⟨-, rfl | hheading⟩ := header_cases_of_feed hs ho h
    · exact (and_iff_left rfl).symm
    · have hyes := b.isSome_readHeading? (Text.trim l.2.toList)
      rw [hheading] at hyes
      exact absurd ⟨hopen, hyes.symm⟩ hno

theorem placeClockPin_startIsPort (b : Block) (p : Pin) :
    (b.placeClockPin p).startIsPort =
      (b.startIsPort || (p.isPort && p.name == b.path.startpoint)) := by
  unfold placeClockPin
  dsimp only
  split_ifs <;> rfl

/-- Apart from notes, a launch pin is placed unless the clock pin is fixed, and added behind the
others. -/
theorem addLaunchPin_place (rules : RuleSet) (b : Block) (row : PinRow) (p : Pin) :
    ∃ source holdChecks,
      addLaunchPin rules b row p =
        { (if b.clockPinFixed then b else b.placeClockPin p) with
          path := { (if b.clockPinFixed then b else b.placeClockPin p).path with
            launch := { b.path.launch with generatedAt := source }
            holdChecks
            launchPins := b.path.launchPins ++ [p] } } := by
  unfold addLaunchPin
  by_cases hf : b.clockPinFixed = true
  · rw [if_pos hf, if_pos hf]
    exact ⟨_, _, rfl⟩
  · rw [if_neg hf, if_neg hf]
    obtain ⟨port, fixed, left, at?, hplace, -⟩ := b.placeClockPin_eq p
    obtain ⟨source, hnote, -⟩ := (b.placeClockPin p).noteLaunchSource_eq row
    rw [hnote, hplace]
    exact ⟨_, _, rfl⟩

theorem PinStep.startIsPort_eq {row : PinRow} (h : PinStep rules b line row b') :
    b'.startIsPort = b.startIsPort ∨ ∃ pin ∈ b'.path.launchPins,
      b'.startIsPort = (b.startIsPort || (pin.isPort && pin.name == b.path.startpoint)) := by
  cases h with
  | net hc =>
    obtain ⟨launchPins, capturePins, he⟩ := b.readNet_eq row
    rw [he]
    exact .inl rfl
  | @launch p hc hp hs =>
    obtain ⟨source, holdChecks, he⟩ :=
      addLaunchPin_place rules (b.moveTo row) row (b.atPlace row (classify rules p))
    rw [he]
    split_ifs
    · exact .inl rfl
    · exact .inr ⟨_, List.mem_append_right _ List.mem_cons_self, placeClockPin_startIsPort _ _⟩
  | @capture p hc hp hs =>
    obtain ⟨source, time, checks, he, -⟩ :=
      addCapturePin_eq rules (b.moveTo row) row (b.atPlace row (classify rules p))
    rw [he]
    exact .inl rfl

/-- Only a text in parentheses behind the startpoint and the row of a port can tell that the
startpoint is a port. -/
theorem Step.startIsPort_eq (h : Step rules line text b b' atEnd) :
    b'.startIsPort = b.startIsPort ∨
      (b.stage = .header ∧ (Text.trim text).head? = some '(' ∧ b'.startIsPort =
        (b.startIsPort || (b.heading == .startpoint && saysInputPort (Text.trim text)))) ∨
      ∃ pin ∈ b'.path.launchPins,
        b'.startIsPort = (b.startIsPort || (pin.isPort && pin.name == b.path.startpoint)) := by
  cases h with
  | skip => exact .inl rfl
  | heading hs hb =>
    obtain ⟨hopen, rfl⟩ | ⟨-, hsame⟩ := readHeading?_cases hb
    · exact .inr (.inl ⟨hs, hopen, rfl⟩)
    · exact .inl hsame
  | tableHeader ht => exact .inl rfl
  | clockEdge hs hr ht =>
    unfold readClockEdge
    split_ifs <;> exact .inl rfl
  | labelled hs hr hb => cases hb <;> exact .inl rfl
  | pinRow hs hr hrow hb => exact hb.startIsPort_eq.imp_right .inr
  | slack hs hr ht => exact .inl rfl

/-- No line makes a startpoint that is a port something else. -/
theorem Step.startIsPort (h : Step rules line text b b' atEnd) (hp : b.startIsPort = true) :
    b'.startIsPort = true := by
  obtain he | ⟨-, -, he⟩ | ⟨pin, -, he⟩ := h.startIsPort_eq
  · rwa [he]
  · rw [he, hp, Bool.true_or]
  · rw [he, hp, Bool.true_or]

theorem PinStep.prefix_launch_sites {row : PinRow} (h : PinStep rules b line row b') :
    b.path.launchPins.map Pin.site <+: b'.path.launchPins.map Pin.site := by
  cases h with
  | net hc => exact ⟨[], by rw [List.append_nil, (b.readNet_sites row).1]⟩
  | @launch p hc hp hs =>
    obtain ⟨source, holdChecks, he⟩ :=
      addLaunchPin_place rules (b.moveTo row) row (b.atPlace row (classify rules p))
    rw [he]
    dsimp only
    rw [List.map_append]
    exact List.prefix_append _ _
  | @capture p hc hp hs =>
    obtain ⟨source, time, checks, he, -⟩ :=
      addCapturePin_eq rules (b.moveTo row) row (b.atPlace row (classify rules p))
    rw [he]
    exact List.prefix_refl _

/-- No line takes away a launch pin, or changes its name or cell. -/
theorem Step.prefix_launch_sites (h : Step rules line text b b' atEnd) :
    b.path.launchPins.map Pin.site <+: b'.path.launchPins.map Pin.site := by
  obtain hsame | ⟨row, -, hb⟩ := h.samePins_or_pinStep
  · exact ⟨[], by rw [List.append_nil, hsame.launchPins]⟩
  · exact hb.prefix_launch_sites

end

/-- Whether a line says that the startpoint is an input port while the block describes it. -/
def tellsPort (b : Block) (l : Nat × String) : Bool :=
  b.stage == .header && b.heading == .startpoint && (Text.trim l.2.toList).head? == some '(' &&
    saysInputPort (Text.trim l.2.toList)

theorem tellsPort_iff {b : Block} {l : Nat × String} : b.tellsPort l = true ↔
    (b.stage = .header ∧ b.heading = .startpoint) ∧ (Text.trim l.2.toList).head? = some '(' ∧
      saysInputPort (Text.trim l.2.toList) = true := by
  simp [tellsPort, and_assoc]

theorem eq_of_feed_tellsPort {rules : RuleSet} {b b' : Block} {l : Nat × String} {atEnd : Bool}
    (h : b.feed rules l.1 l.2.toList = .ok (b', atEnd)) (ht : b.tellsPort l = true) :
    b' = { b with startIsPort := true } := by
  obtain ⟨⟨hs, hh⟩, hopen, hinput⟩ := tellsPort_iff.mp ht
  have hport : (b.startIsPort ||
      (b.heading == .startpoint && saysInputPort (Text.trim l.2.toList))) = true := by
    simp [hh, hinput]
  rw [feed_parenthesis hs hopen, hport] at h
  cases h
  rfl

/-- What is known of the startpoint of a block when some lines have been read. -/
structure StartKnown (startpoint : List Char) (fed : List (Nat × String)) (b : Block) : Prop where
  waiting : (b.stage = .header ∧ b.heading = .startpoint) ↔ ∀ l ∈ fed, endsStart l = false
  told : startTold startpoint fed = true → b.startIsPort = true
  port : b.startIsPort = true → startTold startpoint fed = true ∨
    ∃ pin ∈ b.path.launchPins, pin.isPort = true ∧ pin.name = b.path.startpoint

section
variable {rules : RuleSet} {startpoint : List Char} {fed : List (Nat × String)} {b b' : Block}
  {l : Nat × String} {atEnd : Bool}

theorem StartKnown.startTold_concat (hb : b.StartKnown startpoint fed) (l : Nat × String) :
    startTold startpoint (fed ++ [l]) = (startTold startpoint fed || b.tellsPort l) := by
  unfold startTold
  rw [startDescription_concat, List.any_append, Bool.or_assoc]
  congr 2
  rw [Bool.eq_iff_iff, tellsPort_iff, hb.waiting, ← and_assoc]
  split_ifs with hl
  · rw [List.any_cons, List.any_nil, Bool.or_false]
    exact (and_iff_right hl).symm
  · exact iff_of_false Bool.false_ne_true fun h => hl h.1

theorem StartKnown.feed (hb : b.StartKnown startpoint fed)
    (h : b.feed rules l.1 l.2.toList = .ok (b', atEnd)) :
    b'.StartKnown startpoint (fed ++ [l]) := by
  have hstep := feed_step h
  have hstart : b'.path.startpoint = b.path.startpoint := hstep.ends.1
  constructor
  · rw [List.forall_mem_append, List.forall_mem_singleton, ← hb.waiting]
    exact waiting_iff_of_feed h
  · rw [hb.startTold_concat, Bool.or_eq_true]
    rintro (htold | htells)
    · exact hstep.startIsPort (hb.told htold)
    · rw [eq_of_feed_tellsPort h htells]
  · intro hp
    rw [hb.startTold_concat, Bool.or_eq_true]
    cases hbefore : b.startIsPort with
    | true =>
      obtain htold | ⟨pin, hpin, hport, hname⟩ := hb.port hbefore
      · exact .inl (.inl htold)
      · have hsite := hstep.prefix_launch_sites.subset (List.mem_map_of_mem hpin)
        obtain ⟨pin', hpin', hsame⟩ := List.mem_map.mp hsite
        have hport' : pin'.isPort = pin.isPort := congrArg (·.2.1) hsame
        have hname' : pin'.name = pin.name := congrArg (·.1) hsame
        exact .inr ⟨pin', hpin', by rw [hport', hport], by rw [hname', hname, hstart]⟩
    | false =>
      obtain he | ⟨hs, hopen, he⟩ | ⟨pin, hpin, he⟩ := hstep.startIsPort_eq
      · rw [hp, hbefore] at he
        cases he
      · rw [hp, hbefore, Bool.false_or, eq_comm, Bool.and_eq_true, beq_iff_eq] at he
        exact .inl (.inr (tellsPort_iff.mpr ⟨⟨hs, he.1⟩, hopen, he.2⟩))
      · rw [hp, hbefore, Bool.false_or, eq_comm, Bool.and_eq_true, beq_iff_eq] at he
        exact .inr ⟨pin, hpin, he.1, he.2.trans hstart.symm⟩

end

theorem start_startKnown (line : Nat) (startpoint : List Char) :
    (start line startpoint).StartKnown startpoint [] := by
  have hinput : startTold startpoint [] = saysInputPort startpoint := Bool.or_false _
  constructor
  · exact ⟨fun _ l hl => absurd hl List.not_mem_nil, fun _ => ⟨rfl, rfl⟩⟩
  · rw [hinput]
    exact id
  · rw [hinput]
    exact .inl

end Block

/-- If a startpoint is taken for a port, the block says so or the port has a row. -/
theorem BlockText.port_of_read {rules : RuleSet} {t : BlockText} {r : BlockReading}
    (h : t.read rules = .ok r) (hp : r.block.startIsPort = true) :
    t.saysInputPort = true ∨
      ∃ pin ∈ r.block.path.launchPins, pin.isPort = true ∧ pin.name = r.block.path.startpoint := by
  have hknown := Block.feedLines_induction_fed h (Block.start_startKnown t.line t.startpoint)
    fun _ _ _ _ _ hb hf => hb.feed hf
  exact (hknown.port hp).imp_left (startTold_mono (Block.fed_of_feedLines h).1)

end PathTiming
