import PathTiming.Proofs.PinConservation

/-! Which part of a path the lines of a block can change. Up to the data arrival time they leave the
capture side alone, behind it the launch side, and behind the data required time they change no more
than the slack. -/
namespace PathTiming

/-- The paths agree on the capture clock, and on what is read after it. -/
structure SameCapture (p p' : TimingPath) : Prop where
  pins : p'.capturePins = p.capturePins
  clock : p'.capture = p.capture
  required : p'.required = p.required
  slack : p'.slack = p.slack

/-- The paths agree on the launch clock and the data path. -/
structure SameLaunch (p p' : TimingPath) : Prop where
  pins : p'.launchPins = p.launchPins
  clockPinAt : p'.clockPinAt = p.clockPinAt
  clock : p'.launch = p.launch
  arrival : p'.arrival = p.arrival

def SameUpToSlack (p p' : TimingPath) : Prop := ∃ slack, p' = { p with slack }

section
variable {p p' p'' : TimingPath}

theorem SameCapture.refl (p : TimingPath) : SameCapture p p := ⟨rfl, rfl, rfl, rfl⟩

theorem SameCapture.trans (h : SameCapture p p') (h' : SameCapture p' p'') : SameCapture p p'' :=
  ⟨h'.pins.trans h.pins, h'.clock.trans h.clock, h'.required.trans h.required,
    h'.slack.trans h.slack⟩

theorem SameLaunch.refl (p : TimingPath) : SameLaunch p p := ⟨rfl, rfl, rfl, rfl⟩

theorem SameLaunch.trans (h : SameLaunch p p') (h' : SameLaunch p' p'') : SameLaunch p p'' :=
  ⟨h'.pins.trans h.pins, h'.clockPinAt.trans h.clockPinAt, h'.clock.trans h.clock,
    h'.arrival.trans h.arrival⟩

theorem SameUpToSlack.refl (p : TimingPath) : SameUpToSlack p p := ⟨p.slack, rfl⟩

theorem SameUpToSlack.trans (h : SameUpToSlack p p') (h' : SameUpToSlack p' p'') :
    SameUpToSlack p p'' := by
  obtain ⟨slack, rfl⟩ := h
  obtain ⟨slack', rfl⟩ := h'
  exact ⟨slack', rfl⟩

end

namespace Block

/-- Feeds lines one after another, even when a slack has ended the block. -/
def feedAll (rules : RuleSet) (b : Block) : List (Nat × String) → Except FormatError Block
  | [] => .ok b
  | l :: rest => b.feed rules l.1 l.2.toList >>= fun fed => fed.1.feedAll rules rest

/-- Whether some line satisfies `p` when it is fed, given the block as it is then. -/
def anyFed (rules : RuleSet) (p : Block → Nat × String → Bool) (b : Block) :
    List (Nat × String) → Bool
  | [] => false
  | l :: rest =>
    p b l ||
      match b.feed rules l.1 l.2.toList with
      | .ok (b', _) => b'.anyFed rules p rest
      | .error _ => false

/-- Whether a line is the data arrival time of the launch side. -/
def closesLaunch (b : Block) (l : Nat × String) : Bool :=
  (b.stage == .launch || b.stage == .header && opensTable l) && isLabelled .arrival l

/-- Whether a line is the data required time of the capture side. -/
def closesCapture (b : Block) (l : Nat × String) : Bool :=
  b.stage == .capture && isLabelled .required l

section
variable {rules : RuleSet} {b b' : Block} {line : Nat} {text : List Char} {atEnd : Bool}

/-- The parts of a block follow one another. -/
theorem Step.rank_le (h : Step rules line text b b' atEnd) : b.stage.rank ≤ b'.stage.rank := by
  have hin : b.stage.rank ≤ b.stage.inTable.rank := by cases b.stage <;> decide
  obtain hs | hs | ⟨hs, hs'⟩ | ⟨hs, hs', -⟩ := h.stage_cases
  · rw [hs]
  · rwa [hs]
  · rw [hs, hs']
    decide
  · rw [hs']
    refine hin.trans ?_
    rw [hs]
    decide

/-- A pin of the launch side is none of the capture side. -/
theorem PinStep.sameCapture {row : PinRow} (h : PinStep rules b line row b')
    (hs : b.stage = .launch) : SameCapture b.path b'.path := by
  cases h with
  | net hc =>
    obtain ⟨_, -, hpins⟩ := b.readNet_changesPins row
    obtain ⟨launchPins, capturePins, he⟩ := b.readNet_eq row
    have hcapture := hpins.2
    rw [if_pos hs] at hcapture
    rw [he] at hcapture ⊢
    exact ⟨hcapture, rfl, rfl, rfl⟩
  | launch hc hp hs' =>
    obtain ⟨_, _, _, _, _, _, he, -⟩ := addLaunchPin_eq rules (b.moveTo row) row _
    rw [he]
    exact ⟨rfl, rfl, rfl, rfl⟩
  | capture hc hp hs' => exact absurd hs hs'

/-- A pin of the capture side is none of the launch side. -/
theorem PinStep.sameLaunch {row : PinRow} (h : PinStep rules b line row b')
    (hs : b.stage ≠ .launch) : SameLaunch b.path b'.path := by
  cases h with
  | net hc =>
    obtain ⟨_, -, hpins⟩ := b.readNet_changesPins row
    obtain ⟨launchPins, capturePins, he⟩ := b.readNet_eq row
    have hlaunch := hpins.1
    rw [if_neg hs] at hlaunch
    rw [he] at hlaunch ⊢
    exact ⟨hlaunch, rfl, rfl, rfl⟩
  | launch hc hp hs' => exact absurd hs' hs
  | capture hc hp hs' =>
    obtain ⟨_, _, _, he, -⟩ := addCapturePin_eq rules (b.moveTo row) row _
    rw [he]
    exact ⟨rfl, rfl, rfl, rfl⟩

/-- A block whose launch side is open is on the launch side once it is in a table. -/
theorem enterTable_stage_of_open (hb : b.isComplete = false) : b.enterTable.stage = .launch := by
  unfold isComplete at hb
  unfold enterTable Stage.inTable
  cases hs : b.stage <;> simp_all

theorem enterTable_stage_of_isComplete (hb : b.isComplete = true) :
    b.enterTable.stage ≠ .launch := by
  unfold isComplete at hb
  unfold enterTable Stage.inTable
  cases hs : b.stage <;> simp_all

/-- While the launch side is open, no line has to do with the capture side. -/
theorem Step.sameCapture (h : Step rules line text b b' atEnd) (hb : b.isComplete = false) :
    SameCapture b.path b'.path := by
  have hstage := enterTable_stage_of_open hb
  cases h with
  | skip => exact .refl _
  | heading hs hr =>
    obtain ⟨_, _, _, _, _, _, rfl⟩ := readHeading?_eq hr
    exact ⟨rfl, rfl, rfl, rfl⟩
  | tableHeader ht => exact .refl _
  | clockEdge hs hr ht =>
    unfold readClockEdge
    rw [if_pos hstage]
    exact ⟨rfl, rfl, rfl, rfl⟩
  | labelled hs hr hl =>
    cases hl with
    | captureSource hs' hv => exact absurd hstage hs'
    | required hs' hv => simp [hstage] at hs'
    | slack hc hv => simp [hb] at hc
    | _ => exact ⟨rfl, rfl, rfl, rfl⟩
  | pinRow hs hr hrow hp => exact hp.sameCapture hstage
  | slack hs hr ht => simp [Block.isComplete, hs] at hb

/-- Once the launch side is closed, no line has to do with it. -/
theorem Step.sameLaunch (h : Step rules line text b b' atEnd) (hb : b.isComplete = true) :
    SameLaunch b.path b'.path := by
  have hstage := enterTable_stage_of_isComplete hb
  cases h with
  | skip => exact .refl _
  | heading hs hr => simp [Block.isComplete, hs] at hb
  | tableHeader ht => exact .refl _
  | clockEdge hs hr ht =>
    unfold readClockEdge
    rw [if_neg hstage]
    exact ⟨rfl, rfl, rfl, rfl⟩
  | labelled hs hr hl =>
    cases hl with
    | launchSource hs' hv => exact absurd hs' hstage
    | arrival hs' hv => exact absurd hs' hstage
    | _ => exact ⟨rfl, rfl, rfl, rfl⟩
  | pinRow hs hr hrow hp => exact hp.sameLaunch hstage
  | slack hs hr ht => exact ⟨rfl, rfl, rfl, rfl⟩

end

section
variable {rules : RuleSet} {b b' : Block} {l : Nat × String} {atEnd : Bool}

/-- The launch side is closed by its data arrival time alone. -/
theorem isComplete_of_feed_eq (hf : b.feed rules l.1 l.2.toList = .ok (b', atEnd)) :
    b'.isComplete = (b.isComplete || b.closesLaunch l) := by
  cases hc : b.isComplete with
  | true => rw [(feed_step hf).isComplete_of_isComplete hc, Bool.true_or]
  | false =>
    rw [Bool.false_or]
    have hlaunch : ∀ c : Block, c.stage = .launch → c.feed rules l.1 l.2.toList = .ok (b', atEnd) →
        b'.isComplete = isLabelled .arrival l := by
      intro c hs hf
      have hstage := (feed_launch hs hf).1
      unfold isComplete
      cases ha : isLabelled .arrival l <;> simp [hstage, ha]
    unfold closesLaunch
    cases hs : b.stage with
    | header =>
      cases ho : opensTable l with
      | true =>
        rw [feed_opensTable hs ho] at hf
        exact hlaunch b.enterTable (enterTable_stage_of_open hc) hf
      | false =>
        rw [isComplete, (feed_header hs ho hf).1]
        rfl
    | launch => exact hlaunch b hs hf
    | capture => simp [isComplete, hs] at hc
    | summary => simp [isComplete, hs] at hc

/-- The capture side is closed by its data required time alone. -/
theorem summary_of_feed_eq (hf : b.feed rules l.1 l.2.toList = .ok (b', atEnd)) :
    (b'.stage == .summary) = (b.stage == .summary || b.closesCapture l) := by
  unfold closesCapture
  cases hs : b.stage with
  | capture =>
    have hstage := (feed_capture hs hf).1
    cases hr : isLabelled .required l <;> simp [hstage, hr]
  | summary =>
    obtain ⟨layout, slack, rfl⟩ := eq_of_summary hs hf
    rw [hs]
    rfl
  | header =>
    obtain hs' | hs' | ⟨hs', -⟩ | ⟨-, hs', -⟩ := (feed_step hf).stage_cases
    · rw [hs', hs]
      rfl
    · rw [hs', hs]
      rfl
    · cases hs.symm.trans hs'
    · rw [hs']
      rfl
  | launch =>
    rw [(feed_launch hs hf).1]
    cases isLabelled .arrival l <;> rfl

end

section
variable {rules : RuleSet} {b b' : Block} {l : Nat × String} {lines : List (Nat × String)}

theorem feedAll_cons_eq_ok {rest : List (Nat × String)}
    (h : b.feedAll rules (l :: rest) = .ok b') :
    ∃ c atEnd, b.feed rules l.1 l.2.toList = .ok (c, atEnd) ∧ c.feedAll rules rest = .ok b' := by
  obtain ⟨⟨c, atEnd⟩, hf, h⟩ := ok_of_bind h
  exact ⟨c, atEnd, hf, h⟩

theorem anyFed_cons {p : Block → Nat × String → Bool} {c : Block} {atEnd : Bool}
    (hf : b.feed rules l.1 l.2.toList = .ok (c, atEnd)) (rest : List (Nat × String)) :
    b.anyFed rules p (l :: rest) = (p b l || c.anyFed rules p rest) := by
  rw [anyFed, hf]

theorem anyFed_append {p : Block → Nat × String → Bool} (h : b.feedAll rules lines = .ok b')
    (later : List (Nat × String)) :
    b.anyFed rules p (lines ++ later) = (b.anyFed rules p lines || b'.anyFed rules p later) := by
  induction lines generalizing b with
  | nil =>
    cases h
    rw [List.nil_append, anyFed, Bool.false_or]
  | cons l rest ih =>
    obtain ⟨c, atEnd, hf, hrest⟩ := feedAll_cons_eq_ok h
    rw [List.cons_append, anyFed_cons hf, anyFed_cons hf, ih hrest, Bool.or_assoc]

/-- What every line keeps holds after all of them. -/
theorem feedAll_induction {P : Block → Prop} (h : b.feedAll rules lines = .ok b') (hb : P b)
    (hstep : ∀ c c' (l : Nat × String) atEnd, P c →
      c.feed rules l.1 l.2.toList = .ok (c', atEnd) → P c') : P b' := by
  induction lines generalizing b with
  | nil =>
    cases h
    exact hb
  | cons l rest ih =>
    obtain ⟨c, atEnd, hf, hrest⟩ := feedAll_cons_eq_ok h
    exact ih hrest (hstep b c l atEnd hb hf)

/-- What a line alone brings about has been brought about by some line. -/
theorem eq_or_anyFed_of_feedAll {p : Block → Nat × String → Bool} {q : Block → Bool}
    (hstep : ∀ c c' (l : Nat × String) atEnd, c.feed rules l.1 l.2.toList = .ok (c', atEnd) →
      q c' = (q c || p c l)) (h : b.feedAll rules lines = .ok b') :
    q b' = (q b || b.anyFed rules p lines) := by
  induction lines generalizing b with
  | nil =>
    cases h
    rw [anyFed, Bool.or_false]
  | cons l rest ih =>
    obtain ⟨c, atEnd, hf, hrest⟩ := feedAll_cons_eq_ok h
    rw [ih hrest, hstep b c l atEnd hf, anyFed_cons hf, Bool.or_assoc]

theorem isComplete_of_feedAll (h : b.feedAll rules lines = .ok b') :
    b'.isComplete = (b.isComplete || b.anyFed rules closesLaunch lines) :=
  eq_or_anyFed_of_feedAll (fun _ _ _ _ hf => isComplete_of_feed_eq hf) h

theorem summary_of_feedAll (h : b.feedAll rules lines = .ok b') :
    (b'.stage == .summary) = (b.stage == .summary || b.anyFed rules closesCapture lines) :=
  eq_or_anyFed_of_feedAll (q := (·.stage == .summary)) (fun _ _ _ _ hf => summary_of_feed_eq hf) h

theorem rank_le_of_feedAll (h : b.feedAll rules lines = .ok b') : b.stage.rank ≤ b'.stage.rank :=
  feedAll_induction (P := fun c => b.stage.rank ≤ c.stage.rank) h (Nat.le_refl _)
    fun _ _ _ _ hc hf => hc.trans (feed_step hf).rank_le

theorem sameLaunch_of_feedAll (h : b.feedAll rules lines = .ok b') (hb : b.isComplete = true) :
    SameLaunch b.path b'.path :=
  (feedAll_induction (P := fun c => c.isComplete = true ∧ SameLaunch b.path c.path) h
    ⟨hb, .refl _⟩ fun _ _ _ _ hc hf =>
      ⟨(feed_step hf).isComplete_of_isComplete hc.1,
        hc.2.trans ((feed_step hf).sameLaunch hc.1)⟩).2

theorem sameUpToSlack_of_feedAll (h : b.feedAll rules lines = .ok b') (hb : b.stage = .summary) :
    SameUpToSlack b.path b'.path := by
  refine (feedAll_induction (P := fun c => (c.stage == .summary) = true ∧
    SameUpToSlack b.path c.path) h ⟨by rw [hb]; rfl, .refl _⟩ fun c c' l atEnd hc hf => ?_).2
  obtain ⟨layout, slack, rfl⟩ := eq_of_summary (eq_of_beq hc.1) hf
  exact ⟨hc.1, hc.2.trans ⟨slack, rfl⟩⟩

/-- The capture side is left alone up to the data arrival time, and by that row itself. -/
theorem sameCapture_of_feedAll (h : b.feedAll rules lines = .ok b') (hb : b.isComplete = false)
    (hopen : b.anyFed rules closesLaunch lines.dropLast = false) :
    SameCapture b.path b'.path := by
  induction lines generalizing b with
  | nil =>
    cases h
    exact .refl _
  | cons l rest ih =>
    obtain ⟨c, atEnd, hf, hrest⟩ := feedAll_cons_eq_ok h
    have hfirst := (feed_step hf).sameCapture hb
    cases rest with
    | nil =>
      cases hrest
      exact hfirst
    | cons l' rest =>
      rw [List.dropLast_cons_cons, anyFed_cons hf, Bool.or_eq_false_iff] at hopen
      refine hfirst.trans (ih hrest ?_ hopen.2)
      rw [isComplete_of_feed_eq hf, hb, hopen.1, Bool.or_self]

/-- The parts of a block follow one another, and each has its fields. Until the data arrival time of
the launch side has been read, no line changes the capture side, the required time or the slack.
From then on no line changes the launch side, and after the data required time of the capture side
no line changes anything but the slack. -/
theorem feedAll_fenced {line : Nat} {startpoint : List Char} {before later : List (Nat × String)}
    (hb : (start line startpoint).feedAll rules before = .ok b)
    (h : b.feedAll rules later = .ok b') :
    b.stage.rank ≤ b'.stage.rank ∧
    ((start line startpoint).anyFed rules closesLaunch (before ++ later).dropLast = false →
      SameCapture b.path b'.path) ∧
    ((start line startpoint).anyFed rules closesLaunch before = true →
      SameLaunch b.path b'.path) ∧
    ((start line startpoint).anyFed rules closesCapture before = true →
      SameUpToSlack b.path b'.path) := by
  refine ⟨rank_le_of_feedAll h, fun hopen => ?_, fun hclosed => ?_, fun hclosed => ?_⟩
  · cases later with
    | nil =>
      cases h
      exact .refl _
    | cons l rest =>
      rw [List.dropLast_append_of_ne_nil (List.cons_ne_nil l rest), anyFed_append hb,
        Bool.or_eq_false_iff] at hopen
      have hc : b.isComplete = false := by
        rw [isComplete_of_feedAll hb, hopen.1]
        rfl
      exact sameCapture_of_feedAll h hc hopen.2
  · refine sameLaunch_of_feedAll h ?_
    rw [isComplete_of_feedAll hb, hclosed, Bool.or_true]
  · refine sameUpToSlack_of_feedAll h (eq_of_beq ?_)
    rw [summary_of_feedAll hb, hclosed, Bool.or_true]

end

def tableLines : List (Nat × String) := [(2, "clk (in) 0"), (3, "ff1/CK (DFFX1) 1"),
  (4, "data arrival time 2"), (5, "clock network delay 1"), (6, "data required time 3")]

def summaryLines : List (Nat × String) :=
  [(7, "data arrival time 9"), (8, "cb/Z (BUFX2) 4"), (9, "data required time 8"), (10, "slack 1")]

theorem feedAll_fenced_repeatedRows :
    (∃ b b', (start 1 "ff1".toList).feedAll {} (tableLines.take 1) = .ok b ∧
      b.feedAll {} ((tableLines.drop 1).take 2) = .ok b' ∧ SameCapture b.path b'.path) ∧
    ∃ b b', (start 1 "ff1".toList).feedAll {} tableLines = .ok b ∧
      b.feedAll {} summaryLines = .ok b' ∧ SameLaunch b.path b'.path ∧
        SameUpToSlack b.path b'.path := by
  have hruns : ∀ before later : List (Nat × String),
      ((start 1 "ff1".toList).feedAll {} before >>= (·.feedAll {} later)).toOption.isSome →
        ∃ b b', (start 1 "ff1".toList).feedAll {} before = .ok b ∧
          b.feedAll {} later = .ok b' := by
    intro before later h
    cases hb : (start 1 "ff1".toList).feedAll {} before with
    | error e =>
      rw [hb] at h
      exact absurd h Bool.false_ne_true
    | ok b =>
      rw [hb] at h
      cases hl : b.feedAll {} later with
      | error e =>
        change (b.feedAll {} later).toOption.isSome = true at h
        rw [hl] at h
        exact absurd h Bool.false_ne_true
      | ok b' => exact ⟨b, b', rfl, hl⟩
  obtain ⟨hfirst, hopen, hsecond, hclosed, hended⟩ :
      ((start 1 "ff1".toList).feedAll {} (tableLines.take 1) >>=
        (·.feedAll {} ((tableLines.drop 1).take 2))).toOption.isSome = true ∧
      (start 1 "ff1".toList).anyFed {} closesLaunch
        (tableLines.take 1 ++ (tableLines.drop 1).take 2).dropLast = false ∧
      ((start 1 "ff1".toList).feedAll {} tableLines >>=
        (·.feedAll {} summaryLines)).toOption.isSome = true ∧
      (start 1 "ff1".toList).anyFed {} closesLaunch tableLines = true ∧
      (start 1 "ff1".toList).anyFed {} closesCapture tableLines = true := by
    decide +kernel
  obtain ⟨c, c', hc, hc'⟩ := hruns _ _ hfirst
  obtain ⟨b, b', hb, hb'⟩ := hruns _ _ hsecond
  obtain ⟨-, -, hlaunch, hslack⟩ := feedAll_fenced hb hb'
  exact ⟨⟨c, c', hc, hc', (feedAll_fenced hc hc').2.1 hopen⟩,
    b, b', hb, hb', hlaunch hclosed, hslack hended⟩

end Block

end PathTiming
