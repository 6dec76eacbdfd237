import PathTiming.Proofs.LaunchClockPin

/-! The clock pin of a path that begins at a port. If the report says that the startpoint is an
input port, there is none. If only the row of the port tells it, the clock pin stays where the pins
before that row have placed it. -/
namespace PathTiming

/-- Whether a pin is the port at which a path with this startpoint begins. -/
def Pin.isPortOf (start : String) (p : Pin) : Bool := p.isPort && p.name == start

/-- The pins before the row of the port at which a path begins. Without such a row, these are all
pins. -/
def pinsAhead (start : String) (pins : List Pin) : List Pin := pins.takeWhile (!·.isPortOf start)

section
variable (start : String)

theorem pinsAhead_of_any_eq_false {pins : List Pin} (h : pins.any (·.isPortOf start) = false) :
    pinsAhead start pins = pins :=
  List.takeWhile_eq_self_iff.mpr fun p hp => by simp [List.any_eq_false.mp h p hp]

theorem pinsAhead_concat (pins : List Pin) (p : Pin) :
    pinsAhead start (pins ++ [p]) =
      if (pins ++ [p]).any (·.isPortOf start) then pinsAhead start pins else pins ++ [p] := by
  split_ifs with hport
  · by_cases hpins : pins.any (·.isPortOf start) = true
    · obtain ⟨q, hq, hqport⟩ := List.any_eq_true.mp hpins
      unfold pinsAhead
      rw [List.takeWhile_append, if_neg fun hlength => ?_]
      have hall := List.takeWhile_eq_self_iff.mp ((List.takeWhile_prefix _).eq_of_length hlength)
      simpa [hqport] using hall q hq
    · -- The new pin is the port.
      rw [Bool.not_eq_true] at hpins
      have hp : p.isPortOf start = true := by simpa [List.any_append, hpins] using hport
      rw [pinsAhead_of_any_eq_false start hpins]
      unfold pinsAhead
      rw [List.takeWhile_append_of_pos fun q hq => by simp [List.any_eq_false.mp hpins q hq]]
      simp [hp]
  · exact pinsAhead_of_any_eq_false start (by simpa using hport)

theorem map_pinsAhead_congr {β : Type} {g : Pin → β} {pins pins' : List Pin}
    (hsites : pins.map Pin.site = pins'.map Pin.site) (hg : pins.map g = pins'.map g) :
    (pinsAhead start pins).map g = (pinsAhead start pins').map g := by
  have hindex : ∀ pins : List Pin, pins.findIdx (fun p => !!p.isPortOf start) =
      (pins.map Pin.site).findIdx fun s => !!(s.2.1 && s.1 == start) := by
    intro pins
    rw [List.findIdx_map]
    rfl
  unfold pinsAhead
  rw [List.takeWhile_eq_take_findIdx_not, List.takeWhile_eq_take_findIdx_not, List.map_take,
    List.map_take, hg, hindex, hindex, hsites]

end

namespace Block

/-- The block without the launch pins from the row of its port on. -/
def ahead (b : Block) : Block :=
  { b with path.launchPins := pinsAhead b.path.startpoint b.path.launchPins }

/-- The clock pin of a block that does not say of its startpoint that it is a port. A row of the
port keeps the clock pin where it is, unless the clock pin is fixed already. -/
structure PlacedAhead (b : Block) : Prop where
  placed : b.ahead.Placed
  port : b.startIsPort =
    (!b.clockPinFixed && b.path.launchPins.any (·.isPortOf b.path.startpoint))

section
variable {b b' : Block}

theorem PlacedAhead.congr (h : b.PlacedAhead) (hport : b'.startIsPort = b.startIsPort)
    (hstart : b'.path.startpoint = b.path.startpoint)
    (hat : b'.path.clockPinAt = b.path.clockPinAt) (hfixed : b'.clockPinFixed = b.clockPinFixed)
    (hleft : b'.leftClockNetwork = b.leftClockNetwork)
    (hsites : b'.path.launchPins.map Pin.site = b.path.launchPins.map Pin.site)
    (hkinds : b'.path.launchPins.map Pin.kind = b.path.launchPins.map Pin.kind) :
    b'.PlacedAhead := by
  constructor
  · refine h.placed.congr hstart hat hfixed hleft ?_ ?_
    · unfold ahead
      rw [hstart]
      exact map_pinsAhead_congr _ hsites hsites
    · unfold ahead
      rw [hstart]
      exact map_pinsAhead_congr _ hsites hkinds
  · have hany : ∀ pins : List Pin, pins.any (·.isPortOf b.path.startpoint) =
        (pins.map Pin.site).any fun s => s.2.1 && s.1 == b.path.startpoint := by
      intro pins
      rw [List.any_map]
      rfl
    rw [hport, hfixed, hstart, h.port, hany, hany, hsites]

theorem SamePins.placedAhead (hs : SamePins b b') (hport : b'.startIsPort = b.startIsPort)
    (h : b.PlacedAhead) : b'.PlacedAhead :=
  h.congr hport hs.startpoint hs.clockPinAt hs.clockPinFixed hs.leftClockNetwork
    (by rw [hs.launchPins]) (by rw [hs.launchPins])

theorem PlacedAhead.readNet (h : b.PlacedAhead) (row : PinRow) : (b.readNet row).PlacedAhead := by
  have hsites := (b.readNet_sites row).1
  have hkinds := (readNet_map (g := Pin.kind) (fun _ _ => rfl) b row).1
  obtain ⟨launchPins, capturePins, he⟩ := b.readNet_eq row
  rw [he] at hsites hkinds ⊢
  exact h.congr rfl rfl rfl rfl rfl hsites hkinds

/-- The row of the port and the pins behind it place no clock pin. -/
theorem PlaceStep.eq_of_port {p : Pin} {c : Block} (hstep : PlaceStep b p c)
    (hport : c.startIsPort = true) : c = { b with startIsPort := true } := by
  cases hstep with
  | port hs hp =>
    dsimp only at hport
    rw [hport]
  | start hb hp hs => cases hb.symm.trans hport
  | clock hb hp hs hc hl => cases hb.symm.trans hport
  | leave hb hp hs hc hat => cases hb.symm.trans hport
  | stay hb hp hs hl hat => cases hb.symm.trans hport

/-- Where some row of the port is known, a further pin places no clock pin. -/
theorem PlacedAhead.of_placeClockPin (h : b.PlacedAhead) (hf : b.clockPinFixed = false) {p : Pin}
    {c : Block} (hc : b.placeClockPin p = c) :
    c.startIsPort = (!c.clockPinFixed &&
        (b.path.launchPins ++ [p]).any (·.isPortOf b.path.startpoint)) ∧
      ((b.path.launchPins ++ [p]).any (·.isPortOf b.path.startpoint) = true →
        c.path.clockPinAt = b.path.clockPinAt ∧ c.clockPinFixed = b.clockPinFixed ∧
          c.leftClockNetwork = b.leftClockNetwork) := by
  have hstep := b.placeClockPin_step p
  have hport := b.placeClockPin_startIsPort p
  have hbefore := h.port
  rw [hf, Bool.not_false, Bool.true_and] at hbefore
  rw [hc] at hstep hport
  have hany : (b.path.launchPins ++ [p]).any (·.isPortOf b.path.startpoint) = c.startIsPort := by
    rw [hport, hbefore, List.any_append, List.any_cons, List.any_nil, Bool.or_false]
    rfl
  rw [hany]
  cases htold : c.startIsPort with
  | true =>
    rw [hstep.eq_of_port htold, hf]
    exact ⟨rfl, fun _ => ⟨rfl, rfl, rfl⟩⟩
  | false => exact ⟨(Bool.and_false _).symm, fun htrue => absurd htrue Bool.false_ne_true⟩

/-- The same holds if the clock pin is fixed: then no pin is looked at. -/
theorem PlacedAhead.of_place (h : b.PlacedAhead) {p : Pin} {c : Block}
    (hc : (if b.clockPinFixed then b else b.placeClockPin p) = c) :
    c.path.startpoint = b.path.startpoint ∧
      c.startIsPort = (!c.clockPinFixed &&
        (b.path.launchPins ++ [p]).any (·.isPortOf b.path.startpoint)) ∧
      ((b.path.launchPins ++ [p]).any (·.isPortOf b.path.startpoint) = true →
        c.path.clockPinAt = b.path.clockPinAt ∧ c.clockPinFixed = b.clockPinFixed ∧
          c.leftClockNetwork = b.leftClockNetwork) := by
  cases hf : b.clockPinFixed with
  | true =>
    have hport := h.port
    rw [hf, Bool.not_true, Bool.false_and] at hport
    rw [hf, if_pos rfl] at hc
    subst hc
    refine ⟨rfl, ?_, fun _ => ⟨rfl, hf, rfl⟩⟩
    rw [hport, hf]
    rfl
  | false =>
    obtain ⟨startIsPort, fixed, left, at?, hplace, -⟩ := b.placeClockPin_eq p
    rw [hf, if_neg Bool.false_ne_true] at hc
    have hplaced := h.of_placeClockPin hf hc
    rw [hf] at hplaced
    exact ⟨by rw [← hc, hplace], hplaced⟩

/-- As long as no row of the port has come, all pins count. -/
theorem PlacedAhead.placed_of_any_eq_false (h : b.PlacedAhead)
    (hnone : b.path.launchPins.any (·.isPortOf b.path.startpoint) = false) : b.Placed := by
  have hplaced := h.placed
  unfold ahead at hplaced
  rwa [pinsAhead_of_any_eq_false _ hnone] at hplaced

theorem PlacedAhead.addLaunchPin (h : b.PlacedAhead) (rules : RuleSet) (row : PinRow) (p : Pin) :
    (addLaunchPin rules b row p).PlacedAhead := by
  obtain ⟨source, holdChecks, he⟩ := addLaunchPin_place rules b row p
  generalize hc : (if b.clockPinFixed then b else b.placeClockPin p) = c at he
  obtain ⟨hstart, hport, hkept⟩ := h.of_place hc
  constructor
  · cases hany : (b.path.launchPins ++ [p]).any (·.isPortOf b.path.startpoint) with
    | true =>
      obtain ⟨hat, hfixed, hleft⟩ := hkept hany
      have hahead : pinsAhead b.path.startpoint (b.path.launchPins ++ [p]) =
          pinsAhead b.path.startpoint b.path.launchPins := by
        rw [pinsAhead_concat, if_pos hany]
      rw [he]
      refine h.placed.congr hstart hat hfixed hleft ?_ ?_
      all_goals
        unfold ahead
        dsimp only
        rw [hstart, hahead]
    | false =>
      have hnone : b.path.launchPins.any (·.isPortOf b.path.startpoint) = false := by
        rw [List.any_append, Bool.or_eq_false_iff] at hany
        exact hany.1
      have hopen : (Block.addLaunchPin rules b row p).startIsPort = false := by
        rw [he]
        dsimp only
        rw [hport, hany, Bool.and_false]
      have hall : (Block.addLaunchPin rules b row p).ahead = Block.addLaunchPin rules b row p := by
        unfold ahead
        rw [pinsAhead_of_any_eq_false]
        rw [he]
        dsimp only
        rw [hstart, hany]
      rw [hall]
      exact (h.placed_of_any_eq_false hnone).addLaunchPin rules row hopen
  · rw [he]
    dsimp only
    rw [hstart, hport]

theorem PlacedAhead.addCapturePin (h : b.PlacedAhead) (rules : RuleSet) (row : PinRow) (p : Pin) :
    (addCapturePin rules b row p).PlacedAhead := by
  obtain ⟨source, time, checks, he, -⟩ := addCapturePin_eq rules b row p
  rw [he]
  exact h.congr rfl rfl rfl rfl rfl rfl rfl

variable {rules : RuleSet} {line : Nat} {text : List Char} {atEnd : Bool}

theorem PinStep.placedAhead {row : PinRow} (hstep : PinStep rules b line row b')
    (h : b.PlacedAhead) : b'.PlacedAhead := by
  have hmoved : (b.moveTo row).PlacedAhead := (b.moveTo_samePins row).placedAhead rfl h
  cases hstep with
  | net hc => exact h.readNet row
  | launch hc hp hs => exact hmoved.addLaunchPin rules row _
  | capture hc hp hs => exact hmoved.addCapturePin rules row _

/-- Every line keeps the clock pin placed by the pins before the row of the port, unless it says of
the startpoint that it is a port. -/
theorem Step.placedAhead {l : Nat × String} (hstep : Step rules line l.2.toList b b' atEnd)
    (h : b.PlacedAhead) (htells : b.tellsPort l = false) : b'.PlacedAhead := by
  cases hstep with
  | skip => exact h
  | heading hs hb =>
    refine (readHeading?_samePins hb).placedAhead ?_ h
    obtain ⟨hopen, rfl⟩ | ⟨-, hsame⟩ := readHeading?_cases hb
    · have hinput : (b.heading == .startpoint && saysInputPort (Text.trim l.2.toList)) = false := by
        simpa [tellsPort, hs, hopen] using htells
      dsimp only
      rw [hinput, Bool.or_false]
    · exact hsame
  | tableHeader ht => exact h.congr rfl rfl rfl rfl rfl rfl rfl
  | clockEdge hs hr ht =>
    refine SamePins.placedAhead ?_ ?_ h
    · exact b.enterTable_samePins.trans (b.enterTable.readClockEdge_samePins _ _ _)
    · unfold readClockEdge
      split_ifs <;> rfl
  | labelled hs hr hb =>
    refine (b.enterTable_samePins.trans hb.samePins).placedAhead ?_ h
    cases hb <;> rfl
  | pinRow hs hr hrow hb => exact hb.placedAhead (b.enterTable_samePins.placedAhead rfl h)
  | slack hs hr ht => exact h.congr rfl rfl rfl rfl rfl rfl rfl

/-- Once it is known that the startpoint is a port, no line moves the clock pin. -/
theorem Step.clockPinAt_of_port (hstep : Step rules line text b b' atEnd)
    (hport : b.startIsPort = true) : b'.path.clockPinAt = b.path.clockPinAt := by
  obtain hsame | ⟨row, -, hb⟩ := hstep.samePins_or_pinStep
  · exact hsame.clockPinAt
  · cases hb with
    | net hc =>
      obtain ⟨launchPins, capturePins, he⟩ := b.enterTable.readNet_eq row
      rw [he]
      rfl
    | @launch p hc hp hs =>
      obtain ⟨source, holdChecks, he⟩ := addLaunchPin_place rules (b.enterTable.moveTo row) row
        (b.enterTable.atPlace row (classify rules p))
      have hopen : (b.enterTable.moveTo row).startIsPort ≠ false := by
        rw [show (b.enterTable.moveTo row).startIsPort = b.startIsPort from rfl, hport]
        exact Bool.noConfusion
      rw [he]
      split_ifs
      · rfl
      · obtain ⟨hat, -⟩ | ⟨-, hfalse⟩ := ((b.enterTable.moveTo row).placeClockPin_step
          (b.enterTable.atPlace row (classify rules p))).clockPinAt_cases
        · exact hat
        · exact absurd hfalse hopen
    | @capture p hc hp hs =>
      obtain ⟨source, time, checks, he, -⟩ := addCapturePin_eq rules (b.enterTable.moveTo row) row
        (b.enterTable.atPlace row (classify rules p))
      rw [he]
      rfl

/-- In the header of a block, no pin has come. -/
theorem Step.samePins_of_header (hstep : Step rules line text b b' atEnd)
    (hs : b'.stage = .header) : b.stage = .header ∧ SamePins b b' := by
  refine ⟨hstep.stage_eq_header hs, ?_⟩
  obtain hsame | ⟨row, -, hb⟩ := hstep.samePins_or_pinStep
  · exact hsame
  · exact absurd (hb.stage.symm.trans hs) b.enterTable_stage_ne_header

end

/-- The clock pin of a block when some lines have been read, told by what these lines say of the
startpoint. -/
structure PortPlaced (startpoint : List Char) (fed : List (Nat × String)) (b : Block) : Prop where
  known : b.StartKnown startpoint fed
  header : b.stage = .header → b.path.clockPinAt = none
  told : startTold startpoint fed = true → b.path.clockPinAt = none
  untold : startTold startpoint fed = false → b.PlacedAhead

section
variable {rules : RuleSet} {startpoint : List Char} {fed : List (Nat × String)} {b b' : Block}
  {l : Nat × String} {atEnd : Bool}

theorem PortPlaced.feed (hb : b.PortPlaced startpoint fed)
    (h : b.feed rules l.1 l.2.toList = .ok (b', atEnd)) :
    b'.PortPlaced startpoint (fed ++ [l]) := by
  have hstep := feed_step h
  constructor
  · exact hb.known.feed h
  · intro hs
    obtain ⟨hs, hsame⟩ := hstep.samePins_of_header hs
    rw [hsame.clockPinAt, hb.header hs]
  · rw [hb.known.startTold_concat, Bool.or_eq_true]
    rintro (htold | htells)
    · rw [hstep.clockPinAt_of_port (hb.known.told htold), hb.told htold]
    · rw [eq_of_feed_tellsPort h htells]
      exact hb.header (tellsPort_iff.mp htells).1.1
  · rw [hb.known.startTold_concat, Bool.or_eq_false_iff]
    rintro ⟨htold, htells⟩
    exact hstep.placedAhead (hb.untold htold) htells

theorem start_portPlaced (line : Nat) (startpoint : List Char) :
    (start line startpoint).PortPlaced startpoint [] := by
  refine ⟨start_startKnown line startpoint, fun _ => rfl, fun _ => rfl, fun htold => ?_⟩
  constructor
  · exact start_placed line startpoint
  · rw [startTold, startDescription, List.takeWhile_nil, List.map_nil, List.filter_nil,
      List.any_nil, Bool.or_false] at htold
    exact htold

end

end Block

theorem BlockText.portPlaced_of_read {rules : RuleSet} {t : BlockText} {r : BlockReading}
    (h : t.read rules = .ok r) : r.block.PortPlaced t.startpoint r.fed :=
  Block.feedLines_induction_fed h (Block.start_portPlaced t.line t.startpoint)
    fun _ _ _ _ _ hb hf => hb.feed hf

/-- The clock pin of a block that is read up to some line, told by what the whole block says. -/
theorem BlockText.clockPinAt_of_read_cut {rules : RuleSet} {u : BlockText} {p : Nat → Bool}
    {r : BlockReading} (h : (u.cut p).read rules = .ok r) :
    (u.saysInputPort = true → r.block.path.clockPinAt = none) ∧
      (u.saysInputPort = false → r.block.PlacedAhead) := by
  have hplaced := portPlaced_of_read h
  have hfed : r.fed <+: u.body := (Block.fed_of_feedLines h).1.trans (List.takeWhile_prefix _)
  constructor
  · intro hinput
    by_cases hend : ∃ l ∈ r.fed, endsStart l = true
    · exact hplaced.told ((startTold_eq_of_ended hfed hend).trans hinput)
    · -- Reading has stopped before the tables.
      have hopen : ∀ l ∈ r.fed, endsStart l = false := by simpa using hend
      exact hplaced.header (hplaced.known.waiting.mpr hopen).1
  · intro hinput
    refine hplaced.untold (Bool.eq_false_iff.mpr fun htold => ?_)
    exact Bool.eq_false_iff.mp hinput (startTold_mono hfed htold)

/-- Blocks begin one after another. -/
theorem BlockText.pairwise_divide (bound : Option Nat) {lines : List (Nat × String)}
    (hs : lines.Pairwise (·.1 < ·.1)) : (divide bound lines).Pairwise (·.line < ·.line) := by
  induction lines with
  | nil => exact List.Pairwise.nil
  | cons l rest ih =>
    obtain ⟨hl, hrest⟩ := List.pairwise_cons.mp hs
    unfold divide
    split
    · exact ih hrest
    · refine List.Pairwise.cons (fun t ht => ?_) (ih hrest)
      exact hl _ (subset_of_mem_divide ht List.mem_cons_self)

/-- The line of a block tells it from all others of a report. -/
theorem ScanRange.eq_of_mem_whole_blocks {file : SourceFile} {t u : BlockText}
    (ht : t ∈ whole.blocks file) (hu : u ∈ whole.blocks file) (hline : t.line = u.line) :
    t = u := by
  rw [whole_blocks] at ht hu
  have hsorted := BlockText.pairwise_divide (some file.lineCount) (pairwise_numbered 1 file.lines)
  refine List.inj_on_of_nodup_map ?_ ht hu hline
  exact List.pairwise_map.mpr (hsorted.imp Nat.ne_of_lt)

namespace TimingPath

/-- The report says of the startpoint of a path that it is an input port, in the line of the
startpoint or in the description that follows in parentheses. -/
def SaysInputPort (file : SourceFile) (p : TimingPath) : Prop :=
  ∃ t ∈ ScanRange.whole.blocks file, t.line = p.line ∧ t.saysInputPort = true

instance (file : SourceFile) (p : TimingPath) : Decidable (p.SaysInputPort file) :=
  inferInstanceAs (Decidable (∃ t ∈ ScanRange.whole.blocks file, _))

/-- The path has no clock pin, so that all its launch pins count as data path. -/
structure LacksClockPin (p : TimingPath) : Prop where
  clockPinAt : p.clockPinAt = none
  launchClockPins : p.launchClockPins = []
  dataPins : p.dataPins = p.launchPins

theorem lacksClockPin_iff {p : TimingPath} : p.LacksClockPin ↔ p.clockPinAt = none := by
  refine ⟨LacksClockPin.clockPinAt, fun hnone => ⟨hnone, ?_, ?_⟩⟩
  · rw [launchClockPins, hnone]
  · rw [dataPins, hnone]

end TimingPath

theorem startPinAt?_eq_none_iff {start : String} {pins : List Pin} :
    startPinAt? start pins = none ↔ ∀ p ∈ pins, p.isStartOf start = false :=
  List.findIdx?_eq_none_iff

namespace Report

section
variable {r : Report} {file : SourceFile} {ranges : List ScanRange} {p : TimingPath}

theorem clockPinAt_ahead_of_mem_read
    (hp : p ∈ (r.read file ranges).report.paths.drop r.paths.length) :
    (p.SaysInputPort file → p.clockPinAt = none) ∧
      (¬ p.SaysInputPort file → p.clockPinAt =
        (startPinAt? p.startpoint (pinsAhead p.startpoint p.launchPins)).or
          (networkEnd? (pinsAhead p.startpoint p.launchPins))) := by
  obtain ⟨range, -, t, ht, reading, hread, rfl⟩ := exists_block_of_mem_read hp
  rw [ScanRange.blocks_eq_map_cut] at ht
  obtain ⟨u, hu, rfl⟩ := List.mem_map.mp ht
  have hu := List.mem_of_mem_filter hu
  have hline : reading.block.path.line = u.line := (BlockText.path_line_of_read hread :)
  obtain ⟨hsaid, hunsaid⟩ := BlockText.clockPinAt_of_read_cut hread
  rw [Block.finish_eq]
  constructor
  · rintro ⟨v, hv, hat, hinput⟩
    rw [ScanRange.eq_of_mem_whole_blocks hv hu (hat.trans hline)] at hinput
    exact hsaid hinput
  · intro hinput
    have hinput : u.saysInputPort = false :=
      Bool.eq_false_iff.mpr fun h => hinput ⟨u, hu, hline.symm, h⟩
    exact (hunsaid hinput).placed.clockPinAt

/-- If a report says of a startpoint that it is an input port, the path has no clock pin. If it does
not, the clock pin is told by the pins before the row of the port: the first pin of the startpoint
among them, or else the last one of their first run of clock pins. So the path has no clock pin just
when none of them is a pin of the startpoint or a clock pin. -/
theorem clockPin_of_portStart
    (hp : p ∈ (r.read file ranges).report.paths.drop r.paths.length) :
    (p.SaysInputPort file → p.LacksClockPin) ∧
    (¬ p.SaysInputPort file →
      p.clockPinAt = (startPinAt? p.startpoint (pinsAhead p.startpoint p.launchPins)).or
        (networkEnd? (pinsAhead p.startpoint p.launchPins)) ∧
      (p.LacksClockPin ↔ ∀ pin ∈ pinsAhead p.startpoint p.launchPins, pin.isPort = false →
        pin.isStartOf p.startpoint = false ∧ r.rules.isClockPin pin.name pin.cell = false)) := by
  obtain ⟨hsaid, hunsaid⟩ := clockPinAt_ahead_of_mem_read hp
  refine ⟨fun hinput => TimingPath.lacksClockPin_iff.mpr (hsaid hinput), fun hinput => ?_⟩
  have hat := hunsaid hinput
  have hclock : ∀ pin ∈ pinsAhead p.startpoint p.launchPins,
      pin.isClock = r.rules.isClockPin pin.name pin.cell := fun pin hpin =>
    classifiedBy_of_mem_read hp pin ((List.takeWhile_prefix _).subset hpin)
  refine ⟨hat, ?_⟩
  rw [TimingPath.lacksClockPin_iff, hat, Option.or_eq_none_iff, startPinAt?_eq_none_iff,
    networkEnd?_eq_none_iff]
  constructor
  · rintro ⟨hstart, hnetwork⟩ pin hpin hport
    exact ⟨hstart pin hpin, by rw [← hclock pin hpin, hnetwork pin hpin hport]⟩
  · intro h
    refine ⟨fun pin hpin => ?_, fun pin hpin hport => ?_⟩
    · cases hport : pin.isPort with
      | true => simp [Pin.isStartOf, hport]
      | false => exact (h pin hpin hport).1
    · rw [hclock pin hpin, (h pin hpin hport).2]

end

/-- A report whose port has its row behind that of a clock buffer. -/
def latePort : SourceFile :=
  .ofText ⟨0⟩ "late_port" ("Startpoint: in1\ncb/Z (CKBUFX4) 1\nin1 (in) 2\nu1/Z (BUFX2) 3\n" ++
    "data arrival time 3\n")

/-- A report under rules that count the clock buffer to the clock network. -/
def bufferReport : Report := { rules := { clockPins := { cells := ["CKBUFX4"] } } }

theorem exists_path_latePort :
    ∃ p ∈ (bufferReport.read latePort [.whole]).report.paths.drop bufferReport.paths.length,
      p.BeginsAtPort latePort ∧ ¬ p.SaysInputPort latePort ∧
        startPinAt? p.startpoint (pinsAhead p.startpoint p.launchPins) = none ∧
        networkEnd? (pinsAhead p.startpoint p.launchPins) = some 0 ∧
        p.clockPinAt.isSome = true := by
  have hfirst : (bufferReport.read latePort [.whole]).report.paths[0]?.map
      (fun p => (decide (p.BeginsAtPort latePort), decide (p.SaysInputPort latePort),
        startPinAt? p.startpoint (pinsAhead p.startpoint p.launchPins),
        networkEnd? (pinsAhead p.startpoint p.launchPins), p.clockPinAt.isSome)) =
      some (true, false, none, some 0, true) := by
    rw [latePort, SourceFile.ofText_append rfl rfl]
    decide +kernel
  obtain ⟨p, hp, hfacts⟩ := exists_added_of_first rfl hfirst
  simp only [Prod.mk.injEq, decide_eq_true_eq, decide_eq_false_iff_not] at hfacts
  exact ⟨p, hp, hfacts⟩

theorem clockPin_of_portStart_latePort :
    ∃ p ∈ (bufferReport.read latePort [.whole]).report.paths.drop bufferReport.paths.length,
      p.BeginsAtPort latePort ∧ ¬ p.SaysInputPort latePort ∧
        networkEnd? (pinsAhead p.startpoint p.launchPins) = some 0 ∧ p.clockPinAt = some 0 := by
  obtain ⟨p, hp, hport, hinput, hstart, hend, -⟩ := exists_path_latePort
  have hat := ((clockPin_of_portStart hp).2 hinput).1
  rw [hstart, hend] at hat
  exact ⟨p, hp, hport, hinput, hend, hat⟩

/-- A path can begin at a port and have a clock pin: a clock buffer that comes before the row of the
port has placed it, and the row does not take it back. -/
theorem clockPin_before_port :
    ¬ ∀ (r : Report) (file : SourceFile) (ranges : List ScanRange),
      ∀ p ∈ (r.read file ranges).report.paths.drop r.paths.length,
        p.BeginsAtPort file → p.LacksClockPin := by
  intro h
  obtain ⟨p, hp, hport, -, -, -, hat⟩ := exists_path_latePort
  rw [(h bufferReport latePort [.whole] p hp hport).clockPinAt] at hat
  cases hat

end Report

end PathTiming
