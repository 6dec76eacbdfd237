import Mathlib.Data.List.Induction
import PathTiming.Proofs.ParsedPath

/-! What the rules say of the pins of a path. All of it can be found again from the pins that the
path has in the end: the class of each pin, and the delays of the labelled arcs between
neighbours. -/
namespace PathTiming

/-- The pin is classified as the rules say: by its name and cell, and the drive by the cell of a
library pin. -/
structure Pin.Classified (rules : RuleSet) (p : Pin) : Prop where
  isClock : p.isClock = rules.isClockPin p.name p.cell
  drive : p.drive = if p.isPort then none else rules.drive.strength? p.cell

/-- The label of the way from a pin to the next one, which must be on the same instance. -/
def arcLabel? (rules : RuleSet) (q p : Pin) : Option String :=
  if p.inst ≠ "" ∧ q.inst = p.inst then rules.holdCheck? p.cell q.shortName p.shortName else none

/-- The label of the way from a pin to the next one, with the delay of that one. -/
def labelledArc? (rules : RuleSet) (q p : Pin) : Option (String × Float) :=
  (arcLabel? rules q p).map (·, p.increment)

def labelledArcs (rules : RuleSet) (pins : List Pin) : List (String × Float) :=
  (pins.zip pins.tail).filterMap fun (q, p) => labelledArc? rules q p

def addArc (totals : Keyed String Float) (arc : String × Float) : Keyed String Float :=
  totals.alter arc.1 fun total => total.getD 0 + arc.2

def arcTotals (arcs : List (String × Float)) : Keyed String Float := arcs.foldl addArc {}

/-- The delays of the arcs with a label, added up in order. -/
def arcSum (arcs : List (String × Float)) (label : String) : Float :=
  ((arcs.filter (·.1 = label)).map (·.2)).foldl (· + ·) 0

section
variable (arcs : List (String × Float)) (arc : String × Float)

theorem arcSum_concat (label : String) : arcSum (arcs ++ [arc]) label =
    if arc.1 = label then arcSum arcs label + arc.2 else arcSum arcs label := by
  unfold arcSum
  rw [List.filter_append, List.map_append, List.foldl_append]
  by_cases hlabel : arc.1 = label <;> simp [hlabel]

variable {arcs} in
theorem arcSum_of_notMem {label : String} (h : label ∉ arcs.map (·.1)) :
    arcSum arcs label = 0 := by
  have hnone : arcs.filter (·.1 = label) = [] := by
    rw [List.filter_eq_nil_iff]
    intro arc harc hlabel
    exact h (List.mem_map.mpr ⟨arc, harc, by simpa using hlabel⟩)
  rw [arcSum, hnone]
  rfl

/-- Later arcs are added to the totals of the earlier ones. -/
theorem arcTotals_append (later : List (String × Float)) :
    arcTotals (arcs ++ later) = later.foldl addArc (arcTotals arcs) :=
  List.foldl_append

/-- The labels stand in the order in which they occur first. -/
theorem keys_arcTotals : (arcTotals arcs).keys = (arcs.map (·.1)).eraseDups := by
  induction arcs using List.reverseRecOn with
  | nil => rfl
  | append_singleton arcs arc ih =>
    rw [arcTotals_append, List.foldl_cons, List.foldl_nil, addArc, Keyed.keys_alter, ih,
      List.map_append, List.map_singleton, Keyed.eraseDups_concat]

/-- The total of a label is the sum of the delays of its arcs. -/
theorem get?_arcTotals (label : String) :
    (arcTotals arcs).get? label =
      if label ∈ arcs.map (·.1) then some (arcSum arcs label) else none := by
  induction arcs using List.reverseRecOn with
  | nil => rfl
  | append_singleton arcs arc ih =>
    rw [arcTotals_append, List.foldl_cons, List.foldl_nil, addArc, Keyed.get?_alter, arcSum_concat]
    by_cases hlabel : arc.1 = label
    · subst hlabel
      have hold : ((arcTotals arcs).get? arc.1).getD 0 = arcSum arcs arc.1 := by
        rw [ih]
        split_ifs with hmem
        · rfl
        · exact (arcSum_of_notMem hmem).symm
      rw [if_pos rfl, if_pos rfl, if_pos (by simp), hold]
    · have hmem : label ∈ (arcs ++ [arc]).map (·.1) ↔ label ∈ arcs.map (·.1) := by
        rw [List.map_append, List.mem_append, List.map_singleton, List.mem_singleton]
        exact or_iff_left (Ne.symm hlabel)
      rw [if_neg hlabel, if_neg hlabel, ih]
      exact (if_congr hmem rfl rfl).symm

end

section
variable (rules : RuleSet)

theorem noteHoldCheck_eq (totals : Keyed String Float) (before : Option Pin) (p : Pin) :
    Block.noteHoldCheck rules totals before p =
      ((before.bind fun q => labelledArc? rules q p).toList).foldl addArc totals := by
  unfold Block.noteHoldCheck labelledArc? arcLabel?
  cases before with
  | none => rfl
  | some q =>
    by_cases hi : p.inst.isEmpty ∨ q.inst ≠ p.inst
    · have hno : ¬ (p.inst ≠ "" ∧ q.inst = p.inst) := by
        rw [String.isEmpty_iff] at hi
        tauto
      dsimp only
      rw [if_pos hi, Option.bind_some, if_neg hno]
      rfl
    · have hyes : p.inst ≠ "" ∧ q.inst = p.inst := by
        rw [String.isEmpty_iff] at hi
        tauto
      dsimp only
      rw [if_neg hi, Option.bind_some, if_pos hyes]
      cases rules.holdCheck? p.cell q.shortName p.shortName <;> rfl

@[simp] theorem labelledArcs_nil : labelledArcs rules [] = [] := rfl

/-- A last pin adds the arc that leads to it. -/
theorem labelledArcs_concat (pins : List Pin) (p : Pin) :
    labelledArcs rules (pins ++ [p]) = labelledArcs rules pins ++
      (pins.getLast?.bind fun q => labelledArc? rules q p).toList := by
  unfold labelledArcs
  cases pins with
  | nil => rfl
  | cons q pins =>
    induction pins generalizing q with
    | nil => cases h : labelledArc? rules q p <;> simp [h]
    | cons r pins ih =>
      have hrest := ih r
      simp only [List.cons_append, List.tail_cons, List.zip_cons_cons, List.filterMap_cons,
        List.getLast?_cons_cons] at hrest ⊢
      cases labelledArc? rules q r <;> simp only [hrest, List.cons_append]

/-- Arcs do not depend on capacitances. -/
theorem labelledArcs_congr {pins pins' : List Pin}
    (h : pins.map (fun p => { p with cap := 0 }) = pins'.map (fun p => { p with cap := 0 })) :
    labelledArcs rules pins = labelledArcs rules pins' := by
  have hmap : ∀ pins : List Pin, labelledArcs rules pins =
      labelledArcs rules (pins.map fun p => { p with cap := 0 }) := by
    intro pins
    unfold labelledArcs
    rw [← List.map_tail, List.zip_map, List.filterMap_map]
    rfl
  rw [hmap pins, h, ← hmap pins']

end

namespace Block

def Classified (rules : RuleSet) (b : Block) : Prop :=
  ∀ p ∈ b.path.launchPins ++ b.path.capturePins, p.Classified rules

/-- The totals of a block are those of the arcs between its pins. -/
structure ArcsCounted (rules : RuleSet) (b : Block) : Prop where
  holdChecks : b.path.holdChecks =
    arcTotals (labelledArcs rules b.path.launchPins ++ labelledArcs rules b.path.capturePins)
  /-- No pin comes to the launch side any more once there is one on the capture side. -/
  closed : b.path.capturePins ≠ [] → b.isComplete = true

section
variable {rules : RuleSet} {b b' : Block} {line : Nat}

theorem classified_atPlace_classify (b : Block) (row : PinRow) (p : Pin) :
    (b.atPlace row (classify rules p)).Classified rules := by
  unfold atPlace
  cases row.location <;> exact ⟨rfl, rfl⟩

theorem SamePins.classified (hs : SamePins b b') (h : b.Classified rules) :
    b'.Classified rules := by
  unfold Classified
  rwa [hs.launchPins, hs.capturePins]

theorem PinStep.classified {row : PinRow} (hstep : PinStep rules b line row b')
    (h : b.Classified rules) : b'.Classified rules := by
  cases hstep with
  | net hc =>
    -- capacitances have no part in the classes, so the same pins are classified
    obtain ⟨hlaunch, hcapture⟩ :=
      readNet_map (g := fun p : Pin => p.Classified rules) (fun p cap => by
        exact propext ⟨fun hp => ⟨hp.isClock, hp.drive⟩, fun hp => ⟨hp.isClock, hp.drive⟩⟩) b row
    intro p hp
    have hmem := List.mem_map_of_mem (f := fun p : Pin => p.Classified rules) hp
    rw [List.map_append, hlaunch, hcapture, ← List.map_append] at hmem
    obtain ⟨q, hq, he⟩ := List.mem_map.mp hmem
    rw [← he]
    exact h q hq
  | @launch p hc hp hs =>
    obtain ⟨_, _, _, _, _, _, he, -⟩ := addLaunchPin_eq rules (b.moveTo row) row
      (b.atPlace row (classify rules p))
    rw [he]
    intro q hq
    rcases List.mem_append.mp hq with hq | hq
    · rcases List.mem_append.mp hq with hq | hq
      · exact h q (List.mem_append_left _ hq)
      · rw [List.mem_singleton.mp hq]
        exact classified_atPlace_classify b row p
    · exact h q (List.mem_append_right _ hq)
  | @capture p hc hp hs =>
    obtain ⟨_, _, _, he, -⟩ := addCapturePin_eq rules (b.moveTo row) row
      (b.atPlace row (classify rules p))
    rw [he]
    intro q hq
    rcases List.mem_append.mp hq with hq | hq
    · exact h q (List.mem_append_left _ hq)
    · rcases List.mem_append.mp hq with hq | hq
      · exact h q (List.mem_append_right _ hq)
      · rw [List.mem_singleton.mp hq]
        exact classified_atPlace_classify b row p

theorem addLaunchPin_holdChecks (rules : RuleSet) (b : Block) (row : PinRow) (p : Pin) :
    (addLaunchPin rules b row p).path.holdChecks =
      noteHoldCheck rules b.path.holdChecks b.path.launchPins.getLast? p := by
  unfold addLaunchPin
  split_ifs
  · rfl
  · obtain ⟨_, _, _, _, hplace, -⟩ := b.placeClockPin_eq p
    obtain ⟨_, hnote, -⟩ := (b.placeClockPin p).noteLaunchSource_eq row
    rw [hnote, hplace]

theorem addCapturePin_holdChecks (rules : RuleSet) (b : Block) (row : PinRow) (p : Pin) :
    (addCapturePin rules b row p).path.holdChecks =
      noteHoldCheck rules b.path.holdChecks b.path.capturePins.getLast? p := by
  unfold addCapturePin
  by_cases hg : row.isGenerated = true <;> by_cases hc : b.crprSeen = true <;>
    simp only [hg, hc, if_true, if_false, Bool.false_eq_true]

theorem SamePins.arcsCounted (hs : SamePins b b')
    (hclosed : b.isComplete = true → b'.isComplete = true) (h : b.ArcsCounted rules) :
    b'.ArcsCounted rules := by
  constructor
  · rw [hs.holdChecks, hs.launchPins, hs.capturePins]
    exact h.holdChecks
  · rw [hs.capturePins]
    exact fun hne => hclosed (h.closed hne)

theorem PinStep.arcsCounted {row : PinRow} (hstep : PinStep rules b line row b')
    (h : b.ArcsCounted rules) (hs : b.stage ≠ .header) : b'.ArcsCounted rules := by
  have hcomplete : b'.isComplete = b.isComplete := by
    unfold isComplete
    rw [hstep.stage]
  cases hstep with
  | net hc =>
    obtain ⟨hlaunch, hcapture⟩ :=
      readNet_map (g := fun p => { p with cap := 0 }) (fun _ _ => rfl) b row
    obtain ⟨launchPins, capturePins, he⟩ := b.readNet_eq row
    rw [he] at hlaunch hcapture hcomplete ⊢
    constructor
    · dsimp only
      rw [labelledArcs_congr rules hlaunch, labelledArcs_congr rules hcapture]
      exact h.holdChecks
    · intro hne
      refine hcomplete.trans (h.closed fun hnil => hne ?_)
      rw [hnil] at hcapture
      exact List.map_eq_nil_iff.mp hcapture
  | @launch p hc hp hs' =>
    have hnone := capturePins_eq_nil_of_launch h.closed hs'
    have hchecks := addLaunchPin_holdChecks rules (b.moveTo row) row
      (b.atPlace row (classify rules p))
    obtain ⟨_, _, _, _, _, _, he, -⟩ := addLaunchPin_eq rules (b.moveTo row) row
      (b.atPlace row (classify rules p))
    rw [he] at hchecks ⊢
    constructor
    · refine hchecks.trans ?_
      rw [noteHoldCheck_eq]
      dsimp only [moveTo]
      rw [h.holdChecks, hnone, labelledArcs_concat, labelledArcs_nil, List.append_nil,
        List.append_nil, arcTotals_append]
    · exact fun hne => absurd hnone hne
  | @capture p hc hp hs' =>
    have hchecks := addCapturePin_holdChecks rules (b.moveTo row) row
      (b.atPlace row (classify rules p))
    obtain ⟨_, _, _, he, -⟩ := addCapturePin_eq rules (b.moveTo row) row
      (b.atPlace row (classify rules p))
    rw [he] at hchecks hcomplete ⊢
    constructor
    · refine hchecks.trans ?_
      rw [noteHoldCheck_eq]
      dsimp only [moveTo]
      rw [h.holdChecks, labelledArcs_concat, ← List.append_assoc]
      exact (arcTotals_append _ _).symm
    · refine fun _ => hcomplete.trans ?_
      rw [isComplete_iff]
      cases hstage : b.stage <;> simp_all

theorem Step.classified {text : List Char} {atEnd : Bool}
    (hstep : Step rules line text b b' atEnd) (h : b.Classified rules) : b'.Classified rules := by
  obtain hsame | ⟨row, -, hb⟩ := hstep.samePins_or_pinStep
  · exact hsame.classified h
  · exact hb.classified (b.enterTable_samePins.classified h)

/-- Every line of a report keeps the totals those of the pins. -/
theorem Step.arcsCounted {text : List Char} {atEnd : Bool}
    (hstep : Step rules line text b b' atEnd) (h : b.ArcsCounted rules) :
    b'.ArcsCounted rules := by
  obtain hsame | ⟨row, -, hb⟩ := hstep.samePins_or_pinStep
  · exact hsame.arcsCounted hstep.isComplete_of_isComplete h
  · refine hb.arcsCounted (b.enterTable_samePins.arcsCounted (fun hc => ?_) h)
      b.enterTable_stage_ne_header
    rwa [enterTable_isComplete]

end

end Block

section
variable {rules : RuleSet} {t : BlockText} {reading : BlockReading}

theorem BlockText.classified_of_read (h : t.read rules = .ok reading) :
    reading.block.Classified rules :=
  Block.feedLines_induction (P := (·.Classified rules)) h (fun _ hp => by cases hp)
    fun _ _ _ _ _ hb hf => (Block.feed_step hf).classified hb

theorem BlockText.arcsCounted_of_read (h : t.read rules = .ok reading) :
    reading.block.ArcsCounted rules :=
  Block.feedLines_induction (P := (·.ArcsCounted rules)) h ⟨rfl, fun hne => absurd rfl hne⟩
    fun _ _ _ _ _ hb hf => (Block.feed_step hf).arcsCounted hb

end

namespace Report

section
variable {r : Report} {file : SourceFile} {ranges : List ScanRange} {p : TimingPath}

theorem classified_of_mem_read
    (hp : p ∈ (r.read file ranges).report.paths.drop r.paths.length) :
    ∀ pin ∈ p.launchPins ++ p.capturePins, pin.Classified r.rules := by
  obtain ⟨range, -, t, ht, reading, hread, rfl⟩ := exists_block_of_mem_read hp
  rw [Block.finish_eq]
  exact BlockText.classified_of_read hread

theorem holdChecks_of_mem_read
    (hp : p ∈ (r.read file ranges).report.paths.drop r.paths.length) :
    p.holdChecks =
      arcTotals (labelledArcs r.rules p.launchPins ++ labelledArcs r.rules p.capturePins) := by
  obtain ⟨range, -, t, ht, reading, hread, rfl⟩ := exists_block_of_mem_read hp
  rw [Block.finish_eq]
  exact (BlockText.arcsCounted_of_read hread).holdChecks

/-- The class of every pin and the totals of the labelled arcs can be found again from the pins of
a path. The launch side has its arcs and the capture side its own; no arc goes from one to the
other. -/
theorem classification_of_read
    (hp : p ∈ (r.read file ranges).report.paths.drop r.paths.length) :
    (∀ pin ∈ p.launchPins ++ p.capturePins,
      pin.isClock = r.rules.isClockPin pin.name pin.cell ∧
      pin.drive = if pin.isPort then none else r.rules.drive.strength? pin.cell) ∧
    p.holdChecks =
      arcTotals (labelledArcs r.rules p.launchPins ++ labelledArcs r.rules p.capturePins) ∧
    p.holdChecks.keys =
      ((labelledArcs r.rules p.launchPins ++ labelledArcs r.rules p.capturePins).map
        (·.1)).eraseDups ∧
    ∀ label ∈ p.holdChecks.keys, p.holdChecks.get? label =
      some (arcSum (labelledArcs r.rules p.launchPins ++ labelledArcs r.rules p.capturePins)
        label) := by
  have hchecks := holdChecks_of_mem_read hp
  refine ⟨fun pin hpin => ?_, hchecks, ?_, fun label hlabel => ?_⟩
  · have hpin := classified_of_mem_read hp pin hpin
    exact ⟨hpin.isClock, hpin.drive⟩
  · rw [hchecks, keys_arcTotals]
  · rw [hchecks, keys_arcTotals, List.mem_eraseDups] at hlabel
    rw [hchecks, get?_arcTotals, if_pos hlabel]

end

/-- Rules with a label for the arc of a flip-flop. -/
def flipFlopRules : RuleSet where
  holdChecks := ({} : HoldChecks).insert ⟨"DFFX1", "CK", "Q"⟩ "ckq"

/-- A report with the arc of a flip-flop on both sides, and a net between the pins of the first. -/
def twoArcs : SourceFile :=
  .ofText ⟨0⟩ "two_arcs" ("Startpoint: ff1\nEndpoint: ff2\nff1/CK (DFFX1) 0 0\nn1 (net) 1\n" ++
    "ff1/Q (DFFX1) 2 2\nff2/D (DFFX1) 1 3\ndata arrival time 3\n" ++
    "div/CK (DFFX1) 1 1\ndiv/Q (DFFX1) 2 3\nff2/CK (DFFX1) 1 4\n")

theorem classification_of_read_twoArcs :
    ∃ p ∈ (({ rules := flipFlopRules } : Report).read twoArcs [.whole]).report.paths.drop
        ({ rules := flipFlopRules } : Report).paths.length,
      p.holdChecks.keys = ["ckq"] ∧
        p.holdChecks = arcTotals (labelledArcs flipFlopRules p.launchPins ++
          labelledArcs flipFlopRules p.capturePins) := by
  have hfirst : (({ rules := flipFlopRules } : Report).read twoArcs
      [.whole]).report.paths[0]?.map (·.holdChecks.keys) = some ["ckq"] := by
    rw [twoArcs, SourceFile.ofText_append₃ rfl rfl rfl]
    decide +kernel
  obtain ⟨p, hmem, hkeys⟩ := exists_added_of_first rfl hfirst
  exact ⟨p, hmem, hkeys, (classification_of_read hmem).2.1⟩

end Report

end PathTiming
