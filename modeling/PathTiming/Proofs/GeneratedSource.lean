import Mathlib.Data.Nat.SuccPred
import PathTiming.Proofs.ClockPlacement

/-! Which source of a generated clock a path names. On the launch side, sources are noted while the
clock pin still moves, so a source can be passed over. -/
namespace PathTiming

/-- The last place that satisfies `P`, if there is one. -/
def IsLast (P : Nat → Prop) : Option Nat → Prop
  | some g => IsGreatest {i | P i} g
  | none => ∀ i, ¬ P i

section
variable {P Q : Nat → Prop} {o : Option Nat}

theorem IsLast.congr (h : IsLast P o) (hQ : ∀ i, Q i ↔ P i) : IsLast Q o := by
  obtain rfl : Q = P := funext fun i => propext (hQ i)
  exact h

/-- When a place comes behind all others, it is the last if it counts. -/
theorem IsLast.concat (h : IsLast P o) {n : Nat} (hlt : ∀ i, P i → i < n) {counts : Bool}
    (hQ : ∀ i, Q i ↔ P i ∨ i = n ∧ counts = true) :
    IsLast Q (if counts then some n else o) := by
  cases counts with
  | false =>
    exact h.congr fun i => by simp [hQ]
  | true =>
    rw [if_pos rfl]
    refine ⟨(hQ n).mpr (.inr ⟨rfl, rfl⟩), fun i hi => ?_⟩
    obtain hP | ⟨rfl, -⟩ := (hQ i).mp hi
    · exact Nat.le_of_lt (hlt i hP)
    · exact Nat.le_refl i

/-- The last place of some is the last of all just when the last of all is one of them. -/
theorem IsLast.iff_of_and {R : Nat → Prop} {s : Nat} (h : IsLast (fun i => P i ∧ R i) o)
    (hle : ∀ i, P i → i ≤ s) : IsLast P o ↔ ∀ g, IsGreatest {i | P i} g → R g := by
  constructor
  · intro hP g hg
    cases o with
    | none => exact absurd hg.1 (hP g)
    | some g' =>
      obtain rfl : g' = g := IsGreatest.unique hP hg
      exact h.1.2
  · intro hR
    by_cases hex : ∃ i, P i
    · obtain ⟨g, hg⟩ := BddAbove.exists_isGreatest_of_nonempty (X := Nat) (S := {i | P i})
        ⟨s, fun i hi => hle i hi⟩ hex
      cases o with
      | none => exact absurd ⟨hg.1, hR g hg⟩ (h g)
      | some g' =>
        have hle' : g ≤ g' := h.2 ⟨hg.1, hR g hg⟩
        exact ⟨h.1.1, fun i hi => Nat.le_trans (hg.2 hi) hle'⟩
    · cases o with
      | none => exact fun i hi => hex ⟨i, hi⟩
      | some g => exact absurd ⟨g, h.1.1⟩ hex

end

/-- Whether the row on a line names the source of a generated clock. -/
def SourceFile.marksSource (file : SourceFile) (line : Nat) : Bool :=
  (file.line? line).any fun text =>
    match PinRow.ofLine? line text.toList with
    | .ok (some row) => row.isGenerated
    | .ok none | .error _ => false

/-- The row of a pin names the source of a generated clock. -/
def SourceAt (file : SourceFile) (pins : List Pin) (i : Nat) : Prop :=
  ∃ pin ∈ pins[i]?, file.marksSource pin.line = true

instance (file : SourceFile) (pins : List Pin) (i : Nat) : Decidable (SourceAt file pins i) :=
  inferInstanceAs (Decidable (∃ pin ∈ pins[i]?, _))

/-- When a pin is read, the first run of clock pins has ended before it. -/
def PassedOver (pins : List Pin) (i : Nat) : Prop :=
  ∃ s ∈ networkEnd? (pins.take (i + 1)), s < i

instance (pins : List Pin) (i : Nat) : Decidable (PassedOver pins i) :=
  inferInstanceAs (Decidable (∃ s ∈ networkEnd? (pins.take (i + 1)), _))

/-- A source on the launch side that is noted, when the clock pin is at `clockPinAt`. -/
def Noted (file : SourceFile) (pins : List Pin) (clockPinAt : Option Nat) (i : Nat) : Prop :=
  SourceAt file pins i ∧ ∀ s ∈ clockPinAt, i ≤ s ∧ (i = s ∨ ¬ PassedOver pins i)

section
variable {file : SourceFile} {pins pins' : List Pin} {p : Pin} {i s : Nat}

theorem SourceAt.lt_length (h : SourceAt file pins i) : i < pins.length := by
  obtain ⟨pin, hpin, -⟩ := h
  exact (List.getElem?_eq_some_iff.mp hpin).1

theorem sourceAt_congr (h : pins.map Pin.site = pins'.map Pin.site) (i : Nat) :
    SourceAt file pins i ↔ SourceAt file pins' i := by
  have hsite : ∀ pins : List Pin, SourceAt file pins i ↔
      ∃ site ∈ (pins.map Pin.site)[i]?, file.marksSource site.2.2 = true := by
    intro pins
    rw [List.getElem?_map]
    simp [SourceAt, Pin.site]
  rw [hsite, hsite, h]

theorem sourceAt_concat (i : Nat) : SourceAt file (pins ++ [p]) i ↔
    SourceAt file pins i ∨ i = pins.length ∧ file.marksSource p.line = true := by
  unfold SourceAt
  rcases Nat.lt_trichotomy i pins.length with hlt | rfl | hgt
  · rw [List.getElem?_append_left hlt]
    simp [hlt.ne]
  · simp
  · have hlong : (pins ++ [p]).length ≤ i := by simpa using Nat.succ_le_of_lt hgt
    rw [List.getElem?_eq_none hlong, List.getElem?_eq_none hgt.le]
    simp [hgt.ne']

theorem passedOver_congr (h : pins.map Pin.kind = pins'.map Pin.kind) (i : Nat) :
    PassedOver pins i ↔ PassedOver pins' i := by
  have htake : (pins.take (i + 1)).map Pin.kind = (pins'.take (i + 1)).map Pin.kind := by
    rw [List.map_take, List.map_take, h]
  unfold PassedOver
  rw [(network_congr htake).1]

theorem passedOver_concat (hi : i < pins.length) :
    PassedOver (pins ++ [p]) i ↔ PassedOver pins i := by
  unfold PassedOver
  rw [List.take_append_of_le_length hi]

theorem noted_congr (hsites : pins.map Pin.site = pins'.map Pin.site)
    (hkinds : pins.map Pin.kind = pins'.map Pin.kind) (clockPinAt : Option Nat) (i : Nat) :
    Noted file pins clockPinAt i ↔ Noted file pins' clockPinAt i := by
  unfold Noted
  rw [sourceAt_congr hsites, passedOver_congr hkinds]

/-- Behind the clock pin, no source is noted. -/
theorem noted_concat_of_lt (hs : s < pins.length) (i : Nat) :
    Noted file (pins ++ [p]) (some s) i ↔ Noted file pins (some s) i := by
  unfold Noted
  rw [sourceAt_concat]
  constructor
  · rintro ⟨hsource, hat⟩
    obtain ⟨hle, hkept⟩ := hat s rfl
    have hlt : i < pins.length := Nat.lt_of_le_of_lt hle hs
    rw [passedOver_concat hlt] at hkept
    exact ⟨hsource.resolve_right fun hi => hlt.ne hi.1, by simpa using ⟨hle, hkept⟩⟩
  · rintro ⟨hsource, hat⟩
    obtain ⟨hle, hkept⟩ := hat s rfl
    rw [← passedOver_concat (Nat.lt_of_le_of_lt hle hs)] at hkept
    exact ⟨.inl hsource, by simpa using ⟨hle, hkept⟩⟩

theorem noted_none (i : Nat) : Noted file pins none i ↔ SourceAt file pins i := by
  simp [Noted]

/-- From the end of the network on, all pins behind it are passed over. -/
theorem passedOver_iff_of_le (h : ∀ s ∈ networkEnd? pins, s ≤ i) :
    PassedOver pins i ↔ ∃ s ∈ networkEnd? pins, s < i := by
  unfold PassedOver
  rw [networkEnd?_take fun s hs => Nat.lt_succ_of_le (h s hs)]

theorem not_passedOver_iff (i : Nat) :
    ¬ PassedOver pins i ↔ ∀ s ∈ networkEnd? pins, i ≤ s ∧ (i = s ∨ ¬ PassedOver pins i) := by
  cases hend : networkEnd? pins with
  | none => simp [passedOver_iff_of_le (i := i), hend]
  | some s =>
    rcases Nat.lt_trichotomy i s with hlt | rfl | hgt
    · simp [hlt.ne, hlt.le]
    · simp [passedOver_iff_of_le (i := i), hend]
    · have hle : ∀ s' ∈ networkEnd? pins, s' ≤ i := by
        rw [hend]
        simpa using hgt.le
      simp [passedOver_iff_of_le hle, hend, hgt, hgt.not_ge]

/-- Where the clock pin moves to a new pin, the sources are those that were noted, and that pin. -/
theorem noted_concat_moved (i : Nat) : Noted file (pins ++ [p]) (some pins.length) i ↔
    Noted file pins (networkEnd? pins) i ∨ i = pins.length ∧ file.marksSource p.line = true := by
  unfold Noted
  rw [sourceAt_concat, ← not_passedOver_iff]
  rcases Nat.lt_or_ge i pins.length with hlt | hge
  · simp [hlt.ne, hlt.le, passedOver_concat hlt]
  · have hnone : ¬ SourceAt file pins i := fun h => Nat.not_lt_of_le hge h.lt_length
    simp only [hnone, false_or, false_and]
    constructor
    · exact And.left
    · rintro ⟨rfl, hsource⟩
      exact ⟨⟨rfl, hsource⟩, by simp⟩

/-- A source at a new pin is noted unless the pin comes behind the clock pin. -/
theorem IsLast.noted_concat {clockPinAt clockPinAt' g : Option Nat}
    (h : IsLast (Noted file pins clockPinAt) g) (hat : ∀ s ∈ clockPinAt, s < pins.length)
    (hcases : clockPinAt' = clockPinAt ∨
      clockPinAt' = some pins.length ∧ networkEnd? pins = clockPinAt) :
    IsLast (Noted file (pins ++ [p]) clockPinAt')
      (if file.marksSource p.line && clockPinAt'.all (pins.length ≤ ·) then some pins.length
        else g) := by
  obtain rfl | ⟨rfl, rfl⟩ := hcases
  · cases clockPinAt' with
    | none =>
      rw [Option.all_none, Bool.and_true]
      refine h.concat (fun i hi => hi.1.lt_length) fun i => ?_
      rw [noted_none, noted_none, sourceAt_concat]
    | some s =>
      have hlt := hat s rfl
      rw [Option.all_some, decide_eq_false (Nat.not_le_of_lt hlt), Bool.and_false,
        if_neg Bool.false_ne_true]
      exact h.congr (noted_concat_of_lt hlt)
  · rw [Option.all_some, decide_eq_true (Nat.le_refl _), Bool.and_true]
    exact h.concat (fun i hi => hi.1.lt_length) noted_concat_moved

end

namespace Block

/-- The sources that a block names are the last that were noted. -/
structure SourcesNoted (file : SourceFile) (b : Block) : Prop where
  clockPin : ∀ s ∈ b.path.clockPinAt, s < b.path.launchPins.length
  fixed : b.clockPinFixed = true → b.path.clockPinAt.isSome = true
  launch : IsLast (Noted file b.path.launchPins b.path.clockPinAt) b.path.launch.generatedAt
  capture : IsLast (SourceAt file b.path.capturePins) b.path.capture.generatedAt

section
variable {file : SourceFile} {b b' : Block}

theorem SamePins.sourcesNoted (hs : SamePins b b') (h : b.SourcesNoted file) :
    b'.SourcesNoted file := by
  constructor
  · rw [hs.clockPinAt, hs.launchPins]
    exact h.clockPin
  · rw [hs.clockPinFixed, hs.clockPinAt]
    exact h.fixed
  · rw [hs.launchPins, hs.clockPinAt, hs.launchSource]
    exact h.launch
  · rw [hs.capturePins, hs.captureSource]
    exact h.capture

theorem SourcesNoted.readNet (h : b.SourcesNoted file) (row : PinRow) :
    (b.readNet row).SourcesNoted file := by
  obtain ⟨hlaunch, hcapture⟩ := b.readNet_sites row
  have hkinds := (readNet_map (g := Pin.kind) (fun _ _ => rfl) b row).1
  obtain ⟨launchPins, capturePins, he⟩ := b.readNet_eq row
  rw [he] at hlaunch hcapture hkinds ⊢
  refine ⟨fun s hs => ?_, h.fixed, h.launch.congr (noted_congr hlaunch hkinds _),
    h.capture.congr (sourceAt_congr hcapture)⟩
  have hlen := congrArg List.length hlaunch
  rw [List.length_map, List.length_map] at hlen
  rw [hlen]
  exact h.clockPin s hs

theorem addLaunchPin_source (rules : RuleSet) (b : Block) (row : PinRow) (p : Pin) :
    (addLaunchPin rules b row p).path.launch.generatedAt =
      if b.clockPinFixed then b.path.launch.generatedAt
      else if row.isGenerated &&
        (b.placeClockPin p).path.clockPinAt.all (b.path.launchPins.length ≤ ·)
      then some b.path.launchPins.length
      else b.path.launch.generatedAt := by
  unfold addLaunchPin noteLaunchSource
  obtain ⟨port, fixed, left, clockPinAt, hplace, -⟩ := b.placeClockPin_eq p
  rw [hplace]
  dsimp only
  cases clockPinAt <;> cases b.clockPinFixed <;> cases row.isGenerated <;>
    simp only [Option.all_none, Option.all_some, if_true, if_false, Bool.false_eq_true,
      Bool.true_and, Bool.false_and]
  split_ifs <;> rfl

theorem SourcesNoted.addLaunchPin (h : b.SourcesNoted file)
    (hplaced : b.startIsPort = false → b.Placed) (rules : RuleSet) (row : PinRow) {p : Pin}
    (hrow : file.marksSource p.line = row.isGenerated) :
    (addLaunchPin rules b row p).SourcesNoted file := by
  obtain ⟨source, holdChecks, he⟩ := addLaunchPin_place rules b row p
  have hsource := addLaunchPin_source rules b row p
  have hlen : (b.path.launchPins ++ [p]).length = b.path.launchPins.length + 1 := by simp
  rw [he] at hsource ⊢
  dsimp only at hsource
  cases hf : b.clockPinFixed with
  | true =>
    obtain ⟨s, hs⟩ := Option.isSome_iff_exists.mp (h.fixed hf)
    rw [hf, if_pos rfl] at hsource
    rw [if_pos rfl, hsource]
    refine ⟨fun i hi => ?_, h.fixed, h.launch.congr fun i => ?_, h.capture⟩
    · rw [hlen]
      exact Nat.lt_succ_of_lt (h.clockPin i hi)
    · dsimp only
      rw [hs, noted_concat_of_lt (h.clockPin s hs)]
  | false =>
    rw [hf, if_neg Bool.false_ne_true, ← hrow] at hsource
    rw [if_neg Bool.false_ne_true]
    obtain ⟨port, fixed, left, clockPinAt, hplace, -⟩ := b.placeClockPin_eq p
    have hcases := (b.placeClockPin_step p).clockPinAt_cases
    rw [hplace] at hsource hcases ⊢
    refine ⟨fun i hi => ?_, ?_, ?_, h.capture⟩
    · rw [hlen]
      obtain ⟨rfl, -⟩ | ⟨rfl, -⟩ := hcases
      · exact Nat.lt_succ_of_lt (h.clockPin i hi)
      · cases hi
        exact Nat.lt_add_one _
    · obtain ⟨rfl, rfl⟩ | ⟨rfl, -⟩ := hcases
      · exact h.fixed
      · exact fun _ => rfl
    · dsimp only at hsource ⊢
      rw [hsource]
      refine h.launch.noted_concat h.clockPin
        (hcases.imp And.left fun hmoved => ⟨hmoved.1, ?_⟩)
      exact (hplaced hmoved.2).networkEnd? hf

theorem SourcesNoted.addCapturePin (h : b.SourcesNoted file) (rules : RuleSet) (row : PinRow)
    {p : Pin} (hrow : file.marksSource p.line = row.isGenerated) :
    (addCapturePin rules b row p).SourcesNoted file := by
  have hsource : (Block.addCapturePin rules b row p).path.capture.generatedAt =
      if row.isGenerated then some b.path.capturePins.length else b.path.capture.generatedAt := by
    unfold Block.addCapturePin
    dsimp only
    split_ifs <;> rfl
  obtain ⟨source, time, checks, he, -⟩ := addCapturePin_eq rules b row p
  rw [he] at hsource ⊢
  refine ⟨h.clockPin, h.fixed, h.launch, ?_⟩
  dsimp only at hsource ⊢
  rw [hsource, ← hrow]
  exact h.capture.concat (fun i hi => hi.lt_length) sourceAt_concat

variable {rules : RuleSet} {line : Nat}

theorem PinStep.sourcesNoted {row : PinRow} (hstep : PinStep rules b line row b')
    (h : b.SourcesNoted file) (hplaced : b.startIsPort = false → b.Placed)
    (hrow : file.marksSource line = row.isGenerated) : b'.SourcesNoted file := by
  have hmoved : (b.moveTo row).SourcesNoted file := (b.moveTo_samePins row).sourcesNoted h
  have hline : ∀ {p : Pin}, b.pinOf line row = .ok p →
      (b.atPlace row (classify rules p)).line = line := fun {p} hp =>
    (congrArg (·.2.2) (site_atPlace_classify rules b row p)).trans (name_and_line_of_pinOf hp).2
  cases hstep with
  | net hc => exact h.readNet row
  | launch hc hp hs =>
    refine hmoved.addLaunchPin (fun hopen => ?_) rules row (by rw [hline hp, hrow])
    exact (b.moveTo_samePins row).placed (hplaced hopen)
  | capture hc hp hs => exact hmoved.addCapturePin rules row (by rw [hline hp, hrow])

/-- Every line of a report keeps the last sources noted. -/
theorem Step.sourcesNoted {text : String} {atEnd : Bool}
    (hstep : Step rules line text.toList b b' atEnd) (h : b.SourcesNoted file)
    (hplaced : b.startIsPort = false → b.Placed) (htext : file.line? line = some text) :
    b'.SourcesNoted file := by
  obtain hsame | ⟨row, hrow, hb⟩ := hstep.samePins_or_pinStep
  · exact hsame.sourcesNoted h
  · have hmarks : file.marksSource line = row.isGenerated := by
      simp [SourceFile.marksSource, htext, hrow]
    exact hb.sourcesNoted (b.enterTable_samePins.sourcesNoted h)
      (fun hopen => b.enterTable_samePins.placed (hplaced hopen)) hmarks

end

theorem start_sourcesNoted (file : SourceFile) (line : Nat) (startpoint : List Char) :
    (start line startpoint).SourcesNoted file := by
  constructor
  · intro s hs
    cases hs
  · intro hf
    cases hf
  · rintro i ⟨hsource, -⟩
    exact absurd hsource.lt_length (Nat.not_lt_zero i)
  · intro i hsource
    exact absurd hsource.lt_length (Nat.not_lt_zero i)

end Block

theorem ScanRange.sourcesNoted_of_read {range : ScanRange} {file : SourceFile} {rules : RuleSet}
    {t : BlockText} {r : BlockReading} (ht : t ∈ range.blocks file) (h : t.read rules = .ok r) :
    r.block.SourcesNoted file := by
  refine (Block.feedLines_induction
    (P := fun b => b.SourcesNoted file ∧ (b.startIsPort = false → b.Placed)) h
    ⟨Block.start_sourcesNoted file t.line t.startpoint,
      fun _ => Block.start_placed t.line t.startpoint⟩ ?_).1
  intro b b' l atEnd hl hb hf
  have hstep := Block.feed_step hf
  exact ⟨hstep.sourcesNoted hb.1 hb.2 ((body_of_mem_blocks ht).2 l hl).2, hstep.placed hb.2⟩

/-- No source that was noted is forgotten at the end. -/
theorem Block.SourcesNoted.sourceInNetwork? {file : SourceFile} {b : Block}
    (h : b.SourcesNoted file) : sourceInNetwork? b.path = b.path.launch.generatedAt := by
  have hlaunch := h.launch
  unfold Block.sourceInNetwork?
  cases hg : b.path.launch.generatedAt with
  | none => rfl
  | some g =>
    rw [hg] at hlaunch
    have hle : b.path.clockPinAt.all (g ≤ ·) = true := by
      cases hs : b.path.clockPinAt with
      | none => rfl
      | some s => simpa using (hlaunch.1.2 s hs).1
    rw [Option.filter_some, if_pos hle]

namespace Report

section
variable {r : Report} {file : SourceFile} {ranges : List ScanRange} {p : TimingPath}

theorem lastNoted_of_mem_read (hp : p ∈ (r.read file ranges).report.paths.drop r.paths.length) :
    IsLast (Noted file p.launchPins p.clockPinAt) p.launch.generatedAt ∧
      IsLast (SourceAt file p.capturePins) p.capture.generatedAt := by
  obtain ⟨range, -, t, ht, reading, hread, rfl⟩ := exists_block_of_mem_read hp
  have hnoted := ScanRange.sourcesNoted_of_read ht hread
  rw [Block.finish_eq, hnoted.sourceInNetwork?]
  exact ⟨hnoted.launch, hnoted.capture⟩

/-- A path names the last source of a generated clock on its capture side. On its launch side it
names the last one up to the clock pin that was not passed over. That is the last source up to the
clock pin, unless just this one was passed over. -/
theorem sources_of_read (hp : p ∈ (r.read file ranges).report.paths.drop r.paths.length) :
    IsLast (SourceAt file p.capturePins) p.capture.generatedAt ∧
    (p.clockPinAt = none → IsLast (SourceAt file p.launchPins) p.launch.generatedAt) ∧
    ∀ s ∈ p.clockPinAt,
      IsLast (fun i => (i ≤ s ∧ SourceAt file p.launchPins i) ∧
        (i = s ∨ ¬ PassedOver p.launchPins i)) p.launch.generatedAt ∧
      (IsLast (fun i => i ≤ s ∧ SourceAt file p.launchPins i) p.launch.generatedAt ↔
        ∀ g, IsGreatest {i | i ≤ s ∧ SourceAt file p.launchPins i} g →
          g = s ∨ ¬ PassedOver p.launchPins g) := by
  obtain ⟨hlaunch, hcapture⟩ := lastNoted_of_mem_read hp
  refine ⟨hcapture, fun hnone => ?_, fun s hs => ?_⟩
  · rw [hnone] at hlaunch
    exact hlaunch.congr fun i => (noted_none i).symm
  · rw [Option.mem_def.mp hs] at hlaunch
    have hlast : IsLast (fun i => (i ≤ s ∧ SourceAt file p.launchPins i) ∧
        (i = s ∨ ¬ PassedOver p.launchPins i)) p.launch.generatedAt :=
      hlaunch.congr fun i => by
        simp only [Noted, Option.mem_some_iff, forall_eq', and_assoc, and_left_comm]
    exact ⟨hlast, hlast.iff_of_and fun i hi => hi.1⟩

end

/-- A report whose source of a generated clock stands between a clock buffer and the startpoint. -/
def dividedClock : SourceFile :=
  .ofText ⟨0⟩ "divided_clock" ("Startpoint: ff1\nclk (in) 0\ncb/Z (CKBUFX4) 1\n" ++
    "div/CK (DFFX1) 2\ndiv/Q (DFFX1) (gclock source) 3\nff1/CK (DFFX1) 4\n" ++
    "data arrival time 4\n")

theorem sources_of_read_dividedClock :
    ∃ p ∈ (({ rules := {} } : Report).read dividedClock [.whole]).report.paths.drop
        ({ rules := {} } : Report).paths.length,
      p.clockPinAt = some 4 ∧ p.launch.generatedAt = some 3 ∧
        IsGreatest {i | (i ≤ 4 ∧ SourceAt dividedClock p.launchPins i) ∧
          (i = 4 ∨ ¬ PassedOver p.launchPins i)} 3 := by
  have hfirst : (({ rules := {} } : Report).read dividedClock [.whole]).report.paths[0]?.map
      (fun p => (p.clockPinAt, p.launch.generatedAt)) = some (some 4, some 3) := by
    rw [dividedClock, SourceFile.ofText_append₃ rfl rfl rfl]
    decide +kernel
  obtain ⟨p, hp, hfacts⟩ := Option.map_eq_some_iff.mp hfirst
  have hat : p.clockPinAt = some 4 := congrArg Prod.fst hfacts
  have hsource : p.launch.generatedAt = some 3 := congrArg Prod.snd hfacts
  have hmem : p ∈ (({ rules := {} } : Report).read dividedClock [.whole]).report.paths.drop
      ({ rules := {} } : Report).paths.length := by
    rw [List.length_nil, List.drop_zero]
    exact List.mem_of_getElem? hp
  have hlast := ((sources_of_read hmem).2.2 4 hat).1
  rw [hsource] at hlast
  exact ⟨p, hmem, hat, hsource, hlast⟩

/-- Clock rules can make a path miss its source: a clock buffer ends the network before the source
comes, and the pin of the startpoint moves the clock pin behind it. -/
theorem lastSource_missed :
    ¬ ∀ (r : Report) (file : SourceFile) (ranges : List ScanRange),
      ∀ p ∈ (r.read file ranges).report.paths.drop r.paths.length, ∀ s ∈ p.clockPinAt,
        IsLast (fun i => i ≤ s ∧ SourceAt file p.launchPins i) p.launch.generatedAt := by
  intro h
  let r : Report := { rules := { clockPins := { cells := ["CKBUFX4"] } } }
  have hfirst : (r.read dividedClock [.whole]).report.paths[0]?.map
      (fun p => (p.clockPinAt, p.launch.generatedAt,
        decide (SourceAt dividedClock p.launchPins 3))) = some (some 4, none, true) := by
    rw [dividedClock, SourceFile.ofText_append₃ rfl rfl rfl]
    decide +kernel
  obtain ⟨p, hp, hfacts⟩ := Option.map_eq_some_iff.mp hfirst
  have hat : p.clockPinAt = some 4 := congrArg (·.1) hfacts
  have hnone : p.launch.generatedAt = none := congrArg (·.2.1) hfacts
  have hsource : SourceAt dividedClock p.launchPins 3 :=
    of_decide_eq_true (congrArg (·.2.2) hfacts)
  have hmem : p ∈ (r.read dividedClock [.whole]).report.paths.drop r.paths.length := by
    rw [List.length_nil, List.drop_zero]
    exact List.mem_of_getElem? hp
  have hlast := h r dividedClock [.whole] p hmem 4 hat
  rw [hnone] at hlast
  exact hlast 3 ⟨by decide, hsource⟩

end Report

end PathTiming
