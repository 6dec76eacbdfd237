import PathTiming.Proofs.Classification
import PathTiming.Proofs.ClockPlacement
import PathTiming.Proofs.RuleIndependence

/-! Where the clock pin of a path is that does not begin at a port. -/
namespace PathTiming

theorem firstRun_eq_nil_iff {α : Type} {p : α → Bool} {as : List α} :
    firstRun p as = [] ↔ ∀ a ∈ as, p a = false := by
  unfold firstRun
  induction as with
  | nil => simp
  | cons a as ih => cases ha : p a <;> simp [ha, ih]

theorem networkEnd?_eq_none_iff {pins : List Pin} :
    networkEnd? pins = none ↔ ∀ p ∈ pins, p.isPort = false → p.isClock = false := by
  unfold networkEnd?
  rw [Option.map_eq_none_iff, List.getLast?_eq_none_iff, firstRun_eq_nil_iff]
  unfold libraryPins
  constructor
  · intro h p hp hport
    obtain ⟨i, hi⟩ := List.getElem?_of_mem hp
    exact h (p, i) (List.mem_filter.mpr ⟨List.mem_zipIdx_iff_getElem?.mpr hi, by rw [hport]; rfl⟩)
  · intro h x hx
    obtain ⟨hmem, hport⟩ := List.mem_filter.mp hx
    exact h x.1 (List.mem_of_getElem? (List.mem_zipIdx_iff_getElem?.mp hmem)) (by simpa using hport)

theorem BlockText.saysInputPort_of_cut {u : BlockText} {p : Nat → Bool}
    (h : (u.cut p).saysInputPort = true) : u.saysInputPort = true :=
  startTold_mono (List.takeWhile_prefix _) h

/-- The path begins at a port: the report says so of its startpoint, or the port has a row. -/
def TimingPath.BeginsAtPort (file : SourceFile) (p : TimingPath) : Prop :=
  (∃ t ∈ ScanRange.whole.blocks file, t.line = p.line ∧ t.saysInputPort = true) ∨
    ∃ pin ∈ p.launchPins, pin.isPort = true ∧ pin.name = p.startpoint

instance (file : SourceFile) (p : TimingPath) : Decidable (p.BeginsAtPort file) :=
  inferInstanceAs (Decidable (_ ∨ _))

namespace TimingPath

section
variable {p p' : TimingPath} (h : p.bare = p'.bare)
include h

theorem BeginsAtPort.congr {file : SourceFile} (hp : p.BeginsAtPort file) :
    p'.BeginsAtPort file := by
  have hline : p.line = p'.line := (congrArg line h :)
  have hstart : p.startpoint = p'.startpoint := (congrArg startpoint h :)
  have hpins : p.launchPins.map Pin.bare = p'.launchPins.map Pin.bare :=
    (congrArg launchPins h :)
  obtain ⟨t, ht, hat, hsays⟩ | ⟨pin, hpin, hport, hname⟩ := hp
  · exact .inl ⟨t, ht, hat.trans hline, hsays⟩
  · have hmem := List.mem_map_of_mem (f := Pin.bare) hpin
    rw [hpins] at hmem
    obtain ⟨pin', hpin', hbare⟩ := List.mem_map.mp hmem
    have hport' : pin'.isPort = pin.isPort := (congrArg Pin.isPort hbare :)
    have hname' : pin'.name = pin.name := (congrArg Pin.name hbare :)
    exact .inr ⟨pin', hpin', hport'.trans hport, hname'.trans (hname.trans hstart)⟩

theorem startPinAt?_of_bare_eq :
    startPinAt? p.startpoint p.launchPins = startPinAt? p'.startpoint p'.launchPins := by
  have hstart : p.startpoint = p'.startpoint := (congrArg startpoint h :)
  have hsites : p.launchPins.map Pin.site = p'.launchPins.map Pin.site := by
    have hbare := congrArg (·.launchPins.map Pin.site) h
    dsimp only [bare] at hbare
    rw [List.map_map, List.map_map] at hbare
    exact hbare
  rw [hstart, startPinAt?_congr _ hsites]

end

end TimingPath

namespace Report

section
variable {r : Report} {file : SourceFile} {ranges : List ScanRange} {p : TimingPath}

/-- Without a pin of the startpoint, the clock pin is the end of the clock network. -/
theorem clockPinAt_of_mem_read
    (hp : p ∈ (r.read file ranges).report.paths.drop r.paths.length)
    (hport : ¬ p.BeginsAtPort file) :
    p.clockPinAt = (startPinAt? p.startpoint p.launchPins).or (networkEnd? p.launchPins) := by
  obtain ⟨range, -, t, ht, reading, hread, rfl⟩ := exists_block_of_mem_read hp
  rw [ScanRange.blocks_eq_map_cut] at ht
  obtain ⟨u, hu, rfl⟩ := List.mem_map.mp ht
  have hline : reading.block.path.line = (u.cut range.reaches).line :=
    BlockText.path_line_of_read hread
  rw [Block.finish_eq] at hport ⊢
  have hopen : reading.block.startIsPort = false := by
    by_contra hclosed
    rw [Bool.not_eq_false] at hclosed
    obtain hsays | hpin := BlockText.port_of_read hread hclosed
    · exact hport (.inl ⟨u, List.mem_of_mem_filter hu, hline.symm,
        BlockText.saysInputPort_of_cut hsays⟩)
    · exact hport (.inr hpin)
  exact (BlockText.placed_of_read hread hopen).clockPinAt

theorem classifiedBy_of_mem_read
    (hp : p ∈ (r.read file ranges).report.paths.drop r.paths.length) :
    ∀ pin ∈ p.launchPins, pin.isClock = r.rules.isClockPin pin.name pin.cell :=
  fun pin hpin => (classified_of_mem_read hp pin (List.mem_append_left _ hpin)).isClock

/-- A path that is read under some rules is read under all rules, in the same place. -/
theorem exists_path_of_read (r' : Report) {k : Nat}
    (hp : ((r.read file ranges).report.paths.drop r.paths.length)[k]? = some p) :
    ∃ p', ((r'.read file ranges).report.paths.drop r'.paths.length)[k]? = some p' ∧
      p'.bare = p.bare := by
  have hsame := congrArg (·[k]?) (read_congr r r' file ranges).2
  rw [List.getElem?_map, List.getElem?_map, hp, Option.map_some, eq_comm,
    Option.map_eq_some_iff] at hsame
  exact hsame

/-- Unless a path begins at a port, its clock pin is the first pin of the startpoint, whatever the
rules are. Without such a pin it is the last pin of the first run of clock pins, and there is none
without clock pins. -/
theorem clockPin_of_read {k : Nat}
    (hp : ((r.read file ranges).report.paths.drop r.paths.length)[k]? = some p)
    (hport : ¬ p.BeginsAtPort file) :
    (∀ i, startPinAt? p.startpoint p.launchPins = some i → p.clockPinAt = some i ∧
      ∀ r' : Report, ∃ p',
        ((r'.read file ranges).report.paths.drop r'.paths.length)[k]? = some p' ∧
          p'.bare = p.bare ∧ p'.clockPinAt = some i) ∧
    (startPinAt? p.startpoint p.launchPins = none →
      p.clockPinAt = networkEnd? p.launchPins ∧
        (p.clockPinAt = none ↔ ∀ pin ∈ p.launchPins, pin.isPort = false → pin.isClock = false)) ∧
    ∀ pin ∈ p.launchPins, pin.isClock = r.rules.isClockPin pin.name pin.cell := by
  have hat := clockPinAt_of_mem_read (List.mem_of_getElem? hp) hport
  refine ⟨fun i hi => ⟨by rw [hat, hi]; rfl, fun r' => ?_⟩, fun hnone => ?_,
    classifiedBy_of_mem_read (List.mem_of_getElem? hp)⟩
  · obtain ⟨p', hp', hbare⟩ := exists_path_of_read r' hp
    have hport' : ¬ p'.BeginsAtPort file := fun h => hport (h.congr hbare)
    have hat' := clockPinAt_of_mem_read (List.mem_of_getElem? hp') hport'
    rw [TimingPath.startPinAt?_of_bare_eq hbare, hi] at hat'
    exact ⟨p', hp', hbare, hat'⟩
  · have hend : p.clockPinAt = networkEnd? p.launchPins := by
      rw [hat, hnone]
      rfl
    exact ⟨hend, by rw [hend, networkEnd?_eq_none_iff]⟩

end

def bufferedStart : SourceFile :=
  .ofText ⟨0⟩ "buffered" "Startpoint: ff\nb/Z (BUF) 1\nff/CK (DFF) 2\nff/Q (DFF) 3\ndata arrival time 3\n"

theorem clockPin_of_read_bufferedStart :
    ∃ p, (({ rules := {} } : Report).read bufferedStart [.whole]).report.paths[0]? = some p ∧
      ¬ p.BeginsAtPort bufferedStart ∧ startPinAt? p.startpoint p.launchPins = some 1 ∧
      p.clockPinAt = some 1 ∧
      ∀ r' : Report, ∃ p',
        ((r'.read bufferedStart [.whole]).report.paths.drop r'.paths.length)[0]? = some p' ∧
          p'.clockPinAt = some 1 := by
  have hfirst : (({ rules := {} } : Report).read bufferedStart [.whole]).report.paths[0]?.map
      (fun p => (decide (p.BeginsAtPort bufferedStart), startPinAt? p.startpoint p.launchPins)) =
        some (false, some 1) := by
    rw [bufferedStart, SourceFile.ofText_literal rfl]
    decide +kernel
  obtain ⟨p, hp, hfacts⟩ := Option.map_eq_some_iff.mp hfirst
  have hport : ¬ p.BeginsAtPort bufferedStart := by simpa using congrArg Prod.fst hfacts
  have hstart : startPinAt? p.startpoint p.launchPins = some 1 := congrArg Prod.snd hfacts
  have hadded : ((({ rules := {} } : Report).read bufferedStart [.whole]).report.paths.drop
      ({ rules := {} } : Report).paths.length)[0]? = some p := by
    rw [List.length_nil, List.drop_zero]
    exact hp
  obtain ⟨hat, hall⟩ := (clockPin_of_read hadded hport).1 1 hstart
  refine ⟨p, hp, hport, hstart, hat, fun r' => ?_⟩
  obtain ⟨p', hp', -, hat'⟩ := hall r'
  exact ⟨p', hp', hat'⟩

end Report

end PathTiming
