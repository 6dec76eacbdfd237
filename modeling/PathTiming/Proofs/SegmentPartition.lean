import Mathlib.Data.List.Chain
import PathTiming.Analysis.Segment
import PathTiming.Rules.Compile

/-! The segments of a path hold each of its pins once, and each segment begins at the time at which
the one before it ends. -/
namespace PathTiming

namespace TagRun

/-- Runs that stand one after another from `start` on spell the tags. No run is empty, and none
could be joined to the next. -/
inductive Divides : Nat → List (Option String) → List TagRun → Prop
  | nil (start : Nat) : Divides start [] []
  | cons {start n : Nat} {tag : Option String} {tags : List (Option String)} {runs : List TagRun}
      (hn : 0 < n) (hne : ∀ run ∈ runs.head?, tag ≠ run.tag) (h : Divides (start + n) tags runs) :
      Divides start (List.replicate n tag ++ tags) (⟨tag, start, start + n⟩ :: runs)

theorem divides_runsFrom (start : Nat) (tags : List (Option String)) :
    Divides start tags (runsFrom start tags) := by
  induction tags generalizing start with
  | nil => exact .nil start
  | cons tag tags ih =>
    have h := ih (start + 1)
    unfold runsFrom
    cases hruns : runsFrom (start + 1) tags with
    | nil =>
      rw [hruns] at h
      cases h
      exact .cons (n := 1) Nat.one_pos (by simp) (.nil (start + 1))
    | cons run runs =>
      rw [hruns] at h
      by_cases htag : run.tag = tag
      · -- The tag joins the run that begins right after it.
        cases h with
        | @cons _ n tag' tags' _ hn hne hrest =>
          obtain rfl : tag' = tag := htag
          have hlen : start + 1 + n = start + (n + 1) := by omega
          rw [hlen] at hrest
          simpa [hlen, List.replicate_succ] using Divides.cons (Nat.succ_pos n) hne hrest
      · simpa [htag] using Divides.cons (n := 1) Nat.one_pos (by simp [Ne.symm htag]) h

/-- Runs divide tags into classes: they follow one another without a gap from the first tag to the
last, none is empty, each holds tags of its own class, and the class changes from run to run. -/
structure Partition (tags : List (Option String)) (runs : List TagRun) : Prop where
  nonempty : ∀ run ∈ runs, run.start < run.stop
  first : ∀ run ∈ runs.head?, run.start = 0
  contiguous : runs.IsChain fun run next => run.stop = next.start
  last : ∀ run ∈ runs.getLast?, run.stop = tags.length
  changing : runs.IsChain fun run next => run.tag ≠ next.tag
  tagged : ∀ run ∈ runs, ∀ i, run.start ≤ i → i < run.stop → tags[i]? = some run.tag
  covers : ∀ i < tags.length, ∃! k : Nat, ∃ run, runs[k]? = some run ∧ run.start ≤ i ∧ i < run.stop

section
variable {start : Nat} {tags : List (Option String)} {runs : List TagRun}

theorem Divides.eq_nil_iff (h : Divides start tags runs) : runs = [] ↔ tags = [] := by
  cases h with
  | nil => simp
  | cons hn hne h => simp [Nat.ne_of_gt hn]

theorem Divides.start_of_head (h : Divides start tags runs) :
    ∀ run ∈ runs.head?, run.start = start := by
  cases h with
  | nil => simp
  | cons hn hne h => simp

theorem Divides.bounds (h : Divides start tags runs) :
    ∀ run ∈ runs, start ≤ run.start ∧ run.start < run.stop ∧ run.stop ≤ start + tags.length := by
  induction h with
  | nil => simp
  | @cons start n tag tags runs hn hne h ih =>
    intro run hrun
    rw [List.length_append, List.length_replicate]
    rcases List.mem_cons.mp hrun with rfl | hrun
    · dsimp only
      omega
    · have := ih run hrun
      omega

theorem Divides.contiguous (h : Divides start tags runs) :
    runs.IsChain fun run next => run.stop = next.start := by
  induction h with
  | nil => exact List.isChain_nil
  | cons hn hne h ih => exact List.isChain_cons.mpr ⟨fun next hnext =>
      (h.start_of_head next hnext).symm, ih⟩

theorem Divides.changing (h : Divides start tags runs) :
    runs.IsChain fun run next => run.tag ≠ next.tag := by
  induction h with
  | nil => exact List.isChain_nil
  | cons hn hne h ih => exact List.isChain_cons.mpr ⟨hne, ih⟩

theorem Divides.stop_of_getLast (h : Divides start tags runs) :
    ∀ run ∈ runs.getLast?, run.stop = start + tags.length := by
  induction h with
  | nil => simp
  | @cons start n tag tags runs hn hne h ih =>
    intro run hrun
    rw [List.length_append, List.length_replicate, ← Nat.add_assoc]
    cases hruns : runs with
    | nil =>
      have htags : tags = [] := h.eq_nil_iff.mp hruns
      subst htags hruns
      obtain rfl : _ = run := by simpa using hrun
      rfl
    | cons next rest =>
      subst hruns
      exact ih run (by simpa using hrun)

theorem Divides.tagged (h : Divides start tags runs) :
    ∀ run ∈ runs, ∀ i, run.start ≤ i → i < run.stop → tags[i - start]? = some run.tag := by
  induction h with
  | nil => simp
  | @cons start n tag tags runs hn hne h ih =>
    intro run hrun i hlo hhi
    rcases List.mem_cons.mp hrun with rfl | hrun
    · dsimp only at hlo hhi ⊢
      rw [List.getElem?_append_left (by rw [List.length_replicate]; omega),
        List.getElem?_replicate_of_lt (by omega)]
    · have hstart := (h.bounds run hrun).1
      have hi : i - start - n = i - (start + n) := by omega
      rw [List.getElem?_append_right (by rw [List.length_replicate]; omega),
        List.length_replicate, hi]
      exact ih run hrun i hlo hhi

/-- Each place lies in one run only. -/
theorem Divides.covers (h : Divides start tags runs) {i : Nat} (hlo : start ≤ i)
    (hhi : i < start + tags.length) :
    ∃! k : Nat, ∃ run, runs[k]? = some run ∧ run.start ≤ i ∧ i < run.stop := by
  induction h with
  | nil => simp at hhi; omega
  | @cons start n tag tags runs hn hne h ih =>
    rw [List.length_append, List.length_replicate] at hhi
    by_cases hi : i < start + n
    · refine ⟨0, ⟨_, rfl, hlo, hi⟩, ?_⟩
      rintro (_ | k) ⟨run, hrun, hstart, hstop⟩
      · rfl
      · have := (h.bounds run (List.mem_of_getElem? hrun)).1
        omega
    · obtain ⟨k, hk, hunique⟩ := ih (by omega) (by omega)
      refine ⟨k + 1, hk, ?_⟩
      rintro (_ | j) ⟨run, hrun, hstart, hstop⟩
      · obtain rfl : _ = run := by simpa using hrun
        exact absurd hstop hi
      · rw [hunique j ⟨run, hrun, hstart, hstop⟩]

theorem Divides.partition (h : Divides 0 tags runs) : Partition tags runs where
  nonempty run hrun := (h.bounds run hrun).2.1
  first := h.start_of_head
  contiguous := h.contiguous
  last run hrun := by simpa using h.stop_of_getLast run hrun
  changing := h.changing
  tagged := h.tagged
  covers i hi := h.covers (Nat.zero_le i) (by omega)

end

/-- The time at the last pin of a run. -/
def endTime? (run : TagRun) (pins : List Pin) : Option Float :=
  ((run.pins pins).getLast?).map (·.cumulative)

section
variable {start : Nat} {tags : List (Option String)} {runs : List TagRun} {pins : List Pin}

/-- The pins of runs, taken together, are all pins. -/
theorem Divides.flatten_pins (h : Divides start tags runs)
    (hlen : pins.length = start + tags.length) :
    (runs.map (·.pins pins)).flatten = pins.drop start := by
  induction h with
  | nil start =>
    rw [List.length_nil, Nat.add_zero] at hlen
    rw [← hlen, List.drop_length]
    rfl
  | @cons start n tag tags runs hn hne h ih =>
    rw [List.length_append, List.length_replicate, ← Nat.add_assoc] at hlen
    rw [List.map_cons, List.flatten_cons, ih hlen, TagRun.pins, Nat.add_sub_cancel_left,
      ← List.drop_drop, List.take_append_drop]

theorem getLast?_pins {run : TagRun} (hne : run.start < run.stop) (hle : run.stop ≤ pins.length) :
    (run.pins pins).getLast? = pins[run.stop - 1]? := by
  have hlen : run.stop - run.start - 1 < run.stop - run.start := by omega
  have hi : run.start + (run.stop - run.start - 1) = run.stop - 1 := by omega
  unfold TagRun.pins
  rw [List.getLast?_eq_getElem?, List.length_take, List.length_drop, Nat.min_eq_left (by omega),
    List.getElem?_take_of_lt hlen, List.getElem?_drop, hi]

/-- The latencies of runs are the differences between the times at which they end, when `before` is
the time before the first run. -/
theorem Divides.latencies (h : Divides start tags runs) (hlen : pins.length = start + tags.length)
    {before : Float} (hbefore : ∀ run : TagRun, run.start = start → run.timeBefore pins = before) :
    ∃ ends : List Float, runs.map (·.endTime? pins) = ends.map some ∧
      runs.map (·.latency pins) = List.zipWith (· - ·) ends (before :: ends) := by
  induction h generalizing before with
  | nil => exact ⟨[], rfl, rfl⟩
  | @cons start n tag tags runs hn hne h ih =>
    rw [List.length_append, List.length_replicate, ← Nat.add_assoc] at hlen
    have hi : start + n - 1 < pins.length := by omega
    have hget := List.getElem?_eq_getElem hi
    have hlast : (TagRun.pins ⟨tag, start, start + n⟩ pins).getLast? =
        some pins[start + n - 1] := by
      rw [← hget]
      exact getLast?_pins (Nat.lt_add_of_pos_right hn) (by dsimp only; omega)
    have hnext : ∀ run : TagRun, run.start = start + n →
        run.timeBefore pins = pins[start + n - 1].cumulative := by
      intro run hrun
      unfold timeBefore
      rw [hrun, if_neg (by omega), hget]
      rfl
    obtain ⟨ends, hends, hlatencies⟩ := ih hlen hnext
    refine ⟨pins[start + n - 1].cumulative :: ends, ?_, ?_⟩
    · rw [List.map_cons, List.map_cons, hends, endTime?, hlast]
      rfl
    · have hlatency : TagRun.latency ⟨tag, start, start + n⟩ pins =
          pins[start + n - 1].cumulative - before := by
        unfold latency
        rw [hlast, hbefore _ rfl]
        rfl
      rw [List.map_cons, hlatencies, hlatency, List.zipWith_cons_cons]

end

end TagRun

theorem length_tagsFrom (table : ClassTable) (default current : Option String)
    (keys : List String) : (tagsFrom table default current keys).length = keys.length := by
  induction keys generalizing current with
  | nil => rfl
  | cons key keys ih => rw [tagsFrom, List.length_cons, List.length_cons, ih]

def segmentRuns (pins : List Pin) (table : ClassTable) (default : Option String) : List TagRun :=
  tagRuns (stickyTags table default (pins.map (·.name)))

theorem length_stickyTags_names (pins : List Pin) (table : ClassTable) (default : Option String) :
    (stickyTags table default (pins.map (·.name))).length = pins.length := by
  rw [stickyTags, length_tagsFrom, List.length_map]

theorem divides_segmentRuns (pins : List Pin) (table : ClassTable) (default : Option String) :
    TagRun.Divides 0 (stickyTags table default (pins.map (·.name)))
      (segmentRuns pins table default) :=
  TagRun.divides_runsFrom 0 _

theorem flatten_segmentRuns (pins : List Pin) (table : ClassTable) (default : Option String) :
    ((segmentRuns pins table default).map (·.pins pins)).flatten = pins := by
  have hlen := length_stickyTags_names pins table default
  rw [(divides_segmentRuns pins table default).flatten_pins (by omega), List.drop_zero]

theorem segmentRuns_eq_nil_iff (pins : List Pin) (table : ClassTable) (default : Option String) :
    segmentRuns pins table default = [] ↔ pins = [] := by
  rw [(divides_segmentRuns pins table default).eq_nil_iff, ← List.length_eq_zero_iff,
    length_stickyTags_names, List.length_eq_zero_iff]

/-- The segments of some pins are one for each run of pins of one class. Their latencies are the
differences between the times at which the runs end, and their deltas are summed over the runs. -/
structure SegmentsOf (pins : List Pin) (table : ClassTable) (default : Option String)
    (latency delta : List Segment) : Prop where
  partition : TagRun.Partition (stickyTags table default (pins.map (·.name)))
    (segmentRuns pins table default)
  /-- The runs hold every pin once and in order. -/
  flatten_pins : ((segmentRuns pins table default).map (·.pins pins)).flatten = pins
  latency_tags : latency.map (·.tag) = (segmentRuns pins table default).map (·.tag)
  delta_tags : delta.map (·.tag) = (segmentRuns pins table default).map (·.tag)
  /-- Each time at which a run ends is the time at which the next one begins. -/
  latency_values : ∃ ends : List Float,
    (segmentRuns pins table default).map (·.endTime? pins) = ends.map some ∧
      latency.map (·.value) = List.zipWith (· - ·) ends (0 :: ends)
  /-- Each delta is the sum of the deltas of the pins of its run, from the first to the last. A sum
  begins at negative zero, which changes no double that is added to it. -/
  delta_values : delta.map (·.value) = (segmentRuns pins table default).map fun run =>
    ((run.pins pins).map (·.delta)).foldl (· + ·) (-0.0)
  latency_eq_nil_iff : latency = [] ↔ pins = []
  delta_eq_nil_iff : delta = [] ↔ pins = []

theorem deltaSum_eq (pins : List Pin) :
    deltaSum pins = (pins.map (·.delta)).foldl (· + ·) (-0.0) := by
  rw [deltaSum, List.foldl_map]

theorem segmentsOf_segmentPins (pins : List Pin) (table : ClassTable) (default : Option String) :
    SegmentsOf pins table default (segmentPins pins table default).1
      (segmentPins pins table default).2 := by
  have hdivides := divides_segmentRuns pins table default
  have hlen := length_stickyTags_names pins table default
  have hbefore : ∀ run : TagRun, run.start = 0 → run.timeBefore pins = 0 := by
    intro run hrun
    rw [TagRun.timeBefore, if_pos hrun]
  obtain ⟨ends, hends, hlatencies⟩ := hdivides.latencies (by omega) hbefore
  have hlatency : (segmentPins pins table default).1 = (segmentRuns pins table default).map
      fun run => ⟨run.tag, run.latency pins⟩ := rfl
  have hdelta : (segmentPins pins table default).2 = (segmentRuns pins table default).map
      fun run => ⟨run.tag, ((run.pins pins).map (·.delta)).foldl (· + ·) (-0.0)⟩ := by
    simp only [← deltaSum_eq]
    rfl
  rw [hlatency, hdelta]
  constructor
  · exact hdivides.partition
  · exact flatten_segmentRuns pins table default
  · rw [List.map_map]
    rfl
  · rw [List.map_map]
    rfl
  · refine ⟨ends, hends, ?_⟩
    rw [List.map_map, ← hlatencies]
    rfl
  · rw [List.map_map]
    rfl
  · rw [List.map_eq_nil_iff, segmentRuns_eq_nil_iff]
  · rw [List.map_eq_nil_iff, segmentRuns_eq_nil_iff]

/-- The segments of a path are those of its three parts. The launch clock pins and the data pins
are all launch pins, so each of these lies in one segment of one part. -/
theorem Report.segments_partition_and_telescope :
    (∀ (pins : List Pin) (table : ClassTable) (default : Option String),
      SegmentsOf pins table default (segmentPins pins table default).1
        (segmentPins pins table default).2) ∧
    ∀ (r : Report) (index : Nat) (p : TimingPath), r.path index = .ok p →
      ∃ s, r.segments index = .ok s ∧
        (s.launchLatency, s.launchDelta) =
          segmentPins p.launchClockPins r.rules.pathClasses r.rules.defaultClass ∧
        (s.dataLatency, s.dataDelta) =
          segmentPins p.dataPins r.rules.pathClasses r.rules.defaultClass ∧
        (s.captureLatency, s.captureDelta) =
          segmentPins p.capturePins r.rules.pathClasses r.rules.defaultClass ∧
        p.launchClockPins ++ p.dataPins = p.launchPins ∧
        ((segmentRuns p.launchClockPins r.rules.pathClasses r.rules.defaultClass).map
            (·.pins p.launchClockPins) ++
          (segmentRuns p.dataPins r.rules.pathClasses r.rules.defaultClass).map
            (·.pins p.dataPins)).flatten = p.launchPins := by
  refine ⟨segmentsOf_segmentPins, fun r index p hp => ?_⟩
  refine ⟨.ofPath p r.rules, ?_, rfl, rfl, rfl, p.launchClockPins_append_dataPins, ?_⟩
  · unfold segments
    rw [hp]
    rfl
  · rw [List.flatten_append, flatten_segmentRuns, flatten_segmentRuns]
    exact p.launchClockPins_append_dataPins

/-- A report with one path, whose data pins are of two classes. -/
def twoClasses : Report where
  rules := ((RuleSet.ofText "pc: CLK ck.*\npc: CORE u.*\ndpc: CLK\n").toOption.map (·.1)).getD {}
  paths := [{
    line := 1
    launchPins := [
      { name := "ck/Z", cumulative := 1 }, { name := "ff/CK", cumulative := 2 },
      { name := "ff/Q", cumulative := 3, delta := 0.5 },
      { name := "u1/Z", cumulative := 4, delta := 0.5 },
      { name := "u2/Z", cumulative := 4.5, delta := 0.25 }]
    clockPinAt := some 1 }]

theorem Report.segments_partition_and_telescope_twoClasses :
    ∃ p s, twoClasses.path 0 = .ok p ∧ twoClasses.segments 0 = .ok s ∧
      (s.dataLatency.map fun x => (x.tag, x.value)) = [(some "CLK", 3), (some "CORE", 1.5)] ∧
      (s.dataDelta.map fun x => (x.tag, x.value)) = [(some "CLK", 0.5), (some "CORE", 0.75)] ∧
      p.launchPins.length = 5 ∧
      ((segmentRuns p.launchClockPins twoClasses.rules.pathClasses
            twoClasses.rules.defaultClass).map (·.pins p.launchClockPins) ++
        (segmentRuns p.dataPins twoClasses.rules.pathClasses twoClasses.rules.defaultClass).map
          (·.pins p.dataPins)).flatten = p.launchPins := by
  have hvalues : ((twoClasses.segments 0).toOption.map fun s =>
      (s.dataLatency.map fun x => (x.tag, x.value), s.dataDelta.map fun x => (x.tag, x.value))) =
      some ([(some "CLK", 3), (some "CORE", 1.5)], [(some "CLK", 0.5), (some "CORE", 0.75)]) := by
    decide +kernel
  obtain ⟨s, hs, -, -, -, -, hflatten⟩ := segments_partition_and_telescope.2 twoClasses 0 _ rfl
  rw [hs] at hvalues
  obtain ⟨hlatency, hdelta⟩ := Prod.mk.inj (Option.some.inj hvalues)
  exact ⟨_, s, rfl, hs, hlatency, hdelta, rfl, hflatten⟩

end PathTiming
