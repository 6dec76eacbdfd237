import PathTiming.Proofs.ChartShape
import PathTiming.Proofs.StickyTags

/-! The classes in charts and the classes of segments are the same. A chart classifies a whole side
of a path and shows a part of it, where segments classify the pins of their own clock network only.
They agree because the class of a pin does not depend on the pins that follow. -/
namespace PathTiming

section
variable {table : ClassTable} {default : Option String}

/-- The first keys have the classes that they have without the keys that follow. -/
theorem getElem?_stickyTags_of_prefix {keys all : List String} (h : keys <+: all) {i : Nat}
    (hi : i < keys.length) :
    (stickyTags table default all)[i]? = (stickyTags table default keys)[i]? := by
  obtain ⟨later, rfl⟩ := h
  obtain ⟨rest, hrest⟩ : stickyTags table default keys <+:
      stickyTags table default (keys ++ later) := tagsFrom_prefix later
  have hlt : i < (stickyTags table default keys).length := by rwa [stickyTags, length_tagsFrom]
  rw [← hrest, List.getElem?_append_left hlt]

end

/-- The pin at a place lies in the run of the segment that is numbered `k`. -/
def InSegment (rules : RuleSet) (pins : List Pin) (k i : Nat) : Prop :=
  ∃ run, (segmentRuns pins rules.pathClasses rules.defaultClass)[k]? = some run ∧
    run.start ≤ i ∧ i < run.stop

section
variable {rules : RuleSet} {pins : List Pin} {latency delta : List Segment}

theorem SegmentsOf.existsUnique_inSegment
    (h : SegmentsOf pins rules.pathClasses rules.defaultClass latency delta) {i : Nat}
    (hi : i < pins.length) : ∃! k : Nat, InSegment rules pins k i :=
  h.partition.covers i (by rwa [length_stickyTags_names])

/-- Both segments of a run have the class of its pins. -/
theorem SegmentsOf.tag_of_inSegment
    (h : SegmentsOf pins rules.pathClasses rules.defaultClass latency delta) {k i : Nat}
    (hk : InSegment rules pins k i) :
    ∃ tag?, (latency[k]?).map (·.tag) = some tag? ∧ (delta[k]?).map (·.tag) = some tag? ∧
      (stickyTags rules.pathClasses rules.defaultClass (pins.map (·.name)))[i]? = some tag? := by
  obtain ⟨run, hrun, hstart, hstop⟩ := hk
  have htag : ∀ segments : List Segment,
      segments.map (·.tag) =
        (segmentRuns pins rules.pathClasses rules.defaultClass).map (·.tag) →
      (segments[k]?).map (·.tag) = some run.tag := by
    intro segments heq
    rw [← List.getElem?_map, heq, List.getElem?_map, hrun]
    rfl
  exact ⟨run.tag, htag latency h.latency_tags, htag delta h.delta_tags,
    h.partition.tagged run (List.mem_of_getElem? hrun) i hstart hstop⟩

end

namespace BarSeries

/-- A bar shows the pin that has the same place among some pins, and has the class of the one
segment in which this pin lies. -/
structure AgreesAt (s : BarSeries) (rules : RuleSet) (pins : List Pin)
    (latency delta : List Segment) (i : Nat) : Prop where
  pin : ∃ pin, pins[i]? = some pin ∧ s.names[i]? = some pin.name ∧ s.lines[i]? = some pin.line
  unique : ∃! k : Nat, InSegment rules pins k i
  tag : ∀ k, InSegment rules pins k i → ∃ tag?,
    (latency[k]?).map (·.tag) = some tag? ∧ (delta[k]?).map (·.tag) = some tag? ∧
      s.tags[i]? = some (tag?.getD Chart.noPathClass)

/-- Only the data path begins in the middle of a side. -/
theorem start_of_extent? {p : TimingPath} {part : BarPart} {e : Extent}
    (he : extent? p part = some e) (hpart : part ≠ .data) : e.start = 0 := by
  cases part with
  | data => exact absurd rfl hpart
  | launch =>
    obtain ⟨i, -, rfl⟩ := Option.map_eq_some_iff.mp he
    rfl
  | full =>
    cases he
    rfl
  | capture =>
    cases he
    rfl

theorem getElem?_sideTags_of_prefix {rules : RuleSet} {data : BarData} {pins side : List Pin}
    (hdata : data ≠ .cellType) (h : pins <+: side) {i : Nat} (hi : i < pins.length) :
    (sideTags rules data side)[i]? =
      ((stickyTags rules.pathClasses rules.defaultClass (pins.map (·.name)))[i]?).map
        (·.getD Chart.noPathClass) := by
  have hprefix : pins.map (·.name) <+: side.map (·.name) := h.map (·.name)
  have hlt : i < (pins.map (·.name)).length := by rwa [List.length_map]
  rw [sideTags, if_neg hdata, List.getElem?_map, getElem?_stickyTags_of_prefix hprefix hlt]

section
variable {rules : RuleSet} {file : SourceFile} {p : TimingPath} {data : BarData} {part : BarPart}
  {s : BarSeries} {remarks : List Diagnostic}

/-- The first bars of a part that begins a side agree with the segments of their pins. -/
theorem agreesAt_of_ofPath? (hp : p.WellPlaced file)
    (h : ofPath? rules p data part = some (s, remarks)) (hdata : data ≠ .cellType)
    (hpart : part ≠ .data) {pins : List Pin} (hpins : pins <+: part.pins p) {i : Nat}
    (hi : i < pins.length) :
    s.AgreesAt rules pins (segmentPins pins rules.pathClasses rules.defaultClass).1
      (segmentPins pins rules.pathClasses rules.defaultClass).2 i := by
  obtain ⟨e, he, -, -, -, hnames, hlines, -, htags, -, -⟩ := exists_extent_of_ofPath? h
  have hof := extent?_of hp he
  have hstart := start_of_extent? he hpart
  have hsegments := segmentsOf_segmentPins pins rules.pathClasses rules.defaultClass
  have hpin : (part.pins p)[i]? = some pins[i] := by
    obtain ⟨rest, hrest⟩ := hpins
    rw [← hrest, List.getElem?_append_left hi, List.getElem?_eq_getElem hi]
  have hside : pins <+: e.side := by
    refine hpins.trans ?_
    rw [← hof.pins, Extent.slice, hstart, List.drop_zero]
    exact List.take_prefix _ _
  have hlt : i < e.stop - e.start := by
    rw [← e.length_slice hof.stop_le, hof.pins]
    exact hi.trans_le hpins.length_le
  have htag : s.tags[i]? =
      ((stickyTags rules.pathClasses rules.defaultClass (pins.map (·.name)))[i]?).map
        (·.getD Chart.noPathClass) := by
    rw [htags, e.getElem?_slice _ hlt, hstart, Nat.zero_add,
      getElem?_sideTags_of_prefix hdata hside hi]
  refine ⟨⟨pins[i], List.getElem?_eq_getElem hi, ?_, ?_⟩,
    hsegments.existsUnique_inSegment hi, fun k hk => ?_⟩
  · rw [hnames, hof.pins, List.getElem?_map, hpin]
    rfl
  · rw [hlines, hof.pins, List.getElem?_map, hpin]
    rfl
  · obtain ⟨tag?, hlatency, hdelta, hsticky⟩ := hsegments.tag_of_inSegment hk
    refine ⟨tag?, hlatency, hdelta, ?_⟩
    rw [htag, hsticky]
    rfl

theorem agree_of_ofPath? (hp : p.WellPlaced file)
    (h : ofPath? rules p data part = some (s, remarks)) (hdata : data ≠ .cellType) {spin : Nat}
    (hspin : p.clockPinAt = some spin) :
    (part = .launch ∨ part = .full → ∀ i ≤ spin, s.AgreesAt rules p.launchClockPins
      (PathSegments.ofPath p rules).launchLatency (PathSegments.ofPath p rules).launchDelta i) ∧
    (part = .launch → s.tags.length = spin + 1) ∧
    (part = .capture → s.tags.length = p.capturePins.length ∧ ∀ i < p.capturePins.length,
      s.AgreesAt rules p.capturePins (PathSegments.ofPath p rules).captureLatency
        (PathSegments.ofPath p rules).captureDelta i) := by
  have hlength : p.launchClockPins.length = spin + 1 := hp.inBounds.launchClockPins spin hspin
  have htags : s.tags.length = (part.pins p).length := by
    have htags := (shows_of_ofPath? hp h).tags
    rwa [(data_and_part_of_ofPath? h).2] at htags
  refine ⟨?_, ?_, ?_⟩
  · intro hpart i hi
    have hlt : i < p.launchClockPins.length := by omega
    obtain rfl | rfl := hpart
    · exact agreesAt_of_ofPath? hp h hdata BarPart.noConfusion List.prefix_rfl hlt
    · exact agreesAt_of_ofPath? hp h hdata BarPart.noConfusion
        ⟨p.dataPins, p.launchClockPins_append_dataPins⟩ hlt
  · rintro rfl
    exact htags.trans hlength
  · rintro rfl
    exact ⟨htags, fun i hi =>
      agreesAt_of_ofPath? hp h hdata BarPart.noConfusion List.prefix_rfl hi⟩

end

end BarSeries

namespace Report
variable {r : Report} {p : TimingPath} {index spin : Nat}

theorem segments_eq (h : r.path index = .ok p) :
    r.segments index = .ok (.ofPath p r.rules) := by
  unfold segments
  rw [h]
  rfl

theorem exists_series_of_pins {file : SourceFile} {request : BarRequest} {data : BarData}
    {part : BarPart} (hp : p.WellPlaced file) (hdata : request.data.contains data = true)
    (hcolumn : r.hasColumn data.column = true) (hpart : request.parts.contains part = true)
    (hpins : part.pins p ≠ []) :
    ∃ s ∈ request.data.toList.flatMap fun data => (r.chart p request.parts.toList data).1,
      s.data = data ∧ s.part = part := by
  obtain ⟨s, remarks, hmade⟩ := (BarSeries.exists_ofPath?_iff r.rules hp data part).mpr hpins
  have hchart : s ∈ (r.chart p request.parts.toList data).1 :=
    mem_chart_iff.mpr ⟨hcolumn, part, List.contains_iff_mem.mp hpart, remarks, hmade⟩
  exact ⟨s, List.mem_flatMap.mpr ⟨data, List.contains_iff_mem.mp hdata, hchart⟩,
    BarSeries.data_and_part_of_ofPath? hmade⟩

/-- All series of a path with a clock pin agree with the segments of the path, unless they show cell
types: each bar of the launch clock network, in charts of this network and of the full path, has the
class of the launch segment of its pin, and each bar of the capture clock network has that of the
capture segment of its pin. Bars of pins without a class are labelled as such. -/
theorem barSeries_agree_segments (hp : p.IsParsed) (hindex : r.path index = .ok p)
    (hspin : p.clockPinAt = some spin) (request : BarRequest) :
    ∃ series remarks segments, r.barSeries index request = .ok (series, remarks) ∧
      r.segments index = .ok segments ∧ p.launchClockPins <+: p.launchPins ∧
      p.launchClockPins.length = spin + 1 ∧
      (∀ data part, request.data.contains data = true → r.hasColumn data.column = true →
        request.parts.contains part = true →
        part = .launch ∨ part = .full ∨ part = .capture ∧ p.capturePins ≠ [] →
        ∃ s ∈ series, s.data = data ∧ s.part = part) ∧
      ∀ s ∈ series, s.data ≠ .cellType →
        (s.part = .launch ∨ s.part = .full → ∀ i ≤ spin,
          s.AgreesAt r.rules p.launchClockPins segments.launchLatency segments.launchDelta i) ∧
        (s.part = .launch → s.tags.length = spin + 1) ∧
        (s.part = .capture → s.tags.length = p.capturePins.length ∧ ∀ i < p.capturePins.length,
          s.AgreesAt r.rules p.capturePins segments.captureLatency segments.captureDelta i) := by
  obtain ⟨file, hplaced⟩ := hp.wellPlaced
  have hlength : p.launchClockPins.length = spin + 1 := hplaced.inBounds.launchClockPins spin hspin
  have hprefix : p.launchClockPins <+: p.launchPins :=
    ⟨p.dataPins, p.launchClockPins_append_dataPins⟩
  refine ⟨_, _, _, barSeries_eq hindex request, segments_eq hindex, hprefix, hlength, ?_, ?_⟩
  · intro data part hdata hcolumn hpart hpins
    have hne : part.pins p ≠ [] := by
      obtain rfl | rfl | ⟨rfl, hcapture⟩ := hpins
      · exact List.ne_nil_of_length_eq_add_one hlength
      · exact hprefix.ne_nil (List.ne_nil_of_length_eq_add_one hlength)
      · exact hcapture
    exact exists_series_of_pins hplaced hdata hcolumn hpart hne
  · intro s hs hne
    obtain ⟨data, -, hs⟩ := List.mem_flatMap.mp hs
    obtain ⟨-, part, -, remarks, hmade⟩ := mem_chart_iff.mp hs
    obtain ⟨rfl, hpart⟩ := BarSeries.data_and_part_of_ofPath? hmade
    rw [hpart]
    exact BarSeries.agree_of_ofPath? hplaced hmade hne hspin

end Report

/-- A path whose launch clock network keeps one class, though another class comes first in the rules
and matches the clock pin of the startpoint. -/
def keptClass : SourceFile :=
  .ofText ⟨0⟩ "kept_class" ("Startpoint: ff/CK\nPoint  Incr  Path\nbuf/Z (BUF) 1 1\n" ++
    "ff/CK (DFF) 1 2\ng/D (DFF) 2 4\ndata arrival time 4\ninv/Z (INV) 1 1\n" ++
    "ff/CK (DFF) 1 2\ndata required time 2\nslack -2\n")

def keptClassRules : RuleSet :=
  ((RuleSet.ofText "pc: FF ff.*\npc: CK (buf|ff)/.*\n").toOption.map (·.1)).getD {}

def keptClassReport : Report :=
  (({ rules := keptClassRules } : Report).read keptClass [.whole]).report

theorem values_keptClassReport : keptClassReport.paths.map (·.clockPinAt) = [some 1] ∧
    (keptClassReport.barSeries 0 (BarRequest.ofCodes ["i"] ["l", "f", "c"]).1).toOption.map
        (fun made => made.1.map fun s => (s.data, s.part, s.tags)) =
      some [(.incr, .launch, ["CK", "CK"]), (.incr, .full, ["CK", "CK", "TP"]),
        (.incr, .capture, ["TP", "FF"])] ∧
    (keptClassReport.segments 0).toOption.map
        (fun s => (s.launchLatency.map (·.tag), s.captureLatency.map (·.tag))) =
      some ([some "CK"], [none, some "FF"]) := by
  rw [keptClassReport, keptClass, SourceFile.ofText_append₃ rfl rfl rfl]
  decide +kernel

theorem Report.barSeries_agree_segments_keptClass :
    ∃ p series remarks segments, keptClassReport.path 0 = .ok p ∧ p.clockPinAt = some 1 ∧
      keptClassReport.barSeries 0 (BarRequest.ofCodes ["i"] ["l", "f", "c"]).1 =
        .ok (series, remarks) ∧
      keptClassReport.segments 0 = .ok segments ∧
      series.map (fun s => (s.data, s.part, s.tags)) = [(.incr, .launch, ["CK", "CK"]),
        (.incr, .full, ["CK", "CK", "TP"]), (.incr, .capture, ["TP", "FF"])] ∧
      segments.launchLatency.map (·.tag) = [some "CK"] ∧
      segments.captureLatency.map (·.tag) = [none, some "FF"] ∧
      ∀ s ∈ series, s.part = .full →
        s.AgreesAt keptClassReport.rules p.launchClockPins segments.launchLatency
          segments.launchDelta 1 := by
  obtain ⟨hspins, hbars, htags⟩ := values_keptClassReport
  have hlength : keptClassReport.paths.length = 1 := by
    simpa using congrArg List.length hspins
  obtain ⟨p, hp⟩ := List.length_eq_one_iff.mp hlength
  have hindex : keptClassReport.path 0 = .ok p := Report.path_eq_ok (by rw [hp]; rfl)
  have hspin : p.clockPinAt = some 1 := by
    rw [hp] at hspins
    exact List.head_eq_of_cons_eq hspins
  have hparsed : p.IsParsed := by
    rw [keptClassReport] at hp
    exact TimingPath.isParsed_of_mem_read rfl (hp ▸ List.mem_singleton_self p)
  obtain ⟨series, remarks, segments, hseries, hsegments, -, -, -, hagree⟩ :=
    Report.barSeries_agree_segments hparsed hindex hspin
      (BarRequest.ofCodes ["i"] ["l", "f", "c"]).1
  rw [hseries] at hbars
  rw [hsegments] at htags
  have hbars : series.map (fun s => (s.data, s.part, s.tags)) = _ := Option.some.inj hbars
  obtain ⟨hlaunch, hcapture⟩ := Prod.mk.inj (Option.some.inj htags)
  refine ⟨p, series, remarks, segments, hindex, hspin, hseries, hsegments, hbars, hlaunch,
    hcapture, fun s hs hpart => ?_⟩
  have hdata : s.data ≠ .cellType := by
    have hmem := List.mem_map_of_mem (f := fun s => (s.data, s.part, s.tags)) hs
    rw [hbars] at hmem
    intro hcell
    simp [hcell] at hmem
  exact (hagree s hs hdata).1 (.inr hpart) 1 (Nat.le_refl 1)

end PathTiming
