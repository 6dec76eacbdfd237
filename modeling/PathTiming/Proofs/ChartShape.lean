import PathTiming.Analysis.Chart
import PathTiming.Proofs.ParsedPath
import PathTiming.Proofs.SegmentPartition

/-! The series that are made for a chart: one for each kind of data and each part that has pins, with
one bar for each pin of the part. -/
namespace PathTiming

namespace BarRequest

/-- Both sets of a request are in order. Every request that is built from codes is. -/
def Ordered (r : BarRequest) : Prop := r.data.Ordered ∧ r.parts.Ordered

theorem ordered_addData {r : BarRequest} (h : r.Ordered) (code : String) :
    (r.addData code).1.Ordered := by
  unfold addData
  split
  · exact ⟨EnumSet.ordered_filter _, h.2⟩
  · exact ⟨EnumSet.ordered_filter _, h.2⟩
  · exact h

theorem ordered_addPart {r : BarRequest} (h : r.Ordered) (code : String) :
    (r.addPart code).1.Ordered := by
  unfold addPart
  split
  · exact ⟨h.1, EnumSet.ordered_filter _⟩
  · exact h

theorem ordered_addAll {add : BarRequest → String → BarRequest × List Diagnostic}
    (hadd : ∀ {r : BarRequest}, r.Ordered → ∀ code, (add r code).1.Ordered) (codes : List String)
    {r : BarRequest} (h : r.Ordered) : (addAll add r codes).1.Ordered := by
  induction codes generalizing r with
  | nil => exact h
  | cons code codes ih => exact ih (hadd h code)

theorem ordered_ofCodes (data parts : List String) : (ofCodes data parts).1.Ordered := by
  have hempty : ({} : BarRequest).Ordered := ⟨List.nil_sublist _, List.nil_sublist _⟩
  have hparts := ordered_addAll ordered_addPart parts (ordered_addAll ordered_addData data hempty)
  unfold ofCodes
  dsimp only
  split
  · exact ⟨hparts.1, EnumSet.ordered_filter _⟩
  · exact hparts

theorem ordered_addBarSet {r : BarRequest} (h : r.Ordered) (rules : RuleSet) (tag : String) :
    (r.addBarSet rules tag).1.Ordered := by
  unfold addBarSet
  split
  · exact h
  · exact ordered_addAll ordered_addData _ h

end BarRequest

/-- The pins that stand for a part of a path in charts. The data path begins with the clock pin of the
startpoint there. -/
def BarPart.pins (p : TimingPath) : BarPart → List Pin
  | launch => p.launchClockPins
  | data => p.clockPin?.toList ++ p.dataPins
  | full => p.launchPins
  | capture => p.capturePins

namespace BarSeries

/-- One bar stands for each pin of the part, and the clock pin of the startpoint is marked. -/
structure Shows (s : BarSeries) (p : TimingPath) : Prop where
  nonempty : 0 < (s.part.pins p).length
  names : s.names = (s.part.pins p).map (·.name)
  lines : s.lines = (s.part.pins p).map (·.line)
  values : s.values = (s.part.pins p).map s.data.value
  tags : s.tags.length = (s.part.pins p).length
  drive : s.drive = if s.data = .cellType then (s.part.pins p).map (·.drive) else []
  highlight_eq_none_iff : s.highlight = none ↔ p.clockPinAt = none ∨ s.part = .capture
  highlight_pin : ∀ i ∈ s.highlight, ∃ pin, p.clockPin? = some pin ∧ (s.part.pins p)[i]? = some pin

/-- The series come by their data, and then by their parts. -/
def Before (s t : BarSeries) : Prop :=
  s.data.ctorIdx < t.data.ctorIdx ∨ s.data = t.data ∧ s.part.ctorIdx < t.part.ctorIdx

/-! ### Extents -/

theorem Extent.getElem?_slice {α : Type} (e : Extent) (items : List α) {i : Nat}
    (hi : i < e.stop - e.start) : (e.slice items)[i]? = items[e.start + i]? := by
  unfold slice
  rw [List.getElem?_take_of_lt hi, List.getElem?_drop]

theorem Extent.length_slice {α : Type} (e : Extent) {items : List α}
    (h : e.stop ≤ items.length) : (e.slice items).length = e.stop - e.start := by
  unfold slice
  rw [List.length_take, List.length_drop]
  omega

/-- An extent holds the pins of a part, and marks the clock pin of the startpoint among them. -/
structure Extent.Of (p : TimingPath) (part : BarPart) (e : Extent) : Prop where
  stop_le : e.stop ≤ e.side.length
  pins : e.slice e.side = part.pins p
  side : e.side = p.launchPins ∧ part ≠ .capture ∨ e.side = p.capturePins ∧ part = .capture
  highlight_eq_none_iff : e.highlight = none ↔ p.clockPinAt = none ∨ part = .capture
  highlight_pin : ∀ i ∈ e.highlight, ∃ pin, p.clockPin? = some pin ∧ (part.pins p)[i]? = some pin

theorem Extent.Of.lt_iff {p : TimingPath} {part : BarPart} {e : Extent} (h : e.Of p part) :
    e.start < e.stop ↔ 0 < (part.pins p).length := by
  rw [← h.pins, e.length_slice h.stop_le]
  omega

section
variable {file : SourceFile} {p : TimingPath}

theorem clockPin?_append_dataPins {i : Nat} {pin : Pin} (hat : p.clockPinAt = some i)
    (hpin : p.launchPins[i]? = some pin) :
    p.clockPin?.toList ++ p.dataPins = p.launchPins.drop i := by
  obtain ⟨hlt, hget⟩ := List.getElem?_eq_some_iff.mp hpin
  have hclock : p.clockPin? = some pin := by rw [TimingPath.clockPin?, hat]; exact hpin
  have hdata : p.dataPins = p.launchPins.drop (i + 1) := by rw [TimingPath.dataPins, hat]
  rw [hclock, hdata, List.drop_eq_getElem_cons hlt, hget]
  rfl

theorem extent?_of (hp : p.WellPlaced file) {part : BarPart} {e : Extent}
    (he : extent? p part = some e) : e.Of p part := by
  cases part with
  | capture =>
    cases he
    exact ⟨Nat.le_refl _, by simp [Extent.slice, BarPart.pins], .inr ⟨rfl, rfl⟩, by simp, by simp⟩
  | full =>
    cases he
    refine ⟨Nat.le_refl _, by simp [Extent.slice, BarPart.pins], .inl ⟨rfl, by simp⟩, by simp, ?_⟩
    intro i hi
    have hat : p.clockPinAt = some i := hi
    obtain ⟨pin, hpin, -⟩ := hp.clockPin i hat
    exact ⟨pin, by rw [TimingPath.clockPin?, hat]; exact hpin, hpin⟩
  | launch =>
    obtain ⟨i, hat, rfl⟩ := Option.map_eq_some_iff.mp he
    obtain ⟨pin, hpin, -⟩ := hp.clockPin i hat
    have hlt : i < p.launchPins.length := (List.getElem?_eq_some_iff.mp hpin).1
    have hpins : BarPart.launch.pins p = p.launchPins.take (i + 1) := by
      rw [BarPart.pins, TimingPath.launchClockPins, hat]
    refine ⟨hlt, by simp [Extent.slice, hpins], .inl ⟨rfl, by simp⟩, by simp [hat], ?_⟩
    rintro _ ⟨⟩
    refine ⟨pin, by rw [TimingPath.clockPin?, hat]; exact hpin, ?_⟩
    rw [hpins, List.getElem?_take_of_lt (Nat.lt_succ_self i), hpin]
  | data =>
    cases hat : p.clockPinAt with
    | none =>
      have hdata : p.dataPins = p.launchPins := by rw [TimingPath.dataPins, hat]
      have hclock : p.clockPin? = none := by rw [TimingPath.clockPin?, hat]; rfl
      simp only [extent?, hat] at he
      cases he
      exact ⟨Nat.le_refl _, by simp [Extent.slice, BarPart.pins, hclock, hdata],
        .inl ⟨rfl, by simp⟩, by simp [hat], by simp⟩
    | some i =>
      obtain ⟨pin, hpin, -⟩ := hp.clockPin i hat
      have hpins : BarPart.data.pins p = p.launchPins.drop i := clockPin?_append_dataPins hat hpin
      simp only [extent?, hat] at he
      cases he
      refine ⟨Nat.le_refl _, ?_, .inl ⟨rfl, by simp⟩, by simp [hat], ?_⟩
      · rw [hpins, Extent.slice, List.take_of_length_le (by rw [List.length_drop])]
      · rintro _ ⟨⟩
        refine ⟨pin, by rw [TimingPath.clockPin?, hat]; exact hpin, ?_⟩
        rw [hpins, List.getElem?_drop, Nat.add_zero, hpin]

/-- Only the launch clock network of a path without a clock pin has no extent. -/
theorem pins_of_extent?_eq_none {part : BarPart} (he : extent? p part = none) :
    part.pins p = [] := by
  cases part with
  | launch =>
    have hat : p.clockPinAt = none := Option.map_eq_none_iff.mp he
    rw [BarPart.pins, TimingPath.launchClockPins, hat]
  | data => cases hat : p.clockPinAt <;> simp [extent?, hat] at he
  | full => cases he
  | capture => cases he

end

/-! ### Single series -/

theorem length_sideTags (rules : RuleSet) (data : BarData) (side : List Pin) :
    (sideTags rules data side).length = side.length := by
  unfold sideTags
  split_ifs
  · rw [List.length_map, stickyTags, length_tagsFrom, List.length_map]
  · rw [List.length_map, length_stickyTags_names]

section
variable {rules : RuleSet} {file : SourceFile} {p : TimingPath} {data : BarData} {part : BarPart}
  {s : BarSeries} {remarks : List Diagnostic}

theorem exists_extent_of_ofPath? (h : ofPath? rules p data part = some (s, remarks)) :
    ∃ e, extent? p part = some e ∧ e.start < e.stop ∧ s.data = data ∧ s.part = part ∧
      s.names = (e.slice e.side).map (·.name) ∧ s.lines = (e.slice e.side).map (·.line) ∧
      s.values = (e.slice e.side).map data.value ∧
      s.tags = e.slice (sideTags rules data e.side) ∧
      s.drive = (if data == .cellType then (e.slice e.side).map (·.drive) else []) ∧
      s.highlight = e.highlight := by
  unfold ofPath? at h
  obtain ⟨e, he, h⟩ := Option.bind_eq_some_iff.mp h
  split_ifs at h with hle
  · cases h
  · cases h
    exact ⟨e, he, by omega, rfl, rfl, rfl, rfl, rfl, rfl, rfl, rfl⟩

theorem data_and_part_of_ofPath? (h : ofPath? rules p data part = some (s, remarks)) :
    s.data = data ∧ s.part = part := by
  obtain ⟨e, -, -, hdata, hpart, -⟩ := exists_extent_of_ofPath? h
  exact ⟨hdata, hpart⟩

theorem exists_pin_of_remark (h : ofPath? rules p data part = some (s, remarks)) {d : Diagnostic}
    (hd : d ∈ remarks) : ∃ pin, d = unknownDriveWarning pin := by
  unfold ofPath? at h
  obtain ⟨e, -, h⟩ := Option.bind_eq_some_iff.mp h
  split_ifs at h with hle
  · cases h
  · cases h
    split_ifs at hd
    · obtain ⟨pin, -, rfl⟩ := List.mem_map.mp hd
      exact ⟨pin, rfl⟩
    · cases hd

theorem shows_of_ofPath? (hp : p.WellPlaced file)
    (h : ofPath? rules p data part = some (s, remarks)) : s.Shows p := by
  obtain ⟨e, he, hlt, rfl, rfl, hnames, hlines, hvalues, htags, hdrive, hhighlight⟩ :=
    exists_extent_of_ofPath? h
  have hof := extent?_of hp he
  constructor
  · exact hof.lt_iff.mp hlt
  · rw [hnames, hof.pins]
  · rw [hlines, hof.pins]
  · rw [hvalues, hof.pins]
  · have hle : e.stop ≤ (sideTags rules s.data e.side).length := by
      rw [length_sideTags]
      exact hof.stop_le
    rw [htags, ← hof.pins, e.length_slice hle, e.length_slice hof.stop_le]
  · rw [hdrive, hof.pins]
    simp only [beq_iff_eq]
  · rw [hhighlight]
    exact hof.highlight_eq_none_iff
  · rw [hhighlight]
    exact hof.highlight_pin

theorem exists_ofPath?_iff (rules : RuleSet) (hp : p.WellPlaced file) (data : BarData)
    (part : BarPart) :
    (∃ s remarks, ofPath? rules p data part = some (s, remarks)) ↔ part.pins p ≠ [] := by
  constructor
  · rintro ⟨s, remarks, h⟩
    have hshows := shows_of_ofPath? hp h
    rw [← (data_and_part_of_ofPath? h).2]
    exact List.length_pos_iff.mp hshows.nonempty
  · intro hne
    cases he : extent? p part with
    | none => exact absurd (pins_of_extent?_eq_none he) hne
    | some e =>
      have hlt : ¬ e.stop ≤ e.start := by
        have := (extent?_of hp he).lt_iff.mpr (List.length_pos_iff.mpr hne)
        omega
      have hmade : (ofPath? rules p data part).isSome = true := by
        unfold ofPath?
        rw [he]
        simp only [Option.bind_eq_bind, Option.bind_some, if_neg hlt]
        rfl
      obtain ⟨⟨s, remarks⟩, h⟩ := Option.isSome_iff_exists.mp hmade
      exact ⟨s, remarks, h⟩

/-- The classes of all pins of a path for one kind of data. -/
def pathTags (rules : RuleSet) (data : BarData) (p : TimingPath) : List String :=
  sideTags rules data p.launchPins ++ sideTags rules data p.capturePins

/-- Each bar stands for a place among all pins of the path, and takes its class from there. -/
theorem exists_place_of_bar (hp : p.WellPlaced file)
    (h : ofPath? rules p data part = some (s, remarks)) {i n : Nat} (hn : s.lines[i]? = some n) :
    ∃ k : Nat, ((p.launchPins ++ p.capturePins).map (·.line))[k]? = some n ∧
      s.tags[i]? = (pathTags rules data p)[k]? := by
  obtain ⟨e, he, -, -, -, -, hlines, -, htags, -, -⟩ := exists_extent_of_ofPath? h
  have hof := extent?_of hp he
  rw [hlines, List.getElem?_map] at hn
  obtain ⟨pin, hpin, rfl⟩ := Option.map_eq_some_iff.mp hn
  have hi : i < e.stop - e.start := by
    have := (List.getElem?_eq_some_iff.mp hpin).1
    rwa [e.length_slice hof.stop_le] at this
  have hlt : e.start + i < e.side.length := by
    have := hof.stop_le
    omega
  rw [e.getElem?_slice _ hi] at hpin
  rw [htags, e.getElem?_slice _ hi]
  rcases hof.side with ⟨hside, -⟩ | ⟨hside, -⟩
  · rw [hside] at hpin hlt ⊢
    refine ⟨e.start + i, ?_, ?_⟩
    · rw [List.getElem?_map, List.getElem?_append_left hlt, hpin]
      rfl
    · rw [pathTags, List.getElem?_append_left (by rwa [length_sideTags])]
  · rw [hside] at hpin hlt ⊢
    refine ⟨p.launchPins.length + (e.start + i), ?_, ?_⟩
    · rw [List.getElem?_map, List.getElem?_append_right (Nat.le_add_right _ _),
        Nat.add_sub_cancel_left, hpin]
      rfl
    · rw [pathTags, List.getElem?_append_right (by rw [length_sideTags]; exact Nat.le_add_right _ _),
        length_sideTags, Nat.add_sub_cancel_left]

/-- Bars of one line show one pin, and so have one class. -/
theorem tag_eq_of_line_eq (hp : p.WellPlaced file)
    (h : ofPath? rules p data part = some (s, remarks)) {part' : BarPart} {t : BarSeries}
    {remarks' : List Diagnostic} (h' : ofPath? rules p data part' = some (t, remarks'))
    {i j n : Nat} (hi : s.lines[i]? = some n) (hj : t.lines[j]? = some n) :
    s.tags[i]? = t.tags[j]? := by
  obtain ⟨k, hk, htag⟩ := exists_place_of_bar hp h hi
  obtain ⟨l, hl, htag'⟩ := exists_place_of_bar hp h' hj
  have hlt := (List.getElem?_eq_some_iff.mp hk).1
  have hkl : k = l := (List.getElem?_inj hlt hp.nodup_lines).mp (hk.trans hl.symm)
  rw [htag, htag', hkl]

end

end BarSeries

/-! ### All series of a request -/

namespace Report
open BarSeries (ofPath? Before)

def chart (r : Report) (p : TimingPath) (parts : List BarPart) (data : BarData) :
    List BarSeries × List Diagnostic :=
  if r.hasColumn data.column then
    let made := parts.filterMap (ofPath? r.rules p data)
    (made.map (·.1), made.flatMap (·.2))
  else ([], [BarSeries.missingColumnNote data])

section
variable {r : Report} {file : SourceFile} {p : TimingPath} {index : Nat} {request : BarRequest}

theorem barSeries_eq (h : r.path index = .ok p) (request : BarRequest) :
    r.barSeries index request =
      .ok (request.data.toList.flatMap fun data => (r.chart p request.parts.toList data).1,
        request.data.toList.flatMap fun data => (r.chart p request.parts.toList data).2) := by
  unfold barSeries
  rw [h]
  change Except.ok (_, _) = _
  rw [List.flatMap_map, List.flatMap_map]
  rfl

theorem mem_chart_iff {parts : List BarPart} {data : BarData} {s : BarSeries} :
    s ∈ (r.chart p parts data).1 ↔ r.hasColumn data.column = true ∧
      ∃ part ∈ parts, ∃ remarks, ofPath? r.rules p data part = some (s, remarks) := by
  unfold chart
  by_cases hcolumn : r.hasColumn data.column = true
  · rw [if_pos hcolumn]
    constructor
    · intro hs
      obtain ⟨⟨_, remarks⟩, hmade, rfl⟩ := List.mem_map.mp hs
      obtain ⟨part, hpart, hmade⟩ := List.mem_filterMap.mp hmade
      exact ⟨hcolumn, part, hpart, remarks, hmade⟩
    · rintro ⟨-, part, hpart, remarks, hmade⟩
      exact List.mem_map.mpr ⟨(s, remarks), List.mem_filterMap.mpr ⟨part, hpart, hmade⟩, rfl⟩
  · rw [if_neg hcolumn]
    exact ⟨fun hs => absurd hs List.not_mem_nil, fun h => absurd h.1 hcolumn⟩

theorem pairwise_chart {parts : List BarPart} (hparts : parts.Pairwise (·.ctorIdx < ·.ctorIdx))
    (data : BarData) : (r.chart p parts data).1.Pairwise Before := by
  unfold chart
  split_ifs
  · dsimp only
    rw [List.pairwise_map, List.pairwise_filterMap]
    refine hparts.imp fun hlt made hmade later hlater => ?_
    obtain ⟨hdata, hpart⟩ := BarSeries.data_and_part_of_ofPath? hmade
    obtain ⟨hdata', hpart'⟩ := BarSeries.data_and_part_of_ofPath? hlater
    exact .inr ⟨hdata.trans hdata'.symm, by rwa [hpart, hpart']⟩
  · exact List.Pairwise.nil

theorem data_of_mem_chart {parts : List BarPart} {data : BarData} {s : BarSeries}
    (h : s ∈ (r.chart p parts data).1) : s.data = data := by
  obtain ⟨-, part, -, remarks, hs⟩ := mem_chart_iff.mp h
  exact (BarSeries.data_and_part_of_ofPath? hs).1

theorem pairwise_series (hrequest : request.Ordered) :
    (request.data.toList.flatMap fun data =>
      (r.chart p request.parts.toList data).1).Pairwise Before := by
  have hdata : request.data.toList.Pairwise (·.ctorIdx < ·.ctorIdx) :=
    List.Pairwise.sublist hrequest.1 (by decide)
  have hparts : request.parts.toList.Pairwise (·.ctorIdx < ·.ctorIdx) :=
    List.Pairwise.sublist hrequest.2 (by decide)
  refine List.pairwise_flatMap.mpr ⟨fun data _ => pairwise_chart hparts data, ?_⟩
  refine hdata.imp fun hlt s hs t ht => .inl ?_
  rwa [data_of_mem_chart hs, data_of_mem_chart ht]

/-- The notes about missing columns are the only ones of their kind. -/
theorem filter_missing_chart (r : Report) (p : TimingPath) (parts : List BarPart)
    (data : BarData) :
    (r.chart p parts data).2.filter (·.code = Chart.missingColumn) =
      if r.hasColumn data.column then [] else [BarSeries.missingColumnNote data] := by
  unfold chart
  split_ifs
  · dsimp only
    rw [List.filter_eq_nil_iff]
    intro d hd
    obtain ⟨⟨s, remarks⟩, hmade, hd⟩ := List.mem_flatMap.mp hd
    obtain ⟨part, -, hs⟩ := List.mem_filterMap.mp hmade
    obtain ⟨pin, rfl⟩ := BarSeries.exists_pin_of_remark hs hd
    simp [BarSeries.unknownDriveWarning, Chart.unknownDrive, Chart.missingColumn]
  · rfl

theorem filter_missing_series (r : Report) (p : TimingPath) (parts : List BarPart)
    (datas : List BarData) :
    (datas.flatMap fun data => (r.chart p parts data).2).filter
        (·.code = Chart.missingColumn) =
      (datas.filter fun data => !r.hasColumn data.column).map BarSeries.missingColumnNote := by
  induction datas with
  | nil => rfl
  | cons data datas ih =>
    rw [List.flatMap_cons, List.filter_append, filter_missing_chart, ih, List.filter_cons]
    by_cases hcolumn : r.hasColumn data.column = true <;> simp [hcolumn]

/-- The series of a path that was read come in order, one for each kind of data and each part that
are asked for and can be shown. Each has one bar for each pin of its part, and marks the clock pin of
the startpoint. Where two of them show one pin with the same data, it has the same class. -/
theorem barSeries_shape (hp : p.IsParsed) (hindex : r.path index = .ok p)
    (hrequest : request.Ordered) :
    ∃ series remarks, r.barSeries index request = .ok (series, remarks) ∧
      series.Pairwise Before ∧
      (∀ data part, (∃ s ∈ series, s.data = data ∧ s.part = part) ↔
        request.data.contains data = true ∧ request.parts.contains part = true ∧
          r.hasColumn data.column = true ∧ part.pins p ≠ []) ∧
      remarks.filter (·.code = Chart.missingColumn) =
        (request.data.toList.filter fun data => !r.hasColumn data.column).map
          BarSeries.missingColumnNote ∧
      (∀ s ∈ series, s.Shows p) ∧
      ∀ s ∈ series, ∀ t ∈ series, s.data = t.data → ∀ i j n : Nat,
        s.lines[i]? = some n → t.lines[j]? = some n → s.tags[i]? = t.tags[j]? := by
  obtain ⟨file, hplaced⟩ := hp.wellPlaced
  refine ⟨_, _, barSeries_eq hindex request, pairwise_series hrequest, ?_,
    filter_missing_series r p _ _, ?_, ?_⟩
  · intro data part
    constructor
    · rintro ⟨s, hs, rfl, rfl⟩
      obtain ⟨data, hdata, hs⟩ := List.mem_flatMap.mp hs
      obtain ⟨hcolumn, part, hpart, remarks, hmade⟩ := mem_chart_iff.mp hs
      obtain ⟨rfl, rfl⟩ := BarSeries.data_and_part_of_ofPath? hmade
      have hpins := (BarSeries.exists_ofPath?_iff r.rules hplaced s.data s.part).mp
        ⟨s, remarks, hmade⟩
      exact ⟨List.contains_iff_mem.mpr hdata, List.contains_iff_mem.mpr hpart, hcolumn, hpins⟩
    · rintro ⟨hdata, hpart, hcolumn, hpins⟩
      obtain ⟨s, remarks, hmade⟩ :=
        (BarSeries.exists_ofPath?_iff r.rules hplaced data part).mpr hpins
      refine ⟨s, List.mem_flatMap.mpr ⟨data, List.contains_iff_mem.mp hdata, ?_⟩,
        BarSeries.data_and_part_of_ofPath? hmade⟩
      exact mem_chart_iff.mpr ⟨hcolumn, part, List.contains_iff_mem.mp hpart, remarks, hmade⟩
  · intro s hs
    obtain ⟨data, -, hs⟩ := List.mem_flatMap.mp hs
    obtain ⟨-, part, -, remarks, hmade⟩ := mem_chart_iff.mp hs
    exact BarSeries.shows_of_ofPath? hplaced hmade
  · intro s hs t ht heq i j n hi hj
    obtain ⟨data, -, hs⟩ := List.mem_flatMap.mp hs
    obtain ⟨data', -, ht⟩ := List.mem_flatMap.mp ht
    have hdata : data = data' := by
      rw [← data_of_mem_chart hs, ← data_of_mem_chart ht, heq]
    subst hdata
    obtain ⟨-, part, -, remarks, hmade⟩ := mem_chart_iff.mp hs
    obtain ⟨-, part', -, remarks', hmade'⟩ := mem_chart_iff.mp ht
    exact BarSeries.tag_eq_of_line_eq hplaced hmade hmade' hi hj

end

end Report

/-! ### Remarks -/

theorem Report.severity_of_barSeries {r : Report} {index : Nat} {request : BarRequest}
    {series : List BarSeries} {remarks : List Diagnostic}
    (h : r.barSeries index request = .ok (series, remarks)) :
    ∀ d ∈ remarks, d.severity ≠ .error := by
  cases hp : r.path index with
  | error e =>
    unfold barSeries at h
    rw [hp] at h
    cases h
  | ok p =>
    rw [barSeries_eq hp] at h
    cases h
    intro d hd
    obtain ⟨data, -, hd⟩ := List.mem_flatMap.mp hd
    unfold chart at hd
    split_ifs at hd
    · obtain ⟨⟨s, remarks⟩, hmade, hd⟩ := List.mem_flatMap.mp hd
      obtain ⟨part, -, hs⟩ := List.mem_filterMap.mp hmade
      obtain ⟨pin, rfl⟩ := BarSeries.exists_pin_of_remark hs hd
      exact Severity.noConfusion
    · rw [List.mem_singleton.mp hd]
      exact Severity.noConfusion

/-- A report of one path with a clock pin, whose table does not show transitions. -/
def clockedPath : SourceFile :=
  .ofText ⟨0⟩ "clocked_path" ("Startpoint: ff/CK\nPoint  Incr  Path\nbuf/Z (BUF) 1 1\n" ++
    "ff/CK (DFF) 1 2\ng/D (DFF) 2 4\ndata arrival time 4\nslack 1\n")

theorem Report.barSeries_shape_clockedPath :
    ∃ p series remarks,
      (({ rules := {} } : Report).read clockedPath [.whole]).report.paths = [p] ∧
      (({ rules := {} } : Report).read clockedPath [.whole]).report.barSeries 0
        (BarRequest.ofCodes ["ct", "t"] ["c", "d", "l"]).1 = .ok (series, remarks) ∧
      series.map (fun s => (s.data, s.part, s.highlight)) =
        [(.incr, .launch, some 1), (.incr, .data, some 0), (.cellType, .launch, some 1),
          (.cellType, .data, some 0)] ∧
      series.Pairwise BarSeries.Before ∧ ∀ s ∈ series, s.Shows p := by
  have hread : ((({ rules := {} } : Report).read clockedPath [.whole]).report.paths.length,
      ((({ rules := {} } : Report).read clockedPath [.whole]).report.barSeries 0
        (BarRequest.ofCodes ["ct", "t"] ["c", "d", "l"]).1).toOption.map
          (fun made => made.1.map fun s => (s.data, s.part, s.highlight))) =
      (1, some [(.incr, .launch, some 1), (.incr, .data, some 0), (.cellType, .launch, some 1),
        (.cellType, .data, some 0)]) := by
    rw [clockedPath, SourceFile.ofText_append rfl rfl]
    decide +kernel
  obtain ⟨hlength, hplaces⟩ := Prod.mk.inj hread
  obtain ⟨p, hp⟩ := List.length_eq_one_iff.mp hlength
  have hparsed : p.IsParsed := by
    refine ⟨{ rules := {} }, clockedPath, [.whole], ?_⟩
    rw [hp]
    exact List.mem_singleton_self p
  have hindex : (({ rules := {} } : Report).read clockedPath [.whole]).report.path 0 = .ok p :=
    Report.path_eq_ok (by rw [hp]; rfl)
  obtain ⟨series, remarks, hseries, hordered, -, -, hshows, -⟩ :=
    Report.barSeries_shape hparsed hindex
      (BarRequest.ordered_ofCodes ["ct", "t"] ["c", "d", "l"])
  rw [hseries] at hplaces
  exact ⟨p, series, remarks, hp, hseries, Option.some.inj hplaces, hordered, hshows⟩

end PathTiming
