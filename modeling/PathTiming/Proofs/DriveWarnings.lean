import Mathlib.Algebra.BigOperators.Group.List.Basic
import Std.Data.String.ToNat
import PathTiming.Proofs.ChartShape

/-! The warnings about cells without a drive strength. Every chart by cell type warns of its own bars,
so a pin that several charts show is warned of as often. -/
namespace PathTiming

/-- The pin belongs to a cell, and no rule gives the drive strength of this cell. -/
def Pin.lacksDrive (pin : Pin) : Bool := pin.drive.isNone && !pin.isPort

namespace BarSeries

/-- The chart shows the cell of a pin. Pins are told by their lines. -/
def ShowsCell (s : BarSeries) (pin : Pin) : Prop := s.data = .cellType ∧ pin.line ∈ s.lines

instance (s : BarSeries) (pin : Pin) : Decidable (s.ShowsCell pin) :=
  inferInstanceAs (Decidable (_ ∧ _))

/-- A warning names the line of its pin. -/
theorem line_eq_of_unknownDriveWarning_eq {a b : Pin}
    (h : unknownDriveWarning a = unknownDriveWarning b) : a.line = b.line := by
  have hnotes := congrArg Diagnostic.notes h
  exact Nat.repr_inj.mp (by simpa [unknownDriveWarning] using hnotes)

section
variable {rules : RuleSet} {file : SourceFile} {p : TimingPath} {data : BarData} {part : BarPart}
  {s : BarSeries} {remarks : List Diagnostic} {pin : Pin}

theorem nodup_unknownDriveWarnings (hp : p.WellPlaced file) :
    ((p.launchPins ++ p.capturePins).map unknownDriveWarning).Nodup :=
  List.pairwise_map.mpr (hp.ordered.imp fun hlt heq =>
    Nat.ne_of_lt hlt (line_eq_of_unknownDriveWarning_eq heq))

theorem sublist_launchPins (hp : p.WellPlaced file) (hpart : part ≠ .capture) :
    (part.pins p).Sublist p.launchPins := by
  cases he : extent? p part with
  | none =>
    rw [pins_of_extent?_eq_none he]
    exact List.nil_sublist _
  | some e =>
    have hof := extent?_of hp he
    obtain ⟨hside, -⟩ | ⟨-, hcapture⟩ := hof.side
    · rw [← hof.pins, ← hside]
      exact (List.take_sublist _ _).trans (List.drop_sublist _ _)
    · exact absurd hcapture hpart

theorem sublist_pins (hp : p.WellPlaced file) (part : BarPart) :
    (part.pins p).Sublist (p.launchPins ++ p.capturePins) := by
  by_cases hpart : part = .capture
  · subst hpart
    exact List.sublist_append_right _ _
  · exact (sublist_launchPins hp hpart).trans (List.sublist_append_left _ _)

theorem line_mem_iff (hp : p.WellPlaced file) (hpin : pin ∈ p.launchPins ++ p.capturePins) :
    pin.line ∈ (part.pins p).map (·.line) ↔ pin ∈ part.pins p := by
  refine ⟨fun hline => ?_, List.mem_map_of_mem⟩
  obtain ⟨pin', hpin', heq⟩ := List.mem_map.mp hline
  have hmem := (sublist_pins hp part).subset hpin'
  rwa [← hp.eq_of_line_eq hmem hpin heq]

theorem showsCell_iff (hp : p.WellPlaced file)
    (h : ofPath? rules p data part = some (s, remarks))
    (hpin : pin ∈ p.launchPins ++ p.capturePins) :
    s.ShowsCell pin ↔ data = .cellType ∧ pin ∈ part.pins p := by
  obtain ⟨hdata, hpart⟩ := data_and_part_of_ofPath? h
  unfold ShowsCell
  rw [(shows_of_ofPath? hp h).lines, hdata, hpart, line_mem_iff hp hpin]

/-- A chart by cell type warns of its pins that lack a drive strength. Other charts do not warn. -/
theorem remarks_of_ofPath? (hp : p.WellPlaced file)
    (h : ofPath? rules p data part = some (s, remarks)) :
    remarks = if data = .cellType then
      ((part.pins p).filter (·.lacksDrive)).map unknownDriveWarning else [] := by
  unfold ofPath? at h
  obtain ⟨e, he, h⟩ := Option.bind_eq_some_iff.mp h
  split_ifs at h with hle
  · cases h
  · cases h
    rw [← (extent?_of hp he).pins]
    simp only [beq_iff_eq]
    rfl

theorem nodup_remarks (hp : p.WellPlaced file)
    (h : ofPath? rules p data part = some (s, remarks)) : remarks.Nodup := by
  rw [remarks_of_ofPath? hp h]
  split_ifs
  · exact (nodup_unknownDriveWarnings hp).sublist
      ((List.filter_sublist.trans (sublist_pins hp part)).map _)
  · exact List.nodup_nil

theorem mem_remarks_iff (hp : p.WellPlaced file)
    (h : ofPath? rules p data part = some (s, remarks)) {d : Diagnostic} :
    d ∈ remarks ↔ ∃ pin ∈ p.launchPins ++ p.capturePins,
      d = unknownDriveWarning pin ∧ pin.lacksDrive = true ∧ s.ShowsCell pin := by
  rw [remarks_of_ofPath? hp h]
  constructor
  · split_ifs with hdata
    · intro hd
      obtain ⟨pin, hpin, rfl⟩ := List.mem_map.mp hd
      obtain ⟨hpart, hlacks⟩ := List.mem_filter.mp hpin
      have hmem := (sublist_pins hp part).subset hpart
      exact ⟨pin, hmem, rfl, hlacks, (showsCell_iff hp h hmem).mpr ⟨hdata, hpart⟩⟩
    · exact fun hd => absurd hd List.not_mem_nil
  · rintro ⟨pin, hpin, rfl, hlacks, hshows⟩
    obtain ⟨hdata, hpart⟩ := (showsCell_iff hp h hpin).mp hshows
    rw [if_pos hdata]
    exact List.mem_map_of_mem (List.mem_filter.mpr ⟨hpart, hlacks⟩)

/-- One chart warns of a pin once, if it shows its cell and the cell lacks a drive strength. -/
theorem count_remarks (hp : p.WellPlaced file)
    (h : ofPath? rules p data part = some (s, remarks))
    (hpin : pin ∈ p.launchPins ++ p.capturePins) :
    remarks.count (unknownDriveWarning pin) =
      if pin.lacksDrive = true ∧ s.ShowsCell pin then 1 else 0 := by
  rw [(nodup_remarks hp h).count]
  refine if_congr ((mem_remarks_iff hp h).trans ⟨?_, fun h => ⟨pin, hpin, rfl, h⟩⟩) rfl rfl
  rintro ⟨pin', hpin', heq, hlacks⟩
  rwa [hp.eq_of_line_eq hpin hpin' (line_eq_of_unknownDriveWarning_eq heq)]

end

end BarSeries

/-! ### Pins that several parts show -/

namespace BarPart

def coversLaunch (p : TimingPath) (i : Nat) : BarPart → Bool
  | launch => p.clockPinAt.any fun spin => decide (i ≤ spin)
  | data => p.clockPinAt.all fun spin => decide (spin ≤ i)
  | full => true
  | capture => false

section
variable {file : SourceFile} {p : TimingPath} {pin : Pin}

theorem mem_take_iff {α : Type} {items : List α} (h : items.Nodup) {i n : Nat} {a : α}
    (ha : items[i]? = some a) : a ∈ items.take n ↔ i < n := by
  rw [List.mem_iff_getElem?]
  constructor
  · rintro ⟨j, hj⟩
    rw [List.getElem?_take] at hj
    split_ifs at hj with hlt
    have hi := (List.getElem?_eq_some_iff.mp ha).1
    have hij : i = j := (List.getElem?_inj hi h).mp (ha.trans hj.symm)
    omega
  · intro hlt
    exact ⟨i, by rw [List.getElem?_take_of_lt hlt, ha]⟩

theorem mem_drop_iff {α : Type} {items : List α} (h : items.Nodup) {i n : Nat} {a : α}
    (ha : items[i]? = some a) : a ∈ items.drop n ↔ n ≤ i := by
  rw [List.mem_iff_getElem?]
  constructor
  · rintro ⟨j, hj⟩
    rw [List.getElem?_drop] at hj
    have hi := (List.getElem?_eq_some_iff.mp ha).1
    have hij : i = n + j := (List.getElem?_inj hi h).mp (ha.trans hj.symm)
    omega
  · intro hle
    exact ⟨i - n, by rw [List.getElem?_drop, Nat.add_sub_cancel' hle, ha]⟩

theorem mem_pins_iff_coversLaunch (hp : p.WellPlaced file) {i : Nat}
    (hpin : p.launchPins[i]? = some pin) (part : BarPart) :
    pin ∈ part.pins p ↔ part.coversLaunch p i = true := by
  have hnodup := hp.nodup_pins
  have hlaunch : p.launchPins.Nodup := hnodup.of_append_left
  have hmem : pin ∈ p.launchPins := List.mem_of_getElem? hpin
  cases part with
  | full => simp [pins, coversLaunch, hmem]
  | capture =>
    have hnot : pin ∉ p.capturePins := List.disjoint_of_nodup_append hnodup hmem
    simp [pins, coversLaunch, hnot]
  | launch =>
    unfold pins coversLaunch TimingPath.launchClockPins
    cases p.clockPinAt with
    | none => simp
    | some spin =>
      dsimp only
      rw [mem_take_iff hlaunch hpin, Nat.lt_succ_iff]
      simp
  | data =>
    unfold pins coversLaunch
    cases hat : p.clockPinAt with
    | none => simp [TimingPath.clockPin?, TimingPath.dataPins, hat, hmem]
    | some spin =>
      obtain ⟨clockPin, hclock, -⟩ := hp.clockPin spin hat
      rw [BarSeries.clockPin?_append_dataPins hat hclock, mem_drop_iff hlaunch hpin]
      simp

theorem mem_pins_iff_eq_capture (hp : p.WellPlaced file) (hpin : pin ∈ p.capturePins)
    (part : BarPart) : pin ∈ part.pins p ↔ part = .capture := by
  constructor
  · intro hmem
    by_contra hpart
    have hlaunch := (BarSeries.sublist_launchPins hp hpart).subset hmem
    exact List.disjoint_of_nodup_append hp.nodup_pins hlaunch hpin
  · rintro rfl
    exact hpin

end

end BarPart

/-! ### All charts of a request -/

theorem count_flatMap_eq_countP {α : Type} {items : List α} {f : α → List Diagnostic}
    {g : α → List BarSeries} {d : Diagnostic} {q : BarSeries → Bool}
    (h : ∀ a ∈ items, (f a).count d = (g a).countP q) :
    (items.flatMap f).count d = (items.flatMap g).countP q := by
  rw [List.count_flatMap, List.countP_flatMap]
  congr 1
  exact List.map_congr_left h

namespace Report
open BarSeries (ofPath? unknownDriveWarning)

section
variable {r : Report} {file : SourceFile} {p : TimingPath} {pin : Pin}

theorem count_chart (hp : p.WellPlaced file) (hpin : pin ∈ p.launchPins ++ p.capturePins)
    (parts : List BarPart) (data : BarData) :
    (r.chart p parts data).2.count (unknownDriveWarning pin) =
      (r.chart p parts data).1.countP fun s => pin.lacksDrive && decide (s.ShowsCell pin) := by
  unfold chart
  split_ifs
  · dsimp only
    rw [List.map_eq_flatMap]
    refine count_flatMap_eq_countP fun made hmade => ?_
    obtain ⟨part, -, h⟩ := List.mem_filterMap.mp hmade
    rw [BarSeries.count_remarks hp h hpin]
    simp [List.countP_singleton]
  · simp [BarSeries.missingColumnNote, unknownDriveWarning]

/-- A pin that lacks a drive strength is warned of as often as charts show its cell. -/
theorem count_remarks (hp : p.WellPlaced file) (hpin : pin ∈ p.launchPins ++ p.capturePins)
    (parts : List BarPart) (datas : List BarData) :
    (datas.flatMap fun data => (r.chart p parts data).2).count (unknownDriveWarning pin) =
      if pin.lacksDrive then
        (datas.flatMap fun data => (r.chart p parts data).1).countP (·.ShowsCell pin) else 0 := by
  rw [count_flatMap_eq_countP fun data _ => count_chart hp hpin parts data]
  cases pin.lacksDrive <;> simp

/-- The charts by cell type show a pin once for each part that has it. -/
theorem countP_chart (hp : p.WellPlaced file) (hpin : pin ∈ p.launchPins ++ p.capturePins)
    {q : BarPart → Bool} (hq : ∀ part : BarPart, pin ∈ part.pins p ↔ q part = true)
    (parts : List BarPart) :
    (r.chart p parts .cellType).1.countP (·.ShowsCell pin) =
      if r.hasColumn .incr then parts.countP q else 0 := by
  unfold chart
  by_cases hcolumn : r.hasColumn BarData.cellType.column = true
  · rw [if_pos hcolumn, if_pos (show r.hasColumn .incr = true from hcolumn)]
    dsimp only
    rw [List.countP_map, List.countP_filterMap]
    refine List.countP_congr fun part _ => ?_
    rw [← hq part]
    cases h : ofPath? r.rules p .cellType part with
    | none =>
      have hnil : part.pins p = [] := by
        by_contra hne
        obtain ⟨s, remarks, hmade⟩ := (BarSeries.exists_ofPath?_iff r.rules hp _ part).mpr hne
        rw [h] at hmade
        cases hmade
      simp [hnil]
    | some made => simp [BarSeries.showsCell_iff hp h hpin]
  · rw [if_neg hcolumn, if_neg (show ¬ r.hasColumn .incr = true from hcolumn)]
    rfl

theorem countP_series (hp : p.WellPlaced file) (hpin : pin ∈ p.launchPins ++ p.capturePins)
    {q : BarPart → Bool} (hq : ∀ part : BarPart, pin ∈ part.pins p ↔ q part = true)
    {request : BarRequest} (hrequest : request.Ordered) :
    (request.data.toList.flatMap fun data => (r.chart p request.parts.toList data).1).countP
        (·.ShowsCell pin) =
      if request.data.contains .cellType && r.hasColumn .incr then request.parts.toList.countP q
      else 0 := by
  have hzero : ∀ data, data ≠ .cellType → data ∈ request.data.toList →
      (r.chart p request.parts.toList data).1.countP (·.ShowsCell pin) = 0 := by
    intro data hdata _
    refine List.countP_eq_zero.mpr fun s hs hshows => hdata ?_
    rw [← data_of_mem_chart hs]
    exact (of_decide_eq_true hshows).1
  have hnodup : request.data.toList.Nodup :=
    List.Nodup.sublist hrequest.1 (by decide)
  rw [List.countP_flatMap, Function.comp_def,
    List.sum_map_eq_nsmul_single BarData.cellType _ hzero, hnodup.count, countP_chart hp hpin hq]
  by_cases hdata : BarData.cellType ∈ request.data.toList
  · simp [EnumSet.contains, hdata]
  · simp [EnumSet.contains, hdata]

/-- A drive warning names a pin that some chart shows. -/
theorem exists_pin_of_driveWarning (hp : p.WellPlaced file) {parts : List BarPart} {data : BarData}
    {d : Diagnostic} (hd : d ∈ (r.chart p parts data).2) (hcode : d.code = Chart.unknownDrive) :
    ∃ pin ∈ p.launchPins ++ p.capturePins, d = unknownDriveWarning pin ∧
      pin.lacksDrive = true ∧ ∃ s ∈ (r.chart p parts data).1, s.ShowsCell pin := by
  unfold chart at hd ⊢
  split_ifs at hd ⊢
  · obtain ⟨⟨s, remarks⟩, hmade, hd⟩ := List.mem_flatMap.mp hd
    obtain ⟨part, -, h⟩ := List.mem_filterMap.mp hmade
    obtain ⟨pin, hpin, rfl, hlacks, hshows⟩ := (BarSeries.mem_remarks_iff hp h).mp hd
    exact ⟨pin, hpin, rfl, hlacks, s, List.mem_map_of_mem (f := (·.1)) hmade, hshows⟩
  · rw [List.mem_singleton.mp hd] at hcode
    exact absurd hcode (show Chart.missingColumn ≠ Chart.unknownDrive by decide)

/-- Each pin that lacks a drive strength and is shown in a chart by cell type is warned of once, and
no other pin is warned of. -/
def WarnsOnce (p : TimingPath) (series : List BarSeries) (remarks : List Diagnostic) : Prop :=
  ∀ pin ∈ p.launchPins ++ p.capturePins, remarks.count (unknownDriveWarning pin) =
    if pin.lacksDrive = true ∧ ∃ s ∈ series, s.ShowsCell pin then 1 else 0

theorem warnsOnce_iff {series : List BarSeries} {remarks : List Diagnostic}
    (h : ∀ pin ∈ p.launchPins ++ p.capturePins, remarks.count (unknownDriveWarning pin) =
      if pin.lacksDrive then series.countP (·.ShowsCell pin) else 0) :
    WarnsOnce p series remarks ↔ ∀ pin ∈ p.launchPins ++ p.capturePins,
      pin.lacksDrive = true → series.countP (·.ShowsCell pin) ≤ 1 := by
  refine forall₂_congr fun pin hpin => ?_
  rw [h pin hpin]
  cases hlacks : pin.lacksDrive with
  | false => simp
  | true =>
    have hpos : 0 < series.countP (·.ShowsCell pin) ↔ ∃ s ∈ series, s.ShowsCell pin := by
      simp [List.countP_pos_iff]
    rw [if_pos rfl, forall_prop_of_true rfl]
    by_cases hshown : ∃ s ∈ series, s.ShowsCell pin
    · have hcount := hpos.mpr hshown
      rw [if_pos ⟨rfl, hshown⟩]
      omega
    · have hcount := mt hpos.mp hshown
      rw [if_neg fun h => hshown h.2]
      omega

/-- A pin that lacks a drive strength is warned of as often as charts by cell type show it, which is
once for each part that has the pin. So all such pins are warned of once unless two parts have one of
them. The warnings about different pins differ, and there are no others. -/
theorem driveWarnings_of_barSeries {index : Nat} {request : BarRequest} (hp : p.IsParsed)
    (hindex : r.path index = .ok p) (hrequest : request.Ordered) :
    ∃ series remarks, r.barSeries index request = .ok (series, remarks) ∧
      ((p.launchPins ++ p.capturePins).map unknownDriveWarning).Nodup ∧
      (∀ d ∈ remarks, d.code = Chart.unknownDrive → ∃ pin ∈ p.launchPins ++ p.capturePins,
        d = unknownDriveWarning pin ∧ pin.lacksDrive = true ∧ ∃ s ∈ series, s.ShowsCell pin) ∧
      (∀ pin ∈ p.launchPins ++ p.capturePins, remarks.count (unknownDriveWarning pin) =
        if pin.lacksDrive then series.countP (·.ShowsCell pin) else 0) ∧
      (∀ i pin, p.launchPins[i]? = some pin → series.countP (·.ShowsCell pin) =
        if request.data.contains .cellType && r.hasColumn .incr then
          request.parts.toList.countP (·.coversLaunch p i) else 0) ∧
      (∀ pin ∈ p.capturePins, series.countP (·.ShowsCell pin) =
        if request.data.contains .cellType && r.hasColumn .incr && request.parts.contains .capture
        then 1 else 0) ∧
      (WarnsOnce p series remarks ↔ ∀ pin ∈ p.launchPins ++ p.capturePins,
        pin.lacksDrive = true → series.countP (·.ShowsCell pin) ≤ 1) := by
  obtain ⟨file, hplaced⟩ := hp.wellPlaced
  refine ⟨_, _, barSeries_eq hindex request, BarSeries.nodup_unknownDriveWarnings hplaced, ?_,
    fun pin hpin => count_remarks hplaced hpin _ _, ?_, ?_,
    warnsOnce_iff fun pin hpin => count_remarks hplaced hpin _ _⟩
  · intro d hd hcode
    obtain ⟨data, hdata, hd⟩ := List.mem_flatMap.mp hd
    obtain ⟨pin, hpin, heq, hlacks, s, hs, hshows⟩ := exists_pin_of_driveWarning hplaced hd hcode
    exact ⟨pin, hpin, heq, hlacks, s, List.mem_flatMap.mpr ⟨data, hdata, hs⟩, hshows⟩
  · intro i pin hpin
    exact countP_series hplaced (List.mem_append_left _ (List.mem_of_getElem? hpin))
      (BarPart.mem_pins_iff_coversLaunch hplaced hpin) hrequest
  · intro pin hpin
    have hcapture : ∀ part : BarPart, pin ∈ part.pins p ↔ (part == .capture) = true := by
      intro part
      rw [BarPart.mem_pins_iff_eq_capture hplaced hpin, beq_iff_eq]
    have hnodup : request.parts.toList.Nodup := hrequest.2.nodup (by decide)
    have hparts : request.parts.toList.countP (· == .capture) =
        if request.parts.contains .capture then 1 else 0 := by
      refine hnodup.count.trans (if_congr ?_ rfl rfl)
      exact List.contains_iff_mem.symm
    rw [countP_series hplaced (List.mem_append_right _ hpin) hcapture hrequest, hparts]
    cases request.parts.contains .capture <;> simp

end

/-- A report of one path, two charts of which show the clock pin of the startpoint. -/
def clockedReport : Report := (({ rules := {} } : Report).read clockedPath [.whole]).report

def clockedRequest : BarRequest := (BarRequest.ofCodes ["ct"] ["l", "d"]).1

theorem values_clockedReport :
    clockedReport.paths.map (fun p => (p.launchPins.map (·.lacksDrive), p.clockPinAt)) =
        [([true, true, true], some 1)] ∧ clockedReport.hasColumn .incr = true ∧
      (clockedReport.barSeries 0 clockedRequest).toOption.map (fun made => made.2.map (·.notes)) =
        some [["report line 3"], ["report line 4"], ["report line 4"], ["report line 5"]] := by
  rw [clockedReport, clockedPath, SourceFile.ofText_append rfl rfl]
  decide +kernel

/-- Both charts of the cell types show the clock pin of the startpoint. -/
theorem exists_pin_clockedReport :
    ∃ p pin, clockedReport.path 0 = .ok p ∧ p.IsParsed ∧ p.clockPinAt = some 1 ∧
      p.launchPins[1]? = some pin ∧ pin.lacksDrive = true ∧
      clockedRequest.parts.toList.countP (·.coversLaunch p 1) = 2 := by
  obtain ⟨p, hp, hvalues⟩ := List.map_eq_singleton_iff.mp values_clockedReport.1
  obtain ⟨hlacking, hat⟩ := Prod.mk.inj hvalues
  have hsecond : (p.launchPins.map (·.lacksDrive))[1]? = some true := by
    rw [hlacking]
    rfl
  rw [List.getElem?_map] at hsecond
  obtain ⟨pin, hpin, hlacks⟩ := Option.map_eq_some_iff.mp hsecond
  have hparts : clockedRequest.parts.toList = [.launch, .data] := by decide
  refine ⟨p, pin, path_eq_ok (by rw [hp]; rfl), ?_, hat, hpin, hlacks, ?_⟩
  · rw [clockedReport] at hp
    exact TimingPath.isParsed_of_mem_read rfl (hp ▸ List.mem_singleton_self p)
  · rw [hparts]
    simp [BarPart.coversLaunch, hat]

theorem driveWarnings_of_barSeries_clockedPath :
    ∃ p series remarks pin, clockedReport.path 0 = .ok p ∧ p.launchPins[1]? = some pin ∧
      clockedReport.barSeries 0 clockedRequest = .ok (series, remarks) ∧
      remarks.map (·.notes) =
        [["report line 3"], ["report line 4"], ["report line 4"], ["report line 5"]] ∧
      series.countP (·.ShowsCell pin) = 2 ∧ remarks.count (unknownDriveWarning pin) = 2 := by
  obtain ⟨-, hcolumn, hnotes⟩ := values_clockedReport
  obtain ⟨p, pin, hindex, hparsed, -, hpin, hlacks, hparts⟩ := exists_pin_clockedReport
  have hrequest : clockedRequest.Ordered := BarRequest.ordered_ofCodes ["ct"] ["l", "d"]
  obtain ⟨series, remarks, hseries, -, -, hcount, hlaunch, -⟩ :=
    driveWarnings_of_barSeries hparsed hindex hrequest
  have hdata : clockedRequest.data.contains .cellType = true := by decide
  have htwice : series.countP (·.ShowsCell pin) = 2 := by
    rw [hlaunch 1 pin hpin, hparts, hdata, hcolumn]
    rfl
  rw [hseries] at hnotes
  refine ⟨p, series, remarks, pin, hindex, hpin, hseries, Option.some.inj hnotes, htwice, ?_⟩
  rw [hcount pin (List.mem_append_left _ (List.mem_of_getElem? hpin)), if_pos hlacks, htwice]

/-- Where two charts show a pin, they warn of it twice. -/
theorem driveWarning_repeated :
    ¬ ∀ (r : Report) (p : TimingPath) (index : Nat) (request : BarRequest), p.IsParsed →
      r.path index = .ok p → request.Ordered → ∀ series remarks,
        r.barSeries index request = .ok (series, remarks) → WarnsOnce p series remarks := by
  intro h
  obtain ⟨-, hcolumn, -⟩ := values_clockedReport
  obtain ⟨p, pin, hindex, hparsed, -, hpin, hlacks, hparts⟩ := exists_pin_clockedReport
  obtain ⟨file, hplaced⟩ := hparsed.wellPlaced
  have hrequest : clockedRequest.Ordered := BarRequest.ordered_ofCodes ["ct"] ["l", "d"]
  have hdata : clockedRequest.data.contains .cellType = true := by decide
  have hmem : pin ∈ p.launchPins ++ p.capturePins :=
    List.mem_append_left _ (List.mem_of_getElem? hpin)
  have hshown := countP_series hplaced hmem
    (BarPart.mem_pins_iff_coversLaunch hplaced hpin) (r := clockedReport) hrequest
  rw [hdata, hcolumn, hparts, Bool.and_self, if_pos rfl] at hshown
  have honce := (warnsOnce_iff fun pin hpin => count_remarks hplaced hpin _ _).mp
    (h clockedReport p 0 clockedRequest hparsed hindex hrequest _ _
      (barSeries_eq hindex clockedRequest)) pin hmem hlacks
  rw [hshown] at honce
  omega

end Report

end PathTiming
