import Mathlib.Data.List.Nodup
import PathTiming.Proofs.RangeSelection
import PathTiming.Proofs.TokenSpan
import PathTiming.Report.Report

/-! What holds of every path that a report gives: its places are places of pins, and its pins stand
in the report one after another. -/
namespace PathTiming

def Pin.site (p : Pin) : String × Bool × Nat := (p.name, p.isPort, p.line)

structure Pin.StandsIn (file : SourceFile) (p : Pin) : Prop where
  firstWord : ∃ text, file.line? p.line = some text ∧
    (Text.words text.toList).head? = some p.name.toList
  nonempty : p.name ≠ ""
  blankFree : ∀ c ∈ p.name.toList, Unicode.isBlank c = false

theorem Pin.StandsIn.of_site_eq {file : SourceFile} {p q : Pin} (h : p.StandsIn file)
    (hs : p.site = q.site) : q.StandsIn file := by
  obtain ⟨hname, -, hline⟩ : p.name = q.name ∧ p.isPort = q.isPort ∧ p.line = q.line := by
    simpa [site] using hs
  exact ⟨hline ▸ hname ▸ h.firstWord, hname ▸ h.nonempty, hname ▸ h.blankFree⟩

/-- The places of a path are places of its pins, and the pins stand in the report one after
another. -/
structure TimingPath.WellPlaced (file : SourceFile) (p : TimingPath) : Prop where
  clockPin : ∀ i ∈ p.clockPinAt, ∃ pin, p.launchPins[i]? = some pin ∧ pin.isPort = false
  launchSource : ∀ g ∈ p.launch.generatedAt, g < p.launchPins.length
  launchSource_le : ∀ g ∈ p.launch.generatedAt, ∀ i ∈ p.clockPinAt, g ≤ i
  captureSource : ∀ g ∈ p.capture.generatedAt, g < p.capturePins.length
  ordered : (p.launchPins ++ p.capturePins).Pairwise (·.line < ·.line)
  pins : ∀ pin ∈ p.launchPins ++ p.capturePins,
    p.line < pin.line ∧ pin.line ≤ file.lineCount ∧ pin.StandsIn file

namespace TimingPath.WellPlaced
variable {file : SourceFile} {p : TimingPath}

theorem nodup_lines (h : p.WellPlaced file) :
    ((p.launchPins ++ p.capturePins).map (·.line)).Nodup :=
  List.pairwise_map.mpr (h.ordered.imp Nat.ne_of_lt)

theorem nodup_pins (h : p.WellPlaced file) : (p.launchPins ++ p.capturePins).Nodup :=
  h.nodup_lines.of_map

/-- The line of a pin tells it from all others. -/
theorem eq_of_line_eq (h : p.WellPlaced file) {a b : Pin} (ha : a ∈ p.launchPins ++ p.capturePins)
    (hb : b ∈ p.launchPins ++ p.capturePins) (hline : a.line = b.line) : a = b :=
  List.inj_on_of_nodup_map h.nodup_lines ha hb hline

end TimingPath.WellPlaced

/-- No place of a path lies outside its pins, and no difference of places falls below zero. -/
structure TimingPath.InBounds (p : TimingPath) : Prop where
  clockPin? : ∀ i ∈ p.clockPinAt, ∃ pin, p.clockPin? = some pin
  launchClockPins : ∀ i ∈ p.clockPinAt, p.launchClockPins.length = i + 1
  dataPins : ∀ i ∈ p.clockPinAt, i + 1 + p.dataPins.length = p.launchPins.length
  launchGeneratedLength : ∀ i ∈ p.clockPinAt, ∀ g ∈ p.launch.generatedAt,
    ∃ n, p.launchGeneratedLength? = some n ∧ g + n = i
  captureGeneratedLength : ∀ g ∈ p.capture.generatedAt,
    g + 1 + p.captureGeneratedLength = p.capturePins.length

theorem TimingPath.WellPlaced.inBounds {file : SourceFile} {p : TimingPath}
    (h : p.WellPlaced file) : p.InBounds := by
  have hlength : ∀ i ∈ p.clockPinAt, i < p.launchPins.length := by
    intro i hi
    obtain ⟨pin, hpin, -⟩ := h.clockPin i hi
    exact (List.getElem?_eq_some_iff.mp hpin).1
  constructor
  · intro i hi
    obtain ⟨pin, hpin, -⟩ := h.clockPin i hi
    exact ⟨pin, by rw [TimingPath.clockPin?, Option.mem_def.mp hi]; exact hpin⟩
  · intro i hi
    have hlt := hlength i hi
    unfold TimingPath.launchClockPins
    rw [Option.mem_def.mp hi]
    dsimp only
    rw [List.length_take]
    omega
  · intro i hi
    have hlt := hlength i hi
    unfold TimingPath.dataPins
    rw [Option.mem_def.mp hi]
    dsimp only
    rw [List.length_drop]
    omega
  · intro i hi g hg
    have hle := h.launchSource_le g hg i hi
    unfold TimingPath.launchGeneratedLength?
    rw [Option.mem_def.mp hi, Option.mem_def.mp hg]
    exact ⟨i - g, rfl, by omega⟩
  · intro g hg
    have hlt := h.captureSource g hg
    unfold TimingPath.captureGeneratedLength
    rw [Option.mem_def.mp hg]
    dsimp only
    omega

namespace Block

/-- What holds of a block when the lines up to `last` have been read. -/
structure WellPlaced (file : SourceFile) (last : Nat) (b : Block) : Prop where
  clockPin : ∀ i ∈ b.path.clockPinAt, ∃ pin, b.path.launchPins[i]? = some pin ∧ pin.isPort = false
  launchSource : ∀ g ∈ b.path.launch.generatedAt, g < b.path.launchPins.length
  captureSource : ∀ g ∈ b.path.capture.generatedAt, g < b.path.capturePins.length
  ordered : (b.path.launchPins ++ b.path.capturePins).Pairwise (·.line < ·.line)
  pins : ∀ pin ∈ b.path.launchPins ++ b.path.capturePins,
    b.path.line < pin.line ∧ pin.line ≤ last ∧ pin.StandsIn file
  /-- No pin comes to the launch side any more once there is one on the capture side. -/
  closed : b.path.capturePins ≠ [] → b.isComplete = true
  line : b.path.line ≤ last

/-- Blocks with the same pins, up to values, are well placed together. -/
theorem WellPlaced.of_sites {file : SourceFile} {last last' : Nat} {b b' : Block}
    (h : b.WellPlaced file last) (hle : last ≤ last') (hline : b'.path.line = b.path.line)
    (hlaunch : b'.path.launchPins.map Pin.site = b.path.launchPins.map Pin.site)
    (hcapture : b'.path.capturePins.map Pin.site = b.path.capturePins.map Pin.site)
    (hat : b'.path.clockPinAt = b.path.clockPinAt)
    (hlaunchSource : b'.path.launch.generatedAt = b.path.launch.generatedAt)
    (hcaptureSource : b'.path.capture.generatedAt = b.path.capture.generatedAt)
    (hclosed : b.isComplete = true → b'.isComplete = true) : b'.WellPlaced file last' := by
  have hsites : (b'.path.launchPins ++ b'.path.capturePins).map Pin.site =
      (b.path.launchPins ++ b.path.capturePins).map Pin.site := by
    rw [List.map_append, List.map_append, hlaunch, hcapture]
  have hlenLaunch : b'.path.launchPins.length = b.path.launchPins.length := by
    rw [← List.length_map Pin.site, hlaunch, List.length_map]
  have hlenCapture : b'.path.capturePins.length = b.path.capturePins.length := by
    rw [← List.length_map Pin.site, hcapture, List.length_map]
  constructor
  · intro i hi
    obtain ⟨pin, hpin, hport⟩ := h.clockPin i (hat ▸ hi)
    have hget : (b'.path.launchPins.map Pin.site)[i]? = some pin.site := by
      rw [hlaunch, List.getElem?_map, hpin]
      rfl
    rw [List.getElem?_map] at hget
    obtain ⟨pin', hpin', hsite⟩ := Option.map_eq_some_iff.mp hget
    have hport' : pin'.isPort = pin.isPort := congrArg (·.2.1) hsite
    exact ⟨pin', hpin', by rw [hport', hport]⟩
  · intro g hg
    rw [hlenLaunch]
    exact h.launchSource g (hlaunchSource ▸ hg)
  · intro g hg
    rw [hlenCapture]
    exact h.captureSource g (hcaptureSource ▸ hg)
  · have hlines : (b'.path.launchPins ++ b'.path.capturePins).map Pin.line =
        (b.path.launchPins ++ b.path.capturePins).map Pin.line := by
      have hthird := congrArg (List.map (·.2.2)) hsites
      rw [List.map_map, List.map_map] at hthird
      exact hthird
    have hordered : ((b.path.launchPins ++ b.path.capturePins).map Pin.line).Pairwise (· < ·) :=
      List.pairwise_map.mpr h.ordered
    rw [← hlines] at hordered
    exact List.pairwise_map.mp hordered
  · intro pin hpin
    have hmem : pin.site ∈ (b'.path.launchPins ++ b'.path.capturePins).map Pin.site :=
      List.mem_map_of_mem hpin
    rw [hsites] at hmem
    obtain ⟨q, hq, hsite⟩ := List.mem_map.mp hmem
    obtain ⟨hbefore, hupto, hstands⟩ := h.pins q hq
    have hlineq : q.line = pin.line := congrArg (·.2.2) hsite
    rw [hline, ← hlineq]
    exact ⟨hbefore, by omega, hstands.of_site_eq hsite⟩
  · intro hne
    refine hclosed (h.closed fun hnil => hne ?_)
    rw [hnil] at hlenCapture
    exact List.eq_nil_of_length_eq_zero hlenCapture
  · have := h.line
    omega

theorem SamePins.wellPlaced {file : SourceFile} {last last' : Nat} {b b' : Block}
    (hs : SamePins b b') (hclosed : b.isComplete = true → b'.isComplete = true)
    (hle : last ≤ last') (h : b.WellPlaced file last) : b'.WellPlaced file last' :=
  h.of_sites hle hs.line (by rw [hs.launchPins]) (by rw [hs.capturePins]) hs.clockPinAt
    hs.launchSource hs.captureSource hclosed

theorem map_modifyLast {α β : Type} {f : α → α} {g : α → β} (hf : ∀ a, g (f a) = g a)
    (as : List α) : (modifyLast f as).map g = as.map g := by
  fun_induction modifyLast f as with
  | case1 => rfl
  | case2 a => simp [hf]
  | case3 a rest hne ih => rw [List.map_cons, List.map_cons, ih]

/-- The row of a net changes no more of pins than capacitances. -/
theorem readNet_map {β : Type} {g : Pin → β}
    (hg : ∀ (p : Pin) (cap : Float), g { p with cap } = g p) (b : Block) (row : PinRow) :
    (b.readNet row).path.launchPins.map g = b.path.launchPins.map g ∧
      (b.readNet row).path.capturePins.map g = b.path.capturePins.map g := by
  unfold readNet
  dsimp only
  split
  · exact ⟨rfl, rfl⟩
  · split_ifs
    · exact ⟨map_modifyLast (fun p => hg p _) _, rfl⟩
    · exact ⟨rfl, map_modifyLast (fun p => hg p _) _⟩

theorem readNet_sites (b : Block) (row : PinRow) :
    (b.readNet row).path.launchPins.map Pin.site = b.path.launchPins.map Pin.site ∧
      (b.readNet row).path.capturePins.map Pin.site = b.path.capturePins.map Pin.site :=
  readNet_map (fun _ _ => rfl) b row

theorem setValue_site (p : Pin) (v : Column × Float) : (setValue p v).site = p.site := by
  unfold setValue
  split <;> rfl

theorem foldl_setValue_frame {β : Type} {g : Pin → β} (hg : ∀ p v, g (setValue p v) = g p)
    (values : List (Column × Float)) (p : Pin) : g (values.foldl setValue p) = g p := by
  induction values generalizing p with
  | nil => rfl
  | cons v rest ih => rw [List.foldl_cons, ih, hg]

theorem foldl_setValue_site (values : List (Column × Float)) (p : Pin) :
    (values.foldl setValue p).site = p.site :=
  foldl_setValue_frame setValue_site values p

theorem name_and_line_of_pinOf {b : Block} {line : Nat} {row : PinRow} {p : Pin}
    (h : b.pinOf line row = .ok p) : p.name = row.name ∧ p.line = line := by
  unfold pinOf at h
  dsimp only at h
  split at h
  · cases h
  · cases h
    have hsite := fun values => foldl_setValue_site values
    exact ⟨congrArg (·.1) (hsite _ _), congrArg (·.2.2) (hsite _ _)⟩

theorem site_atPlace_classify (rules : RuleSet) (b : Block) (row : PinRow) (p : Pin) :
    (b.atPlace row (classify rules p)).site = p.site := by
  unfold atPlace
  cases row.location <;> rfl

end Block

theorem PinRow.name_of_readTokens {line fuel : Nat} {isFirst : Bool} {r row : PinRow}
    {ts : List Text.Token} (h : readTokens line fuel isFirst r ts = .ok (some row)) :
    row.name = r.name := by
  induction fuel generalizing isFirst r ts with
  | zero =>
    unfold readTokens at h
    cases h
  | succ fuel ih =>
    cases ts with
    | nil =>
      cases h
      rfl
    | cons t rest =>
      unfold readTokens at h
      split_ifs at h with hopen hnumber
      · split at h
        · cases h
        · rw [ih h]
          unfold addGroup
          split_ifs
          · rfl
          · rfl
          · split <;> rfl
      · obtain ⟨value, -, h⟩ := ok_of_bind h
        rw [ih h]
      · exact ih h

/-- The name in the row of a pin is the first word of its line. -/
theorem PinRow.name_of_ofLine? {line : Nat} {text : List Char} {row : PinRow}
    (h : ofLine? line text = .ok (some row)) :
    (Text.words text).head? = some row.name.toList ∧ row.name ≠ "" ∧
      ∀ c ∈ row.name.toList, Unicode.isBlank c = false := by
  unfold ofLine? at h
  split at h
  · rename_i name cell rest htokens
    split_ifs at h
    · have hname : row.name.toList = name.text := by
        rw [name_of_readTokens h]
        exact String.toList_ofList
      have hword := (Text.spelled_tokens text).of_mem
        (show name ∈ Text.tokens text by rw [htokens]; exact List.mem_cons_self)
      refine ⟨?_, fun hempty => hword.1 ?_, ?_⟩
      · rw [Text.words, htokens, hname]
        rfl
      · rw [← hname, hempty]
        rfl
      · rw [hname]
        exact hword.2
    · cases h
  · cases h

namespace Block

section
variable {file : SourceFile} {rules : RuleSet} {last line : Nat} {b b' : Block}

theorem WellPlaced.addLaunchPin (h : b.WellPlaced file last) (hlt : last < line)
    (hs : b.stage = .launch) (row : PinRow) {p : Pin} (hline : p.line = line)
    (hp : p.StandsIn file) : (addLaunchPin rules b row p).WellPlaced file line := by
  obtain ⟨port, fixed, left, at?, source, checks, heq, hat, hsource⟩ :=
    addLaunchPin_eq rules b row p
  -- A pin on the launch side comes before all on the capture side.
  have hcapture := capturePins_eq_nil_of_launch h.closed hs
  have hpins := h.pins
  have hordered := h.ordered
  have hnew : b.path.line < line := Nat.lt_of_le_of_lt h.line hlt
  rw [hcapture, List.append_nil] at hpins hordered
  rw [heq]
  constructor
  · intro i hi
    rcases hat with rfl | ⟨rfl, hport⟩
    · obtain ⟨pin, hpin, hport⟩ := h.clockPin i hi
      have hi : i < b.path.launchPins.length := (List.getElem?_eq_some_iff.mp hpin).1
      exact ⟨pin, (List.getElem?_append_left hi).trans hpin, hport⟩
    · cases hi
      exact ⟨p, by simp, hport⟩
  · intro g hg
    rw [List.length_append]
    rcases hsource with rfl | rfl
    · exact Nat.lt_add_right _ (h.launchSource g hg)
    · cases hg
      exact Nat.lt_add_one _
  · exact h.captureSource
  · rw [hcapture, List.append_nil, List.pairwise_append]
    refine ⟨hordered, List.pairwise_singleton _ _, fun q hq q' hq' => ?_⟩
    rw [List.mem_singleton.mp hq', hline]
    have := (hpins q hq).2.1
    omega
  · rw [hcapture, List.append_nil]
    intro q hq
    rcases List.mem_append.mp hq with hq | hq
    · obtain ⟨hq₁, hq₂, hq₃⟩ := hpins q hq
      exact ⟨hq₁, by omega, hq₃⟩
    · rw [List.mem_singleton.mp hq]
      exact ⟨hline ▸ hnew, Nat.le_of_eq hline, hp⟩
  · intro hne
    exact absurd hcapture hne
  · exact Nat.le_of_lt hnew

theorem WellPlaced.addCapturePin (h : b.WellPlaced file last) (hlt : last < line)
    (hs : b.isComplete = true) (row : PinRow) {p : Pin} (hline : p.line = line)
    (hp : p.StandsIn file) : (addCapturePin rules b row p).WellPlaced file line := by
  obtain ⟨source, time, checks, heq, hsource⟩ := addCapturePin_eq rules b row p
  have hnew : b.path.line < line := Nat.lt_of_le_of_lt h.line hlt
  rw [heq]
  constructor
  · exact h.clockPin
  · exact h.launchSource
  · intro g hg
    rw [List.length_append]
    rcases hsource with rfl | rfl
    · exact Nat.lt_add_right _ (h.captureSource g hg)
    · cases hg
      exact Nat.lt_add_one _
  · rw [← List.append_assoc, List.pairwise_append]
    refine ⟨h.ordered, List.pairwise_singleton _ _, fun q hq q' hq' => ?_⟩
    rw [List.mem_singleton.mp hq', hline]
    have := (h.pins q hq).2.1
    omega
  · intro q hq
    rw [← List.append_assoc] at hq
    rcases List.mem_append.mp hq with hq | hq
    · obtain ⟨hq₁, hq₂, hq₃⟩ := h.pins q hq
      exact ⟨hq₁, by omega, hq₃⟩
    · rw [List.mem_singleton.mp hq]
      exact ⟨hline ▸ hnew, Nat.le_of_eq hline, hp⟩
  · intro _
    exact hs
  · exact Nat.le_of_lt hnew

theorem enterTable_stage_ne_header (b : Block) : b.enterTable.stage ≠ .header := by
  unfold enterTable Stage.inTable
  cases b.stage <;> simp

theorem moveTo_samePins (b : Block) (row : PinRow) : SamePins b (b.moveTo row) := by
  constructor <;> rfl

theorem PinStep.wellPlaced {row : PinRow} (hstep : PinStep rules b line row b')
    (h : b.WellPlaced file last) (hlt : last < line) (hs : b.stage ≠ .header)
    (hrow : ∀ p : Pin, p.name = row.name → p.line = line → p.StandsIn file) :
    b'.WellPlaced file line := by
  have hle : last ≤ last := Nat.le_refl last
  have hmoved : (b.moveTo row).WellPlaced file last :=
    (b.moveTo_samePins row).wellPlaced id hle h
  cases hstep with
  | net hc =>
    obtain ⟨hlaunch, hcapture⟩ := b.readNet_sites row
    obtain ⟨launchPins, capturePins, heq⟩ := b.readNet_eq row
    rw [heq] at hlaunch hcapture ⊢
    exact h.of_sites (Nat.le_of_lt hlt) rfl hlaunch hcapture rfl rfl rfl id
  | @launch p hc hp hstage =>
    obtain ⟨hname, hline⟩ := name_and_line_of_pinOf hp
    have hsite := site_atPlace_classify rules b row p
    exact hmoved.addLaunchPin hlt hstage row ((congrArg (·.2.2) hsite).trans hline)
      ((hrow p hname hline).of_site_eq hsite.symm)
  | @capture p hc hp hstage =>
    obtain ⟨hname, hline⟩ := name_and_line_of_pinOf hp
    have hsite := site_atPlace_classify rules b row p
    have hcomplete : (b.moveTo row).isComplete = true := by
      unfold isComplete moveTo
      cases hstage' : b.stage with
      | header => exact absurd hstage' hs
      | launch => exact absurd hstage' hstage
      | capture => rfl
      | summary => rfl
    exact hmoved.addCapturePin hlt hcomplete row ((congrArg (·.2.2) hsite).trans hline)
      ((hrow p hname hline).of_site_eq hsite.symm)

/-- Every line keeps a block well placed. -/
theorem Step.wellPlaced {text : String} {atEnd : Bool}
    (hstep : Step rules line text.toList b b' atEnd) (h : b.WellPlaced file last)
    (hlt : last < line) (htext : file.line? line = some text) : b'.WellPlaced file line := by
  obtain hsame | ⟨row, hrow, hb⟩ := hstep.samePins_or_pinStep
  · exact hsame.wellPlaced hstep.isComplete_of_isComplete (Nat.le_of_lt hlt) h
  · have htable : b.enterTable.WellPlaced file last :=
      b.enterTable_samePins.wellPlaced (fun hc => by rwa [enterTable_isComplete])
        (Nat.le_refl last) h
    obtain ⟨hfirst, hne, hblank⟩ := PinRow.name_of_ofLine? hrow
    refine hb.wellPlaced htable hlt b.enterTable_stage_ne_header fun p hname hline => ?_
    exact ⟨⟨text, by rw [hline, htext], by rw [hname]; exact hfirst⟩, by rwa [hname],
      by rwa [hname]⟩

/-- Reading the lines of a report keeps a block well placed. -/
theorem wellPlaced_of_feedLines {lines : List (Nat × String)} {r : BlockReading}
    (h : b.feedLines rules lines = .ok r) (hb : b.WellPlaced file last)
    (hsorted : lines.Pairwise (·.1 < ·.1))
    (hlines : ∀ l ∈ lines, last < l.1 ∧ file.line? l.1 = some l.2) :
    ∃ last', r.block.WellPlaced file last' := by
  induction lines generalizing b r last with
  | nil =>
    cases h
    exact ⟨last, hb⟩
  | cons l rest ih =>
    obtain ⟨hl, hrest⟩ := List.pairwise_cons.mp hsorted
    obtain ⟨hlt, htext⟩ := hlines l List.mem_cons_self
    obtain ⟨b', hf, rfl⟩ | ⟨b', r', hf, hr, rfl⟩ := feedLines_cons_eq_ok h
    · exact ⟨l.1, (feed_step hf).wellPlaced hb hlt htext⟩
    · have hlater : ∃ last', r'.block.WellPlaced file last' :=
        ih hr ((feed_step hf).wellPlaced hb hlt htext) hrest
          fun x hx => ⟨hl x hx, (hlines x (List.mem_cons_of_mem l hx)).2⟩
      exact hlater

end

theorem start_wellPlaced (file : SourceFile) (line : Nat) (startpoint : List Char) :
    (start line startpoint).WellPlaced file line := by
  constructor
  · intro i hi
    cases hi
  · intro g hg
    cases hg
  · intro g hg
    cases hg
  · exact List.Pairwise.nil
  · intro pin hpin
    cases hpin
  · intro hne
    exact absurd rfl hne
  · exact Nat.le_refl line

/-- The path of a block that is well placed is well placed: the source of a generated clock that
comes after the clock pin is forgotten at the end. -/
theorem WellPlaced.finish {file : SourceFile} {last : Nat} {b : Block} (h : b.WellPlaced file last)
    (through : List String) : (b.finish through).WellPlaced file := by
  rw [finish_eq]
  constructor
  · exact h.clockPin
  · intro g hg
    exact h.launchSource g (Option.filter_eq_some_iff.mp hg).1
  · intro g hg i hi
    have hall := (Option.filter_eq_some_iff.mp hg).2
    rw [Option.mem_def.mp hi] at hall
    simpa using hall
  · exact h.captureSource
  · exact h.ordered
  · intro pin hpin
    obtain ⟨hbefore, -, hstands⟩ := h.pins pin hpin
    refine ⟨hbefore, ?_, hstands⟩
    obtain ⟨text, htext, -⟩ := hstands.firstWord
    by_contra hlt
    unfold SourceFile.line? at htext
    rw [if_pos (.inr (by omega))] at htext
    cases htext

end Block

theorem SourceFile.line?_of_mem_numbered {file : SourceFile} {l : Nat × String}
    (h : l ∈ numbered 1 file.lines) : file.line? l.1 = some l.2 := by
  have hlines : file.linesFrom 0 = numbered 1 file.lines := file.linesFrom_eq_numbered 0
  rw [← hlines] at h
  obtain ⟨n, -, hn⟩ := List.mem_filterMap.mp h
  obtain ⟨text, htext, rfl⟩ := Option.map_eq_some_iff.mp hn
  exact htext

namespace ScanRange

/-- The lines of the blocks of any range are lines of the report, numbered upwards. -/
theorem body_of_mem_blocks {range : ScanRange} {file : SourceFile} {t : BlockText}
    (ht : t ∈ range.blocks file) : t.body.Pairwise (·.1 < ·.1) ∧
      ∀ l ∈ t.body, t.line < l.1 ∧ file.line? l.1 = some l.2 := by
  rw [blocks_eq_map_cut] at ht
  obtain ⟨u, hu, rfl⟩ := List.mem_map.mp ht
  have hwhole := List.mem_of_mem_filter hu
  have hordered := ordered_of_mem_whole_blocks hwhole
  rw [whole_blocks] at hwhole
  have hsub : (u.body.takeWhile fun l => range.reaches l.1).Sublist u.body :=
    (List.takeWhile_prefix _).sublist
  refine ⟨hordered.body.sublist hsub, fun l hl => ⟨hordered.above l (hsub.subset hl), ?_⟩⟩
  exact SourceFile.line?_of_mem_numbered
    (BlockText.subset_of_mem_divide hwhole (List.mem_cons_of_mem _ (hsub.subset hl)))

/-- Whatever block of a report can be read, its path is well placed. -/
theorem wellPlaced_of_read {range : ScanRange} {file : SourceFile} {rules : RuleSet}
    {t : BlockText} {r : BlockReading} (ht : t ∈ range.blocks file) (hr : t.read rules = .ok r)
    (through : List String) : (r.block.finish through).WellPlaced file := by
  obtain ⟨hsorted, hlines⟩ := body_of_mem_blocks ht
  obtain ⟨last, hlast⟩ := Block.wellPlaced_of_feedLines hr
    (Block.start_wellPlaced file t.line t.startpoint) hsorted hlines
  exact hlast.finish through

end ScanRange

theorem BlockReading.path_of_closedPath? {through : List String} {bound : Option Nat}
    {r : BlockReading} {c : ClosedPath} (h : r.closedPath? through bound = some c) :
    c.path = r.block.finish through := by
  unfold closedPath? at h
  split_ifs at h
  obtain ⟨closing, -, rfl⟩ := Option.map_eq_some_iff.mp h
  rfl

theorem Harvest.exists_read_of_mem_gather {rules : RuleSet} {through : List String}
    {limit : Option Nat} {ts : List BlockText} {found : Harvest}
    (h : gather rules through limit ts = .ok found) {c : ClosedPath} (hc : c ∈ found.paths) :
    ∃ t ∈ ts, ∃ r, t.read rules = .ok r ∧ c.path = r.block.finish through := by
  induction ts generalizing limit found with
  | nil =>
    cases h
    cases hc
  | cons t rest ih =>
    obtain ⟨-, rfl⟩ | ⟨r, later, -, hr, hlater, rfl⟩ := gather_cons_eq_ok rules through h
    · cases hc
    · rcases List.mem_append.mp hc with hc | hc
      · exact ⟨t, List.mem_cons_self, r, hr,
          BlockReading.path_of_closedPath? (Option.mem_toList.mp hc)⟩
      · obtain ⟨u, hu, r', hr', hpath⟩ := ih hlater hc
        exact ⟨u, List.mem_cons_of_mem t hu, r', hr', hpath⟩

theorem Scan.wellPlaced_of_ofRange {rules : RuleSet} {through : List String} {file : SourceFile}
    {range : ScanRange} {found : Scan} (h : ofRange rules through file range = .ok found)
    {p : TimingPath} (hp : p ∈ found.paths) : p.WellPlaced file := by
  obtain ⟨harvest, hg, hpaths, -⟩ := exists_gather_of_ofRange h
  rw [hpaths] at hp
  obtain ⟨c, hc, rfl⟩ := List.mem_map.mp hp
  obtain ⟨t, ht, r, hr, hpath⟩ := Harvest.exists_read_of_mem_gather hg hc
  rw [hpath]
  exact ScanRange.wellPlaced_of_read ht hr through

theorem Report.exists_ofRange_of_mem_readRanges {rules : RuleSet} {through : List String}
    {file : SourceFile} {ranges : List ScanRange} {findings : Findings}
    (h : (readRanges rules through file ranges).2 = .ok findings) {p : TimingPath}
    (hp : p ∈ findings.paths) :
    ∃ range ∈ ranges, ∃ found, Scan.ofRange rules through file range = .ok found ∧
      p ∈ found.paths := by
  induction ranges generalizing findings with
  | nil =>
    cases h
    cases hp
  | cons range rest ih =>
    unfold readRanges at h
    cases hfound : Scan.ofRange rules through file range with
    | error e => simp [hfound] at h
    | ok found =>
      simp only [hfound] at h
      cases hlater : (readRanges rules through file rest).2 with
      | error e => simp [hlater, Except.map] at h
      | ok later =>
        simp only [hlater, Except.map, Except.ok.injEq] at h
        subst h
        rcases List.mem_append.mp hp with hp | hp
        · exact ⟨range, List.mem_cons_self, found, hfound, hp⟩
        · obtain ⟨range', hrange', hrest⟩ := ih hlater hp
          exact ⟨range', List.mem_cons_of_mem range hrange', hrest⟩

/-- All paths that are added to a report are well placed. No place that is used to take pins or to
count them is out of bounds, in no block that can be read, and no remark is cut out of a line beyond
its bounds. -/
theorem Report.read_wellPlaced (r : Report) (file : SourceFile) (ranges : List ScanRange) :
    (∀ p ∈ (r.read file ranges).report.paths.drop r.paths.length,
      p.WellPlaced file ∧ p.InBounds) ∧
    (∀ (range : ScanRange) (through : List String), ∀ t ∈ range.blocks file, ∀ reading,
      t.read r.rules = .ok reading →
        (reading.block.finish through).WellPlaced file ∧
          (reading.block.finish through).InBounds) ∧
    ∀ (text : List Char) (front ts group after : List Text.Token) (t : Text.Token),
      Text.tokens text = front ++ t :: ts → t.text.head? = some '(' →
        splitGroup? (t :: ts) = some (group, after) → PinRow.IsSlice text group := by
  refine ⟨fun p hp => ?_, fun range through t ht reading hr => ?_, ?_⟩
  · have hplaced : p.WellPlaced file := by
      unfold read at hp
      dsimp only at hp
      split at hp
      · simp at hp
      · rename_i warnings findings hread
        rw [List.drop_left] at hp
        obtain ⟨range, -, found, hfound, hp⟩ :=
          exists_ofRange_of_mem_readRanges (congrArg Prod.snd hread) hp
        exact Scan.wellPlaced_of_ofRange hfound hp
    exact ⟨hplaced, hplaced.inBounds⟩
  · have hplaced := ScanRange.wellPlaced_of_read ht hr through
    exact ⟨hplaced, hplaced.inBounds⟩
  · intro text front ts group after t
    exact PinRow.isSlice_of_splitGroup?

theorem Report.read_wellPlaced_twoPaths :
    ∃ paths, (({ rules := {} } : Report).read twoPaths [.whole]).report.paths = paths ∧
      paths.map (fun p => (p.line, p.clockPinAt)) = [(1, some 0), (6, none)] ∧
      ∀ p ∈ paths, p.WellPlaced twoPaths ∧ p.InBounds := by
  have hplaced := (read_wellPlaced { rules := {} } twoPaths [.whole]).1
  rw [List.length_nil, List.drop_zero] at hplaced
  refine ⟨_, rfl, ?_, hplaced⟩
  rw [twoPaths, SourceFile.ofText_append rfl rfl]
  decide +kernel

end PathTiming
