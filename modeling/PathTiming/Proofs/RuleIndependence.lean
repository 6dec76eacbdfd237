import PathTiming.Proofs.LineShift
import PathTiming.Proofs.StartPort

/-! What the rules can change of a path: they classify its pins, and so place its clock pin. -/
namespace PathTiming

def Pin.bare (p : Pin) : Pin := { p with drive := none, isClock := false }

/-- The path without what the rules say of it. What the clock pin divides goes with it. -/
def TimingPath.bare (p : TimingPath) : TimingPath :=
  { p with
    launch := { p.launch with latency := 0, delta := 0, generatedAt := none }
    launchPins := p.launchPins.map Pin.bare
    capturePins := p.capturePins.map Pin.bare
    clockPinAt := none
    dataDelta := 0
    holdChecks := {} }

def Block.bare (b : Block) : Block := { b with path := b.path.bare, leftClockNetwork := false }

theorem map_bind_eq {ε α β γ : Type} {f : β → γ} {x : Except ε α} {g : α → Except ε β}
    {g' : α → Except ε γ} (h : ∀ a, (g a).map f = g' a) : (x >>= g).map f = x >>= g' := by
  cases x with
  | error e => rfl
  | ok a => exact h a

theorem error_or_ok_of_map_eq {ε α β : Type} {f : α → β} {x x' : Except ε α}
    (h : x.map f = x'.map f) :
    (∃ e, x = .error e ∧ x' = .error e) ∨ ∃ a a', x = .ok a ∧ x' = .ok a' ∧ f a = f a' := by
  match x, x', h with
  | .error e, .error _, h =>
    cases h
    exact .inl ⟨e, rfl, rfl⟩
  | .ok a, .ok a', h => exact .inr ⟨a, a', rfl, rfl, Except.ok.inj h⟩

theorem map_bind_congr {ε α β γ δ : Type} {f : α → β} {h : γ → δ} {x x' : Except ε α}
    {g g' : α → Except ε γ} (hx : x.map f = x'.map f)
    (hg : ∀ a a', f a = f a' → (g a).map h = (g' a').map h) :
    (x >>= g).map h = (x' >>= g').map h := by
  obtain ⟨e, rfl, rfl⟩ | ⟨a, a', rfl, rfl, ha⟩ := error_or_ok_of_map_eq hx
  · rfl
  · exact hg a a' ha

namespace Block

section
variable (b : Block) (line : Nat)

theorem readNet_bare (row : PinRow) : (b.readNet row).bare = b.bare.readNet row := by
  have hl : b.bare.layout = b.layout := rfl
  have hs : b.bare.stage = b.stage := rfl
  unfold readNet
  rw [hl, hs]
  dsimp only
  split
  · rfl
  · rename_i cap _
    have hset : ∀ pins : List Pin,
        modifyLast (fun p : Pin => { p with cap }) (pins.map Pin.bare) =
          (modifyLast (fun p : Pin => { p with cap }) pins).map Pin.bare :=
      modifyLast_map fun _ => rfl
    split_ifs <;> simp only [bare, TimingPath.bare, hset]

/-- Apart from what the rules say, a launch pin can be that of the startpoint, and is added. -/
theorem addLaunchPin_bare (rules : RuleSet) (row : PinRow) (p : Pin) :
    (addLaunchPin rules b row p).bare =
      { (if b.bare.clockPinFixed then b.bare else (b.placeClockPin p).bare) with
        path.launchPins := b.bare.path.launchPins ++ [p.bare] } := by
  have hf : b.bare.clockPinFixed = b.clockPinFixed := rfl
  have hpins : (b.path.launchPins ++ [p]).map Pin.bare = b.bare.path.launchPins ++ [p.bare] :=
    List.map_append
  obtain ⟨source, holdChecks, he⟩ := addLaunchPin_place rules b row p
  rw [he, ← hpins, hf]
  by_cases hf : b.clockPinFixed = true
  · rw [if_pos hf, if_pos hf]
    rfl
  · rw [if_neg hf, if_neg hf]
    obtain ⟨port, fixed, left, at?, hplace, -⟩ := b.placeClockPin_eq p
    rw [hplace]
    rfl

theorem addCapturePin_bare (rules : RuleSet) (row : PinRow) (p : Pin) :
    (addCapturePin rules b row p).bare =
      { b.bare with
        captureClockTime :=
          if b.bare.crprSeen then b.bare.captureClockTime else some p.bare.cumulative
        path.capture.generatedAt :=
          if row.isGenerated then some b.bare.path.capturePins.length
          else b.bare.path.capture.generatedAt
        path.capturePins := b.bare.path.capturePins ++ [p.bare] } := by
  have hlen : b.bare.path.capturePins.length = b.path.capturePins.length := List.length_map _
  have hpins : (b.path.capturePins ++ [p]).map Pin.bare = b.bare.path.capturePins ++ [p.bare] :=
    List.map_append
  have hcrpr : b.bare.crprSeen = b.crprSeen := rfl
  unfold addCapturePin
  rw [hlen, ← hpins, hcrpr]
  cases row.isGenerated with
  | true =>
    dsimp only
    split_ifs <;> rfl
  | false =>
    dsimp only
    split_ifs <;> rfl

theorem atPlace_bare (rules : RuleSet) (row : PinRow) (p : Pin) :
    (b.atPlace row (classify rules p)).bare = b.bare.atPlace row p.bare := by
  unfold atPlace
  cases row.location <;> rfl

theorem readHeading?_bare (text : List Char) :
    (b.readHeading? text).map bare = b.bare.readHeading? text := by
  unfold readHeading?
  dsimp only
  split
  · rfl
  split
  · rfl
  split
  · rfl
  split
  · rfl
  split_ifs <;> rfl

theorem readLabelled_bare (kind : RowKind) (rest : List Char) :
    (b.readLabelled line kind rest).map (Prod.map bare id) =
      b.bare.readLabelled line kind rest := by
  have hs : b.bare.stage = b.stage := rfl
  have hc : b.bare.isComplete = b.isComplete := rfl
  have hcrpr : b.bare.crprSeen = b.crprSeen := rfl
  unfold readLabelled
  rw [hs, hc, hcrpr]
  cases kind with
  | sourceLatency =>
    apply map_bind_eq
    intro v
    split_ifs <;> rfl
  | networkDelay =>
    apply map_bind_eq
    intro time
    split_ifs <;> rfl
  | arrival =>
    dsimp only
    split_ifs
    · exact map_bind_eq fun _ => rfl
    · rfl
  | required =>
    dsimp only
    split_ifs
    · exact map_bind_eq fun _ => rfl
    · rfl
  | slack =>
    dsimp only
    split_ifs
    · exact map_bind_eq fun _ => rfl
    · rfl
  | _ => exact map_bind_eq fun _ => rfl

theorem readClockEdge_bare (clock : String) (edge : ClockEdge) (time : Float) :
    (b.readClockEdge clock edge time).bare = b.bare.readClockEdge clock edge time := by
  unfold readClockEdge
  rw [apply_ite bare]
  rfl

theorem readSummaryLine_bare (text : List Char) :
    (b.readSummaryLine line text).map (Prod.map bare id) = b.bare.readSummaryLine line text := by
  unfold readSummaryLine
  split
  · exact map_bind_eq fun _ => rfl
  · rfl

end

section
variable {b b' : Block} (hb : b.bare = b'.bare) (rules rules' : RuleSet) (line : Nat)
include hb

theorem placeClockPin_congr {p p' : Pin} (hp : p.bare = p'.bare) :
    (b.placeClockPin p).bare = (b'.placeClockPin p').bare := by
  have hport : p'.isPort = p.isPort := (congrArg Pin.isPort hp.symm :)
  have hinst : p'.inst = p.inst := (congrArg Pin.inst hp.symm :)
  have hname : p'.name = p.name := (congrArg Pin.name hp.symm :)
  have hstartIsPort : b'.startIsPort = b.startIsPort := (congrArg startIsPort hb.symm :)
  have hstart : b'.path.startpoint = b.path.startpoint := (congrArg (·.path.startpoint) hb.symm :)
  unfold placeClockPin
  rw [hport, hinst, hname, hstartIsPort, hstart]
  dsimp only
  generalize (b.startIsPort || (p.isPort && p.name == b.path.startpoint)) = startIsPort
  have hopen := congrArg (fun b : Block => { b with startIsPort }) hb
  split
  · exact hopen
  split
  · exact congrArg (fun b : Block => { b with startIsPort, clockPinFixed := true }) hb
  · -- Whatever the rules say of the pin, they do not change more than what is left out.
    split_ifs <;> exact hopen

theorem addLaunchPin_congr (row : PinRow) {p p' : Pin} (hp : p.bare = p'.bare) :
    (addLaunchPin rules b row p).bare = (addLaunchPin rules' b' row p').bare := by
  rw [addLaunchPin_bare, addLaunchPin_bare, placeClockPin_congr hb hp, hb, hp]

theorem addCapturePin_congr (row : PinRow) {p p' : Pin} (hp : p.bare = p'.bare) :
    (addCapturePin rules b row p).bare = (addCapturePin rules' b' row p').bare := by
  rw [addCapturePin_bare, addCapturePin_bare, hb, hp]

theorem readPin_congr (row : PinRow) :
    (readPin rules b line row).map bare = (readPin rules' b' line row).map bare := by
  rw [readPin_eq, readPin_eq]
  by_cases hc : row.cell = "net"
  · rw [if_pos hc, if_pos hc]
    refine congrArg Except.ok ?_
    rw [readNet_bare, readNet_bare, hb]
  · rw [if_neg hc, if_neg hc]
    have hpin : b.pinOf line row = b'.pinOf line row := (congrArg (·.pinOf line row) hb :)
    have hs : b.stage = b'.stage := (congrArg stage hb :)
    have hmoved : (b.moveTo row).bare = (b'.moveTo row).bare := (congrArg (·.moveTo row) hb :)
    rw [hpin, hs]
    cases b'.pinOf line row with
    | error e => rfl
    | ok p =>
      have hp : (b.atPlace row (classify rules p)).bare =
          (b'.atPlace row (classify rules' p)).bare := by
        rw [atPlace_bare, atPlace_bare, hb]
      dsimp only [Bind.bind, Except.bind]
      split_ifs
      · exact congrArg Except.ok (addLaunchPin_congr hmoved rules rules' row hp)
      · exact congrArg Except.ok (addCapturePin_congr hmoved rules rules' row hp)

theorem readTableLine_congr (text : List Char) :
    (readTableLine rules b line text).map (Prod.map bare id) =
      (readTableLine rules' b' line text).map (Prod.map bare id) := by
  have htable : b.enterTable.bare = b'.enterTable.bare := (congrArg enterTable hb :)
  unfold readTableLine
  cases Row.ofText? (Text.trim text) with
  | some row =>
    cases row with
    | labelled kind rest =>
      dsimp only
      rw [readLabelled_bare, readLabelled_bare, htable]
    | clockEdge clock edge rest =>
      dsimp only
      cases timeOf line "clock edge" rest with
      | error e => rfl
      | ok time =>
        refine congrArg (fun b => Except.ok (b, false)) ?_
        rw [readClockEdge_bare, readClockEdge_bare, htable]
  | none =>
    dsimp only
    refine map_bind_congr (f := id) rfl fun row? _ h => ?_
    cases h
    cases row? with
    | none => exact congrArg (fun b => Except.ok (b, false)) hb
    | some row =>
      refine map_bind_congr (readPin_congr htable rules rules' line row) fun c c' hc => ?_
      exact congrArg (fun b => Except.ok (b, false)) hc

/-- A line makes the same of a block under all rules, but for what they say of its path. -/
theorem feed_congr (text : List Char) :
    (feed rules b line text).map (Prod.map bare id) =
      (feed rules' b' line text).map (Prod.map bare id) := by
  have hs : b.stage = b'.stage := (congrArg stage hb :)
  unfold feed
  dsimp only
  split
  · exact congrArg (fun b => Except.ok (b, false)) hb
  have hheading : (if b.stage = .header then b.readHeading? (Text.trim text) else none).map bare =
      (if b'.stage = .header then b'.readHeading? (Text.trim text) else none).map bare := by
    rw [apply_ite (Option.map bare), apply_ite (Option.map bare), readHeading?_bare,
      readHeading?_bare, hb, hs]
  cases hread : if b.stage = .header then b.readHeading? (Text.trim text) else none with
  | some c =>
    rw [hread, Option.map_some, eq_comm, Option.map_eq_some_iff] at hheading
    obtain ⟨c', hread', hc⟩ := hheading
    rw [hread']
    exact congrArg (fun b => Except.ok (b, false)) hc.symm
  | none =>
    rw [hread, Option.map_none, eq_comm, Option.map_eq_none_iff] at hheading
    rw [hheading]
    dsimp only
    rw [← hs]
    by_cases hheader : isTableHeader (Text.trim text) = true
    · rw [if_pos hheader, if_pos hheader]
      have htable :=
        (congrArg (fun b : Block => { b.enterTable with layout := .ofHeader text }) hb :)
      exact congrArg (fun b => Except.ok (b, false)) htable
    · rw [if_neg hheader, if_neg hheader]
      by_cases hsummary : b.stage = .summary
      · rw [if_pos hsummary, if_pos hsummary, readSummaryLine_bare, readSummaryLine_bare, hb]
      · rw [if_neg hsummary, if_neg hsummary]
        exact readTableLine_congr hb rules rules' line text

theorem finish_congr (through : List String) :
    (b.finish through).bare = (b'.finish through).bare := by
  have hdelta : ∀ pins : List Pin, deltaSum pins = deltaSum (pins.map Pin.bare) := by
    intro pins
    unfold deltaSum
    rw [List.foldl_map]
    rfl
  have hcapture := (congrArg (fun b : Block => { b.path with
    through
    capture := { b.path.capture with
      latency := b.captureClockTime.getD b.path.capture.edgeTime - b.path.capture.edgeTime
      delta := deltaSum b.path.capturePins } }) hb :)
  rw [finish_eq, finish_eq]
  unfold TimingPath.bare
  rw [hdelta b.path.capturePins, hdelta b'.path.capturePins]
  exact hcapture

end

end Block

namespace Scan

def bare (s : Scan) : Scan :=
  { s with paths := s.paths.map TimingPath.bare, current := s.current.map Block.bare }

section
variable {s s' : Scan} (hs : s.bare = s'.bare)
include hs

theorem current_congr :
    s.current = none ∧ s'.current = none ∨
      ∃ b b', s.current = some b ∧ s'.current = some b' ∧ b.bare = b'.bare := by
  have hcurrent : s.current.map Block.bare = s'.current.map Block.bare := (congrArg current hs :)
  cases hb : s.current with
  | none =>
    rw [hb, Option.map_none, eq_comm, Option.map_eq_none_iff] at hcurrent
    exact .inl ⟨rfl, hcurrent⟩
  | some b =>
    rw [hb, Option.map_some, eq_comm, Option.map_eq_some_iff] at hcurrent
    obtain ⟨b', hb', hbare⟩ := hcurrent
    exact .inr ⟨b, b', rfl, hb', hbare.symm⟩

theorem isFull_congr (limit : Option Nat) : s.isFull limit = s'.isFull limit := by
  have hpaths : s.paths.map TimingPath.bare = s'.paths.map TimingPath.bare :=
    (congrArg paths hs :)
  have hlen : s.paths.length = s'.paths.length := by
    rw [← List.length_map TimingPath.bare, hpaths, List.length_map]
  unfold isFull
  rw [hlen]

theorem addPath_congr {p p' : TimingPath} (hp : p.bare = p'.bare) (columns : EnumSet Column) :
    { s with paths := s.paths ++ [p], current := none, columns : Scan }.bare =
      { s' with paths := s'.paths ++ [p'], current := none, columns : Scan }.bare := by
  have hpaths : s.paths.map TimingPath.bare = s'.paths.map TimingPath.bare :=
    (congrArg paths hs :)
  unfold bare
  simp only [List.map_append, hpaths, List.map_singleton, hp, Option.map_none]

theorem setCurrent_congr {current current' : Option Block}
    (hcurrent : current.map Block.bare = current'.map Block.bare) (columns : EnumSet Column) :
    { s with current, columns : Scan }.bare =
      { s' with current := current', columns : Scan }.bare := by
  have hpaths : s.paths.map TimingPath.bare = s'.paths.map TimingPath.bare :=
    (congrArg paths hs :)
  unfold bare
  simp only [hpaths, hcurrent]

theorem close_congr (through : List String) :
    (s.close through).bare = (s'.close through).bare := by
  have hcolumns : s.columns = s'.columns := (congrArg columns hs :)
  unfold close
  obtain ⟨hnone, hnone'⟩ | ⟨b, b', hb, hb', hbare⟩ := current_congr hs
  · rw [hnone, hnone']
    exact hs
  · rw [hb, hb']
    have hc : b.isComplete = b'.isComplete := (congrArg Block.isComplete hbare :)
    dsimp only
    rw [hc, hcolumns]
    split_ifs
    · exact addPath_congr hs (Block.finish_congr hbare through) s'.columns
    · exact setCurrent_congr hs rfl s'.columns

end

/-- The rules change nothing else of what is found in a sequence of lines. -/
theorem readLines_congr (rules rules' : RuleSet) (through : List String) (limit : Option Nat)
    (lines : List (Nat × String)) {s s' : Scan} (hs : s.bare = s'.bare) :
    (readLines rules through limit s lines).map bare =
      (readLines rules' through limit s' lines).map bare := by
  induction lines generalizing s s' with
  | nil => exact congrArg Except.ok hs
  | cons l rest ih =>
    unfold readLines
    split
    · rename_i startpoint _
      have hclosed := close_congr hs through
      dsimp only
      rw [isFull_congr hclosed limit]
      split_ifs
      · exact congrArg Except.ok hclosed
      · have hcolumns : (s.close through).columns = (s'.close through).columns :=
          (congrArg columns hclosed :)
        refine ih ?_
        rw [hcolumns]
        exact setCurrent_congr hclosed rfl _
    · obtain ⟨hnone, hnone'⟩ | ⟨b, b', hb, hb', hbare⟩ := current_congr hs
      · rw [hnone, hnone']
        exact ih hs
      · rw [hb, hb']
        have hfeed := Block.feed_congr hbare rules rules' l.1 l.2.toList
        have hcolumns : s.columns = s'.columns := (congrArg columns hs :)
        dsimp only
        obtain ⟨e, hf, hf'⟩ | ⟨⟨c, atEnd⟩, ⟨c', atEnd'⟩, hf, hf', hfed⟩ :=
          error_or_ok_of_map_eq hfeed
        · rw [hf, hf']
        · obtain ⟨hc, rfl⟩ : c.bare = c'.bare ∧ atEnd = atEnd' := by simpa using hfed
          rw [hf, hf']
          dsimp only
          rw [hcolumns]
          cases atEnd with
          | false =>
            have hcurrent : (some c).map Block.bare = (some c').map Block.bare := congrArg some hc
            exact ih (setCurrent_congr hs hcurrent _)
          | true =>
            have hadded := addPath_congr hs (Block.finish_congr hc through)
              ((Block.newColumns l.2.toList).foldl EnumSet.insert s'.columns)
            rw [if_pos rfl, if_pos rfl, isFull_congr hadded limit]
            split_ifs
            · exact congrArg Except.ok hadded
            · exact ih hadded

theorem ofRange_congr (rules rules' : RuleSet) (through : List String) (file : SourceFile)
    (range : ScanRange) :
    (ofRange rules through file range).map bare = (ofRange rules' through file range).map bare := by
  have hclosed : ∀ (lines : List (Nat × String)) (cutShort : Bool),
      ((readLines rules through range.count {} lines).map fun s =>
        if cutShort then s else s.close through).map bare =
      ((readLines rules' through range.count {} lines).map fun s =>
        if cutShort then s else s.close through).map bare := by
    intro lines cutShort
    obtain ⟨e, hf, hf'⟩ | ⟨s, s', hf, hf', hs⟩ := error_or_ok_of_map_eq
      (readLines_congr rules rules' through range.count lines (s := {}) rfl)
    · rw [hf, hf']
    · rw [hf, hf']
      refine congrArg Except.ok ?_
      cases cutShort with
      | true => exact hs
      | false => exact close_congr hs through
  unfold ofRange
  split_ifs
  · rfl
  · exact hclosed _ _

end Scan

namespace Report

variable {r : Report} {file : SourceFile} {ranges : List ScanRange} {found : List Scan}

theorem Scans.congr (h : r.Scans file ranges found) (r' : Report) :
    ∃ found', r'.Scans file ranges found' ∧ found.map Scan.bare = found'.map Scan.bare := by
  induction h with
  | nil => exact ⟨[], .nil, rfl⟩
  | @cons range s ranges found hscan hrest ih =>
    obtain ⟨found', hfound, hbare⟩ := ih
    obtain ⟨e, he, -⟩ | ⟨s₁, s', hs, hs', hsame⟩ := error_or_ok_of_map_eq
      (Scan.ofRange_congr r.rules r'.rules (header file).through file range)
    · cases hscan.symm.trans he
    · cases hscan.symm.trans hs
      exact ⟨s' :: found', .cons hs' hfound, by rw [List.map_cons, List.map_cons, hsame, hbare]⟩

/-- Whatever the rules are, a report can be read or not, and the paths that are added are the same
but for what the rules say of them. -/
theorem read_congr (r r' : Report) (file : SourceFile) (ranges : List ScanRange) :
    (r.read file ranges).outcome = (r'.read file ranges).outcome ∧
      ((r.read file ranges).report.paths.drop r.paths.length).map TimingPath.bare =
        ((r'.read file ranges).report.paths.drop r'.paths.length).map TimingPath.bare := by
  obtain ⟨found, h⟩ | ⟨before, range, after, found, e, rfl, h, he⟩ := r.scans_or_error file ranges
  · obtain ⟨found', h', hbare⟩ := h.congr r'
    have hpaths : (found.flatMap (·.paths)).map TimingPath.bare =
        (found'.flatMap (·.paths)).map TimingPath.bare := by
      have hflat := congrArg (·.flatMap Scan.paths) hbare
      simp only [List.flatMap_map] at hflat
      rw [List.map_flatMap, List.map_flatMap]
      exact hflat
    have hlen : (found.flatMap (·.paths)).length = (found'.flatMap (·.paths)).length := by
      rw [← List.length_map TimingPath.bare, hpaths, List.length_map]
    rw [read_of_scans h, read_of_scans h', List.drop_left, List.drop_left]
    exact ⟨congrArg Except.ok hlen, hpaths⟩
  · obtain ⟨found', h', -⟩ := h.congr r'
    obtain ⟨e', he', hsame⟩ | ⟨s, s', hs, -, -⟩ := error_or_ok_of_map_eq
      (Scan.ofRange_congr r.rules r'.rules (header file).through file range)
    · cases he.symm.trans he'
      rw [read_of_error h he after, read_of_error h' hsame after, List.drop_length,
        List.drop_length]
      exact ⟨rfl, rfl⟩
    · cases he.symm.trans hs

end Report

end PathTiming
