import Mathlib.Data.List.Forall2
import Mathlib.Tactic.Common
import PathTiming.Report.Block

/-! What one line can do to a block. -/
namespace PathTiming

section
variable {ε α β : Type}

/-- A composite step that gives a result went through its first part. -/
theorem ok_of_bind {x : Except ε α} {f : α → Except ε β} {b : β}
    (h : (x >>= f) = .ok b) : ∃ a, x = .ok a ∧ f a = .ok b := by
  match x, h with
  | .ok a, h => exact ⟨a, rfl, h⟩

theorem ok_of_map {x : Except ε α} {f : α → β} {b : β} (h : x.map f = .ok b) :
    ∃ a, x = .ok a ∧ f a = b := by
  match x, h with
  | .ok a, h => exact ⟨a, rfl, Except.ok.inj h⟩

theorem ok_of_toOption {x : Except ε α} {a : α} (h : x.toOption = some a) : x = .ok a := by
  match x, h with
  | .ok _, rfl => rfl

theorem ok_of_toOption_map {x : Except ε α} {f : α → β} {b : β}
    (h : x.toOption.map f = some b) : ∃ a, x = .ok a ∧ f a = b := by
  obtain ⟨a, ha, hb⟩ := Option.map_eq_some_iff.mp h
  exact ⟨a, ok_of_toOption ha, hb⟩

theorem mapM_eq_ok_iff {f : α → Except ε β} {xs : List α} {ys : List β} :
    xs.mapM f = .ok ys ↔ List.Forall₂ (fun x y => f x = .ok y) xs ys := by
  induction xs generalizing ys with
  | nil => simp [pure, Except.pure, eq_comm]
  | cons x xs ih =>
    rw [List.mapM_cons, List.forall₂_cons_left_iff]
    cases hx : f x with
    | error e => simp [bind, Except.bind]
    | ok y =>
      cases hxs : xs.mapM f with
      | error e => simp [bind, Except.bind, ← ih, hxs]
      | ok zs => simp [bind, Except.bind, pure, Except.pure, ← ih, hxs, eq_comm]

/-- A list is cut at its head or behind it. -/
theorem exists_cut_cons_iff {x : α} {xs : List α} {P : List α → α → Prop} :
    (∃ before y after, x :: xs = before ++ y :: after ∧ P before y) ↔
      P [] x ∨ ∃ before y after, xs = before ++ y :: after ∧ P (x :: before) y := by
  constructor
  · rintro ⟨before, y, after, hxs, hP⟩
    obtain ⟨rfl, hcons⟩ | ⟨before, rfl, rfl⟩ := List.cons_eq_append_iff.mp hxs
    · cases hcons
      exact .inl hP
    · exact .inr ⟨before, y, after, rfl, hP⟩
  · rintro (hP | ⟨before, y, after, rfl, hP⟩)
    · exact ⟨[], x, xs, rfl, hP⟩
    · exact ⟨x :: before, y, after, rfl, hP⟩

/-- The first element that fails gives the error. -/
theorem mapM_eq_error_iff {f : α → Except ε β} {xs : List α} {e : ε} :
    xs.mapM f = .error e ↔ ∃ before x after, xs = before ++ x :: after ∧
      (∀ y ∈ before, ∃ z, f y = .ok z) ∧ f x = .error e := by
  induction xs with
  | nil => simp [pure, Except.pure]
  | cons x xs ih =>
    rw [List.mapM_cons, exists_cut_cons_iff]
    cases hx : f x with
    | error e' => simp [bind, Except.bind, hx]
    | ok w =>
      have hrest : (Except.ok w >>= fun w => xs.mapM f >>= fun ws => pure (w :: ws)) = .error e ↔
          xs.mapM f = .error e := by
        cases xs.mapM f <;> simp [bind, Except.bind, pure, Except.pure]
      rw [hrest, ih]
      simp [hx]

end

namespace Block

/-- The pin of a row with its distance from the last place. -/
def atPlace (b : Block) (row : PinRow) (p : Pin) : Pin :=
  match row.location with
  | none => p
  | some place => { p with distance := (b.lastPlace.map fun last => distance last place).getD 0 }

def moveTo (b : Block) (row : PinRow) : Block :=
  { b with lastPlace := row.location.or b.lastPlace }

inductive PinStep (rules : RuleSet) (b : Block) (line : Nat) (row : PinRow) : Block → Prop
  | net (hc : row.cell = "net") : PinStep rules b line row (b.readNet row)
  | launch {p : Pin} (hc : row.cell ≠ "net") (hp : b.pinOf line row = .ok p)
      (hs : b.stage = .launch) :
      PinStep rules b line row
        (addLaunchPin rules (b.moveTo row) row (b.atPlace row (classify rules p)))
  | capture {p : Pin} (hc : row.cell ≠ "net") (hp : b.pinOf line row = .ok p)
      (hs : b.stage ≠ .launch) :
      PinStep rules b line row
        (addCapturePin rules (b.moveTo row) row (b.atPlace row (classify rules p)))

theorem readPin_eq (rules : RuleSet) (b : Block) (line : Nat) (row : PinRow) :
    readPin rules b line row =
      if row.cell = "net" then .ok (b.readNet row)
      else b.pinOf line row >>= fun p =>
        if b.stage = .launch
        then .ok (addLaunchPin rules (b.moveTo row) row (b.atPlace row (classify rules p)))
        else .ok (addCapturePin rules (b.moveTo row) row (b.atPlace row (classify rules p))) := by
  unfold readPin moveTo atPlace
  by_cases hc : row.cell = "net"
  · rw [if_pos hc, if_pos hc]
    rfl
  · rw [if_neg hc, if_neg hc]
    cases row.location <;> rfl

theorem readPin_step {rules : RuleSet} {b b' : Block} {line : Nat} {row : PinRow}
    (h : readPin rules b line row = .ok b') : PinStep rules b line row b' := by
  rw [readPin_eq] at h
  by_cases hc : row.cell = "net"
  · rw [if_pos hc] at h
    cases h
    exact .net hc
  · rw [if_neg hc] at h
    obtain ⟨p, hp, h⟩ := ok_of_bind h
    by_cases hs : b.stage = .launch
    · rw [if_pos hs] at h
      cases h
      exact .launch hc hp hs
    · rw [if_neg hs] at h
      cases h
      exact .capture hc hp hs

/-- What a row with a label does to a block. A row that comes in the wrong part changes nothing. -/
inductive LabelledStep (b : Block) (line : Nat) (rest : List Char) :
    RowKind → Block → Bool → Prop
  | launchSource {delay time : Float} (hs : b.stage = .launch)
      (hv : delayAndTime line "clock source latency" rest = .ok (delay, time)) :
      LabelledStep b line rest .sourceLatency
        { b with path.launch.sourceLatency := delay, launchClockTime := some time } false
  | captureSource {delay time : Float} (hs : b.stage ≠ .launch)
      (hv : delayAndTime line "clock source latency" rest = .ok (delay, time)) :
      LabelledStep b line rest .sourceLatency
        { b with path.capture.sourceLatency := delay, captureClockTime := some time } false
  | launchNetwork {time : Float} (hs : b.stage = .launch)
      (hv : timeOf line "clock network delay" rest = .ok time) :
      LabelledStep b line rest .networkDelay { b with launchClockTime := some time } false
  | captureNetwork {time : Float} (hs : b.stage ≠ .launch) (hc : b.crprSeen = false)
      (hv : timeOf line "clock network delay" rest = .ok time) :
      LabelledStep b line rest .networkDelay { b with captureClockTime := some time } false
  | lateNetwork {time : Float} (hs : b.stage ≠ .launch) (hc : b.crprSeen = true)
      (hv : timeOf line "clock network delay" rest = .ok time) :
      LabelledStep b line rest .networkDelay b false
  | inputDelay {delay : Float} (hv : delayOf line "input external delay" rest = .ok delay) :
      LabelledStep b line rest .inputDelay { b with path.inputDelay := some delay } false
  | outputDelay {delay : Float} (hv : delayOf line "output external delay" rest = .ok delay) :
      LabelledStep b line rest .outputDelay { b with path.outputDelay := some delay } false
  | crpr {delay : Float} (hv : delayOf line "clock reconvergence pessimism" rest = .ok delay) :
      LabelledStep b line rest .crpr { b with path.crpr := delay, crprSeen := true } false
  | uncertainty {delay : Float} (hv : delayOf line "clock uncertainty" rest = .ok delay) :
      LabelledStep b line rest .uncertainty { b with path.uncertainty := delay } false
  | library {delay : Float} (hv : delayOf line "library time" rest = .ok delay) :
      LabelledStep b line rest .library { b with path.library := delay } false
  | constraint {delay : Float} (hv : delayOf line "path delay constraint" rest = .ok delay) :
      LabelledStep b line rest .constraint { b with path.maxDelay := some delay } false
  | pathMargin {delay : Float} (hv : delayOf line "path margin" rest = .ok delay) :
      LabelledStep b line rest .pathMargin { b with path.pathMargin := some delay } false
  | arrival {time : Float} (hs : b.stage = .launch)
      (hv : timeOf line "data arrival time" rest = .ok time) :
      LabelledStep b line rest .arrival
        { b with path.arrival := time, stage := .capture, lastPlace := none } false
  | lateArrival (hs : b.stage ≠ .launch) : LabelledStep b line rest .arrival b false
  | required {time : Float} (hs : b.stage = .capture)
      (hv : timeOf line "data required time" rest = .ok time) :
      LabelledStep b line rest .required { b with path.required := time, stage := .summary } false
  | strayRequired (hs : b.stage ≠ .capture) : LabelledStep b line rest .required b false
  | slack {time : Float} (hc : b.isComplete = true) (hv : timeOf line "slack" rest = .ok time) :
      LabelledStep b line rest .slack { b with path.slack := time } true
  | earlySlack (hc : b.isComplete = false) : LabelledStep b line rest .slack b false

theorem readLabelled_step {b b' : Block} {line : Nat} {kind : RowKind} {rest : List Char}
    {atEnd : Bool} (h : b.readLabelled line kind rest = .ok (b', atEnd)) :
    LabelledStep b line rest kind b' atEnd := by
  unfold readLabelled at h
  cases kind with
  | sourceLatency =>
    obtain ⟨⟨delay, time⟩, hv, h⟩ := ok_of_bind h
    dsimp only at h
    split_ifs at h with hs <;> cases h
    · exact .launchSource hs hv
    · exact .captureSource hs hv
  | networkDelay =>
    obtain ⟨time, hv, h⟩ := ok_of_bind h
    split_ifs at h with hs hc <;> cases h
    · exact .launchNetwork hs hv
    · exact .lateNetwork hs hc hv
    · exact .captureNetwork hs (by simpa using hc) hv
  | inputDelay =>
    obtain ⟨delay, hv, h⟩ := ok_of_bind h
    cases h
    exact .inputDelay hv
  | outputDelay =>
    obtain ⟨delay, hv, h⟩ := ok_of_bind h
    cases h
    exact .outputDelay hv
  | crpr =>
    obtain ⟨delay, hv, h⟩ := ok_of_bind h
    cases h
    exact .crpr hv
  | uncertainty =>
    obtain ⟨delay, hv, h⟩ := ok_of_bind h
    cases h
    exact .uncertainty hv
  | library =>
    obtain ⟨delay, hv, h⟩ := ok_of_bind h
    cases h
    exact .library hv
  | constraint =>
    obtain ⟨delay, hv, h⟩ := ok_of_bind h
    cases h
    exact .constraint hv
  | pathMargin =>
    obtain ⟨delay, hv, h⟩ := ok_of_bind h
    cases h
    exact .pathMargin hv
  | arrival =>
    dsimp only at h
    split_ifs at h with hs
    · obtain ⟨time, hv, h⟩ := ok_of_bind h
      cases h
      exact .arrival hs hv
    · cases h
      exact .lateArrival hs
  | required =>
    dsimp only at h
    split_ifs at h with hs
    · obtain ⟨time, hv, h⟩ := ok_of_bind h
      cases h
      exact .required hs hv
    · cases h
      exact .strayRequired hs
  | slack =>
    dsimp only at h
    split_ifs at h with hc
    · obtain ⟨time, hv, h⟩ := ok_of_bind h
      cases h
      exact .slack hc hv
    · cases h
      exact .earlySlack (by simpa using hc)

/-- What a line does to a block, with the answer whether the block is at its end. -/
inductive Step (rules : RuleSet) (line : Nat) (text : List Char) (b : Block) :
    Block → Bool → Prop
  | skip : Step rules line text b b false
  | heading {b' : Block} (hs : b.stage = .header)
      (hb : b.readHeading? (Text.trim text) = some b') : Step rules line text b b' false
  | tableHeader (ht : isTableHeader (Text.trim text) = true) :
      Step rules line text b { b.enterTable with layout := .ofHeader text } false
  | clockEdge {clock : String} {edge : ClockEdge} {rest : List Char} {time : Float}
      (hs : b.stage ≠ .summary)
      (hr : Row.ofText? (Text.trim text) = some (.clockEdge clock edge rest))
      (ht : timeOf line "clock edge" rest = .ok time) :
      Step rules line text b (b.enterTable.readClockEdge clock edge time) false
  | labelled {kind : RowKind} {rest : List Char} {b' : Block} {atEnd : Bool}
      (hs : b.stage ≠ .summary)
      (hr : Row.ofText? (Text.trim text) = some (.labelled kind rest))
      (hb : LabelledStep b.enterTable line rest kind b' atEnd) :
      Step rules line text b b' atEnd
  | pinRow {row : PinRow} {b' : Block} (hs : b.stage ≠ .summary)
      (hr : Row.ofText? (Text.trim text) = none)
      (hrow : PinRow.ofLine? line text = .ok (some row))
      (hb : PinStep rules b.enterTable line row b') : Step rules line text b b' false
  | slack {rest : List Char} {time : Float} (hs : b.stage = .summary)
      (hr : Row.ofText? (Text.trim text) = some (.labelled .slack rest))
      (ht : timeOf line "slack" rest = .ok time) :
      Step rules line text b { b with path.slack := time } true

theorem readTableLine_step {rules : RuleSet} {b b' : Block} {line : Nat} {text : List Char}
    {atEnd : Bool} (hs : b.stage ≠ .summary)
    (h : readTableLine rules b line text = .ok (b', atEnd)) : Step rules line text b b' atEnd := by
  unfold readTableLine at h
  cases hr : Row.ofText? (Text.trim text) with
  | some row =>
    cases row with
    | labelled kind rest =>
      rw [hr] at h
      exact .labelled hs hr (readLabelled_step h)
    | clockEdge clock edge rest =>
      rw [hr] at h
      obtain ⟨time, ht, h⟩ := ok_of_bind h
      cases h
      exact .clockEdge hs hr ht
  | none =>
    rw [hr] at h
    obtain ⟨row?, hrow, h⟩ := ok_of_bind h
    cases row? with
    | none =>
      cases h
      exact .skip
    | some row =>
      obtain ⟨b₁, hb, h⟩ := ok_of_bind h
      cases h
      exact .pinRow hs hr hrow (readPin_step hb)

theorem readSummaryLine_step {rules : RuleSet} {b b' : Block} {line : Nat} {text : List Char}
    {atEnd : Bool} (hs : b.stage = .summary)
    (h : b.readSummaryLine line text = .ok (b', atEnd)) : Step rules line text b b' atEnd := by
  unfold readSummaryLine at h
  split at h
  · rename_i rest hr
    obtain ⟨time, ht, h⟩ := ok_of_bind h
    cases h
    exact .slack hs hr ht
  · cases h
    exact .skip

theorem feed_step {rules : RuleSet} {b b' : Block} {line : Nat} {text : List Char} {atEnd : Bool}
    (h : b.feed rules line text = .ok (b', atEnd)) : Step rules line text b b' atEnd := by
  unfold feed at h
  dsimp only at h
  split at h
  · cases h
    exact .skip
  · split at h
    · rename_i b₁ hb
      cases h
      split_ifs at hb with hs
      exact .heading hs hb
    · split_ifs at h with ht hs
      · cases h
        exact .tableHeader ht
      · exact readSummaryLine_step hs h
      · exact readTableLine_step hs h

/-- The two blocks agree on all that the rows of pins make. -/
structure SamePins (b b' : Block) : Prop where
  line : b'.path.line = b.path.line
  startpoint : b'.path.startpoint = b.path.startpoint
  launchPins : b'.path.launchPins = b.path.launchPins
  capturePins : b'.path.capturePins = b.path.capturePins
  clockPinAt : b'.path.clockPinAt = b.path.clockPinAt
  launchSource : b'.path.launch.generatedAt = b.path.launch.generatedAt
  captureSource : b'.path.capture.generatedAt = b.path.capture.generatedAt
  holdChecks : b'.path.holdChecks = b.path.holdChecks
  clockPinFixed : b'.clockPinFixed = b.clockPinFixed
  leftClockNetwork : b'.leftClockNetwork = b.leftClockNetwork

theorem enterTable_samePins (b : Block) : SamePins b b.enterTable := by
  constructor <;> rfl

theorem readHeading?_eq {b b' : Block} {text : List Char} (h : b.readHeading? text = some b') :
    ∃ endpoint group delayType scenario heading startIsPort,
      b' = { b with
        path := { b.path with endpoint, group, delayType, scenario }
        heading, startIsPort } := by
  unfold readHeading? at h
  dsimp only at h
  split at h
  · cases h
    exact ⟨_, _, _, _, _, _, rfl⟩
  split at h
  · cases h
    exact ⟨_, _, _, _, _, _, rfl⟩
  split at h
  · cases h
    exact ⟨_, _, _, _, _, _, rfl⟩
  split at h
  · cases h
    exact ⟨_, _, _, _, _, _, rfl⟩
  split_ifs at h <;> cases h <;> exact ⟨_, _, _, _, _, _, rfl⟩

theorem readHeading?_samePins {b b' : Block} {text : List Char}
    (h : b.readHeading? text = some b') : SamePins b b' := by
  obtain ⟨_, _, _, _, _, _, rfl⟩ := readHeading?_eq h
  constructor <;> rfl

theorem readClockEdge_samePins (b : Block) (clock : String) (edge : ClockEdge) (time : Float) :
    SamePins b (b.readClockEdge clock edge time) := by
  unfold readClockEdge
  split_ifs <;> constructor <;> rfl

theorem LabelledStep.samePins {b b' : Block} {line : Nat} {kind : RowKind} {rest : List Char}
    {atEnd : Bool} (h : LabelledStep b line rest kind b' atEnd) : SamePins b b' := by
  cases h <;> constructor <;> rfl

theorem SamePins.trans {b b' b'' : Block} (h : SamePins b b') (h' : SamePins b' b'') :
    SamePins b b'' :=
  ⟨h'.line.trans h.line, h'.startpoint.trans h.startpoint, h'.launchPins.trans h.launchPins,
    h'.capturePins.trans h.capturePins, h'.clockPinAt.trans h.clockPinAt,
    h'.launchSource.trans h.launchSource, h'.captureSource.trans h.captureSource,
    h'.holdChecks.trans h.holdChecks, h'.clockPinFixed.trans h.clockPinFixed,
    h'.leftClockNetwork.trans h.leftClockNetwork⟩

/-- Only the row of a pin makes something of pins. -/
theorem Step.samePins_or_pinStep {rules : RuleSet} {b b' : Block} {line : Nat} {text : List Char}
    {atEnd : Bool} (h : Step rules line text b b' atEnd) :
    SamePins b b' ∨
      ∃ row, PinRow.ofLine? line text = .ok (some row) ∧
        PinStep rules b.enterTable line row b' := by
  cases h with
  | skip => exact .inl (by constructor <;> rfl)
  | heading hs hb => exact .inl (readHeading?_samePins hb)
  | tableHeader ht => exact .inl (by constructor <;> rfl)
  | clockEdge hs hr ht =>
    exact .inl (b.enterTable_samePins.trans (b.enterTable.readClockEdge_samePins _ _ _))
  | labelled hs hr hb => exact .inl (b.enterTable_samePins.trans hb.samePins)
  | @pinRow row b' hs hr hrow hb => exact .inr ⟨row, hrow, hb⟩
  | slack hs hr ht => exact .inl (by constructor <;> rfl)

@[simp] theorem enterTable_isComplete (b : Block) : b.enterTable.isComplete = b.isComplete := by
  cases hs : b.stage <;> simp only [enterTable, Stage.inTable, isComplete, hs]
  rfl

/-- A block ends at a slack, which counts only when its launch side is closed. -/
theorem Step.isComplete {rules : RuleSet} {b b' : Block} {line : Nat} {text : List Char}
    (h : Step rules line text b b' true) : b'.isComplete = true := by
  cases h with
  | labelled hs hr hb =>
    cases hb with
    | slack hc hv => exact hc
  | slack hs hr ht => simp [Block.isComplete, hs]

theorem isComplete_of_feed {rules : RuleSet} {b b' : Block} {line : Nat} {text : List Char}
    (h : b.feed rules line text = .ok (b', true)) : b'.isComplete = true :=
  (feed_step h).isComplete

theorem readNet_eq (b : Block) (row : PinRow) : ∃ launchPins capturePins,
    b.readNet row = { b with path.launchPins := launchPins, path.capturePins := capturePins } := by
  unfold readNet
  dsimp only
  split
  · exact ⟨_, _, rfl⟩
  · split_ifs
    · exact ⟨_, _, rfl⟩
    · exact ⟨_, _, rfl⟩

/-- What a launch pin does to the clock pin of the startpoint. -/
inductive PlaceStep (b : Block) (p : Pin) : Block → Prop
  | port {startIsPort : Bool}
      (hs : startIsPort = (b.startIsPort || (p.isPort && p.name == b.path.startpoint)))
      (hp : startIsPort = true ∨ p.isPort = true) : PlaceStep b p { b with startIsPort }
  | start (hb : b.startIsPort = false) (hp : p.isPort = false)
      (hs : (p.inst == b.path.startpoint || p.name == b.path.startpoint) = true) :
      PlaceStep b p
        { b with path.clockPinAt := some b.path.launchPins.length, clockPinFixed := true }
  | clock (hb : b.startIsPort = false) (hp : p.isPort = false)
      (hs : (p.inst == b.path.startpoint || p.name == b.path.startpoint) = false)
      (hc : p.isClock = true) (hl : b.leftClockNetwork = false) :
      PlaceStep b p { b with path.clockPinAt := some b.path.launchPins.length }
  | leave (hb : b.startIsPort = false) (hp : p.isPort = false)
      (hs : (p.inst == b.path.startpoint || p.name == b.path.startpoint) = false)
      (hc : p.isClock = false) (hat : b.path.clockPinAt.isSome = true) :
      PlaceStep b p { b with leftClockNetwork := true }
  | stay (hb : b.startIsPort = false) (hp : p.isPort = false)
      (hs : (p.inst == b.path.startpoint || p.name == b.path.startpoint) = false)
      (hl : p.isClock = true → b.leftClockNetwork = true)
      (hat : p.isClock = false → b.path.clockPinAt = none) : PlaceStep b p b

theorem placeClockPin_step (b : Block) (p : Pin) : PlaceStep b p (b.placeClockPin p) := by
  unfold placeClockPin
  dsimp only
  by_cases hport : (b.startIsPort || (p.isPort && p.name == b.path.startpoint) || p.isPort) = true
  · rw [if_pos hport]
    exact .port rfl (by simpa using hport)
  rw [if_neg hport]
  simp only [Bool.or_eq_true, not_or, Bool.not_eq_true] at hport
  obtain ⟨⟨hb, -⟩, hp⟩ := hport
  have hsame : (b.startIsPort || (p.isPort && p.name == b.path.startpoint)) = b.startIsPort := by
    rw [hp, Bool.false_and, Bool.or_false]
  rw [hsame]
  split_ifs with hstart hclock hleft
  · exact .start hb hp hstart
  all_goals rw [Bool.not_eq_true] at hstart
  · rw [Bool.and_eq_true, Bool.not_eq_true'] at hclock
    exact .clock hb hp hstart hclock.1 hclock.2
  · rw [Bool.and_eq_true, Bool.not_eq_true'] at hleft
    exact .leave hb hp hstart hleft.1 hleft.2
  · exact .stay hb hp hstart (fun hc => by simpa [hc] using hclock)
      fun hc => by simpa [hc] using hleft

/-- The clock pin moves to no other place than that of a new pin, and to none of a port. -/
theorem placeClockPin_eq (b : Block) (p : Pin) :
    ∃ startIsPort clockPinFixed leftClockNetwork clockPinAt,
      b.placeClockPin p =
        { b with startIsPort, clockPinFixed, leftClockNetwork, path.clockPinAt := clockPinAt } ∧
      (clockPinAt = b.path.clockPinAt ∨
        clockPinAt = some b.path.launchPins.length ∧ p.isPort = false) := by
  have h := b.placeClockPin_step p
  generalize b.placeClockPin p = c at h ⊢
  cases h with
  | port hs hp => exact ⟨_, _, _, _, rfl, .inl rfl⟩
  | start hb hp hs => exact ⟨_, _, _, _, rfl, .inr ⟨rfl, hp⟩⟩
  | clock hb hp hs hc hl => exact ⟨_, _, _, _, rfl, .inr ⟨rfl, hp⟩⟩
  | leave hb hp hs hc hat => exact ⟨_, _, _, _, rfl, .inl rfl⟩
  | stay hb hp hs hl hat => exact ⟨_, _, _, _, rfl, .inl rfl⟩

theorem noteLaunchSource_eq (b : Block) (row : PinRow) : ∃ source,
    b.noteLaunchSource row = { b with path.launch.generatedAt := source } ∧
    (source = b.path.launch.generatedAt ∨ source = some b.path.launchPins.length) := by
  unfold noteLaunchSource
  dsimp only
  split_ifs
  · exact ⟨_, rfl, .inr rfl⟩
  · exact ⟨_, rfl, .inl rfl⟩

/-- A launch pin is added behind the others. Only its place can be noted. -/
theorem addLaunchPin_eq (rules : RuleSet) (b : Block) (row : PinRow) (p : Pin) :
    ∃ startIsPort clockPinFixed leftClockNetwork clockPinAt source holdChecks,
      addLaunchPin rules b row p =
        { b with
          startIsPort, clockPinFixed, leftClockNetwork
          path.clockPinAt := clockPinAt
          path.launch.generatedAt := source
          path.holdChecks := holdChecks
          path.launchPins := b.path.launchPins ++ [p] } ∧
      (clockPinAt = b.path.clockPinAt ∨
        clockPinAt = some b.path.launchPins.length ∧ p.isPort = false) ∧
      (source = b.path.launch.generatedAt ∨ source = some b.path.launchPins.length) := by
  unfold addLaunchPin
  by_cases hf : b.clockPinFixed = true
  · rw [if_pos hf]
    exact ⟨_, _, _, _, _, _, rfl, .inl rfl, .inl rfl⟩
  · rw [if_neg hf]
    obtain ⟨port, fixed, left, at?, hplace, hat⟩ := b.placeClockPin_eq p
    obtain ⟨source, hnote, hsource⟩ := (b.placeClockPin p).noteLaunchSource_eq row
    rw [hnote, hplace]
    rw [hplace] at hsource
    exact ⟨_, _, _, _, _, _, rfl, hat, hsource⟩

theorem addCapturePin_eq (rules : RuleSet) (b : Block) (row : PinRow) (p : Pin) :
    ∃ source captureClockTime holdChecks,
      addCapturePin rules b row p =
        { b with
          captureClockTime
          path.capture.generatedAt := source
          path.holdChecks := holdChecks
          path.capturePins := b.path.capturePins ++ [p] } ∧
      (source = b.path.capture.generatedAt ∨ source = some b.path.capturePins.length) := by
  unfold addCapturePin
  by_cases hg : row.isGenerated = true <;> by_cases hc : b.crprSeen = true <;>
    simp only [hg, hc, if_true, if_false, Bool.false_eq_true]
  · exact ⟨_, _, _, rfl, .inr rfl⟩
  · exact ⟨_, _, _, rfl, .inr rfl⟩
  · exact ⟨_, _, _, rfl, .inl rfl⟩
  · exact ⟨_, _, _, rfl, .inl rfl⟩

/-- The row of a pin changes no more of a block than its pins and what is noted of them. -/
theorem PinStep.eq {rules : RuleSet} {b b' : Block} {line : Nat} {row : PinRow}
    (h : PinStep rules b line row b') :
    ∃ startIsPort clockPinFixed leftClockNetwork lastPlace captureClockTime clockPinAt launchSource
        captureSource holdChecks launchPins capturePins,
      b' = { b with
        startIsPort, clockPinFixed, leftClockNetwork, lastPlace, captureClockTime
        path.clockPinAt := clockPinAt
        path.launch.generatedAt := launchSource
        path.capture.generatedAt := captureSource
        path.holdChecks := holdChecks
        path.launchPins := launchPins
        path.capturePins := capturePins } := by
  cases h with
  | net hc =>
    obtain ⟨launchPins, capturePins, he⟩ := b.readNet_eq row
    exact ⟨_, _, _, _, _, _, _, _, _, _, _, he⟩
  | launch hc hp hs =>
    obtain ⟨_, _, _, _, _, _, he, -⟩ := addLaunchPin_eq rules (b.moveTo row) row _
    exact ⟨_, _, _, _, _, _, _, _, _, _, _, he⟩
  | capture hc hp hs =>
    obtain ⟨_, _, _, he, -⟩ := addCapturePin_eq rules (b.moveTo row) row _
    exact ⟨_, _, _, _, _, _, _, _, _, _, _, he⟩

theorem PinStep.path_line {rules : RuleSet} {b b' : Block} {line : Nat} {row : PinRow}
    (h : PinStep rules b line row b') : b'.path.line = b.path.line := by
  obtain ⟨_, _, _, _, _, _, _, _, _, _, _, rfl⟩ := h.eq
  rfl

theorem Step.path_line {rules : RuleSet} {b b' : Block} {line : Nat} {text : List Char}
    {atEnd : Bool} (h : Step rules line text b b' atEnd) : b'.path.line = b.path.line := by
  obtain hsame | ⟨row, -, hb⟩ := h.samePins_or_pinStep
  · exact hsame.line
  · exact hb.path_line

theorem PinStep.stage {rules : RuleSet} {b b' : Block} {line : Nat} {row : PinRow}
    (h : PinStep rules b line row b') : b'.stage = b.stage := by
  obtain ⟨_, _, _, _, _, _, _, _, _, _, _, rfl⟩ := h.eq
  rfl

/-- The parts of a block follow one another. Only a data arrival time closes the launch side. -/
theorem Step.stage_cases {rules : RuleSet} {b b' : Block} {line : Nat} {text : List Char}
    {atEnd : Bool} (h : Step rules line text b b' atEnd) :
    b'.stage = b.stage ∨ b'.stage = b.stage.inTable ∨ b.stage = .capture ∧ b'.stage = .summary ∨
      b.stage.inTable = .launch ∧ b'.stage = .capture ∧ atEnd = false ∧
        ∃ rest, Row.ofText? (Text.trim text) = some (.labelled .arrival rest) := by
  cases h with
  | skip => exact .inl rfl
  | heading hs hb =>
    obtain ⟨_, _, _, _, _, _, rfl⟩ := readHeading?_eq hb
    exact .inl rfl
  | tableHeader ht => exact .inr (.inl rfl)
  | clockEdge hs hr ht =>
    refine .inr (.inl ?_)
    unfold readClockEdge
    split_ifs <;> rfl
  | labelled hs hr hb =>
    cases hb with
    | arrival hs' hv => exact .inr (.inr (.inr ⟨hs', rfl, rfl, _, hr⟩))
    | required hs' hv =>
      refine .inr (.inr (.inl ⟨?_, rfl⟩))
      cases hstage : b.stage <;> simp_all [enterTable, Stage.inTable]
    | _ => exact .inr (.inl rfl)
  | pinRow hs hr hrow hb => exact .inr (.inl hb.stage)
  | slack hs hr ht => exact .inl rfl

theorem isComplete_iff (b : Block) :
    b.isComplete = true ↔ b.stage = .capture ∨ b.stage = .summary := by
  simp [isComplete]

/-- The launch side is read first: as long as pins come to the capture side of complete blocks alone,
there is none yet. -/
theorem capturePins_eq_nil_of_launch {b : Block}
    (hclosed : b.path.capturePins ≠ [] → b.isComplete = true) (hs : b.stage = .launch) :
    b.path.capturePins = [] := by
  by_contra hne
  have hcomplete := hclosed hne
  simp [isComplete, hs] at hcomplete

theorem Step.isComplete_of_isComplete {rules : RuleSet} {b b' : Block} {line : Nat}
    {text : List Char} {atEnd : Bool} (h : Step rules line text b b' atEnd)
    (hb : b.isComplete = true) : b'.isComplete = true := by
  rw [isComplete_iff] at hb ⊢
  obtain hs | hs | ⟨_, hs⟩ | ⟨_, hs, _⟩ := h.stage_cases
  · rwa [hs]
  · rw [hs]
    rcases hb with hb | hb
    · exact .inl (by rw [hb]; rfl)
    · exact .inr (by rw [hb]; rfl)
  · exact .inr hs
  · exact .inl hs

/-- A line that closes the launch side holds the data arrival time. -/
theorem Step.arrival_of_isComplete {rules : RuleSet} {b b' : Block} {line : Nat}
    {text : List Char} {atEnd : Bool} (h : Step rules line text b b' atEnd)
    (hb : b.isComplete = false) (hb' : b'.isComplete = true) :
    b'.stage = .capture ∧ atEnd = false ∧
      ∃ rest, Row.ofText? (Text.trim text) = some (.labelled .arrival rest) := by
  have hopen : ¬ (b.stage = .capture ∨ b.stage = .summary) := by
    rw [← isComplete_iff, hb]
    exact Bool.false_ne_true
  rw [isComplete_iff] at hb'
  obtain hs | hs | ⟨hs, _⟩ | ⟨_, hs, hend, hrow⟩ := h.stage_cases
  · rw [hs] at hb'
    exact absurd hb' hopen
  · rw [hs] at hb'
    cases hstage : b.stage with
    | header => simp [hstage, Stage.inTable] at hb'
    | launch => simp [hstage, Stage.inTable] at hb'
    | capture => exact absurd (.inl hstage) hopen
    | summary => exact absurd (.inr hstage) hopen
  · exact absurd (.inl hs) hopen
  · exact ⟨hs, hend, hrow⟩

/-- The source of a generated clock on the launch side, unless it comes after the clock pin. -/
def sourceInNetwork? (p : TimingPath) : Option Nat :=
  p.launch.generatedAt.filter fun g => p.clockPinAt.all (g ≤ ·)

theorem finish_eq (through : List String) (b : Block) :
    b.finish through =
      { b.path with
        through
        launch := { b.path.launch with
          generatedAt := sourceInNetwork? b.path
          latency := ((b.path.clockPin?.map (·.cumulative)).getD
            (b.launchClockTime.getD b.path.launch.edgeTime)) - b.path.launch.edgeTime
          delta := deltaSum b.path.launchClockPins }
        capture := { b.path.capture with
          latency := b.captureClockTime.getD b.path.capture.edgeTime - b.path.capture.edgeTime
          delta := deltaSum b.path.capturePins }
        dataDelta := deltaSum b.path.dataPins } := by
  unfold finish sourceInNetwork? TimingPath.clockPin? TimingPath.launchClockPins
    TimingPath.dataPins
  cases hg : b.path.launch.generatedAt with
  | none => cases hc : b.path.clockPinAt with
    | none => simp [hg, hc]
    | some i => cases hp : b.path.launchPins[i]? <;> simp [hg, hc, hp]
  | some g => cases hc : b.path.clockPinAt with
    | none => simp [hg, hc, Option.filter]
    | some i =>
      by_cases hlt : i < g
      · have hle : ¬ g ≤ i := by omega
        cases hp : b.path.launchPins[i]? <;> simp [hg, hc, hp, hlt, hle, Option.filter]
      · have hle : g ≤ i := by omega
        cases hp : b.path.launchPins[i]? <;> simp [hg, hc, hp, hlt, hle, Option.filter]

end Block

end PathTiming
