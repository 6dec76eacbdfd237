import PathTiming.Proofs.BlockStep

/-! Reading the same lines under later numbers gives the same path with later numbers. -/
namespace PathTiming

def Pin.shift (k : Nat) (p : Pin) : Pin := { p with line := p.line + k }

def TimingPath.shift (k : Nat) (p : TimingPath) : TimingPath :=
  { p with
    line := p.line + k
    launchPins := p.launchPins.map (·.shift k)
    capturePins := p.capturePins.map (·.shift k) }

def Block.shift (k : Nat) (b : Block) : Block := { b with path := b.path.shift k }

def shifted {α β : Type} (k : Nat) (f : α → β) : Except FormatError α → Except FormatError β
  | .ok a => .ok (f a)
  | .error e => .error { e with line := e.line + k }

theorem bind_shifted {α β γ δ : Type} {k : Nat} {f : α → β} {h : γ → δ}
    {x : Except FormatError α} {g : α → Except FormatError γ} {g' : β → Except FormatError δ}
    (hg : ∀ a, g' (f a) = shifted k h (g a)) :
    shifted k f x >>= g' = shifted k h (x >>= g) := by
  cases x with
  | error e => rfl
  | ok a => exact hg a

section
variable (k line : Nat)

theorem readNumber_shift (word : List Char) :
    readNumber (line + k) word = shifted k id (readNumber line word) := by
  unfold readNumber
  cases Decimal.float? (Text.dropEndWhile isAnnotation word) <;> rfl

theorem mapM_readNumber_shift (words : List (List Char)) :
    words.mapM (readNumber (line + k)) = shifted k id (words.mapM (readNumber line)) := by
  induction words with
  | nil => rfl
  | cons word rest ih =>
    rw [List.mapM_cons, List.mapM_cons, readNumber_shift, ih]
    apply bind_shifted
    intro x
    apply bind_shifted
    intro xs
    rfl

theorem delayAndTime_shift (what : String) (rest : List Char) :
    delayAndTime (line + k) what rest = shifted k id (delayAndTime line what rest) := by
  unfold delayAndTime rowValues
  rw [mapM_readNumber_shift]
  apply bind_shifted
  intro values
  dsimp only [id]
  cases values.reverse with
  | nil => rfl
  | cons time before => cases before <;> rfl

theorem delayOf_shift (what : String) (rest : List Char) :
    delayOf (line + k) what rest = shifted k id (delayOf line what rest) := by
  unfold delayOf
  rw [delayAndTime_shift]
  cases delayAndTime line what rest <;> rfl

theorem timeOf_shift (what : String) (rest : List Char) :
    timeOf (line + k) what rest = shifted k id (timeOf line what rest) := by
  unfold timeOf
  rw [delayAndTime_shift]
  cases delayAndTime line what rest <;> rfl

theorem PinRow.readTokens_shift (fuel : Nat) (isFirst : Bool) (r : PinRow)
    (tokens : List Text.Token) :
    PinRow.readTokens (line + k) fuel isFirst r tokens =
      shifted k id (PinRow.readTokens line fuel isFirst r tokens) := by
  induction fuel generalizing isFirst r tokens with
  | zero => rfl
  | succ fuel ih =>
    cases tokens with
    | nil => rfl
    | cons t rest =>
      unfold PinRow.readTokens
      split_ifs
      · cases splitGroup? (t :: rest) with
        | none => rfl
        | some group => exact ih false _ group.2
      · rw [readNumber_shift]
        apply bind_shifted
        intro value
        exact ih isFirst _ rest
      · exact ih isFirst r rest

theorem PinRow.ofLine?_shift (text : List Char) :
    PinRow.ofLine? (line + k) text = shifted k id (PinRow.ofLine? line text) := by
  unfold PinRow.ofLine?
  split
  · split_ifs
    · exact PinRow.readTokens_shift k line _ _ _ _
    · rfl
  · rfl

namespace Block

theorem setValue_shift (p : Pin) (value : Column × Float) :
    setValue (p.shift k) value = (setValue p value).shift k := by
  unfold setValue
  cases value.1 <;> rfl

theorem foldl_setValue_shift (values : List (Column × Float)) (p : Pin) :
    values.foldl setValue (p.shift k) = (values.foldl setValue p).shift k := by
  induction values generalizing p with
  | nil => rfl
  | cons value rest ih => rw [List.foldl_cons, setValue_shift, ih, List.foldl_cons]

theorem pinOf_shift (b : Block) (row : PinRow) :
    (b.shift k).pinOf (line + k) row = shifted k (Pin.shift k) (b.pinOf line row) := by
  unfold pinOf
  dsimp only
  cases row.values.reverse with
  | nil => rfl
  | cons time before =>
    cases before with
    | nil =>
      refine congrArg Except.ok (Eq.trans ?_ (foldl_setValue_shift k _ _))
      rfl
    | cons delay extra =>
      refine congrArg Except.ok (Eq.trans ?_ (foldl_setValue_shift k _ _))
      rfl

theorem noteHoldCheck_shift (rules : RuleSet) (totals : Keyed String Float) (before : Option Pin)
    (p : Pin) :
    noteHoldCheck rules totals (before.map (·.shift k)) (p.shift k) =
      noteHoldCheck rules totals before p := by
  cases before <;> rfl

theorem modifyLast_map {α β : Type} {f : α → β} {g : α → α} {g' : β → β}
    (h : ∀ a, g' (f a) = f (g a)) (l : List α) :
    modifyLast g' (l.map f) = (modifyLast g l).map f := by
  induction l with
  | nil => rfl
  | cons a rest ih =>
    cases rest with
    | nil => simp [modifyLast, h]
    | cons next more => simpa [modifyLast] using ih

theorem readNet_shift (b : Block) (row : PinRow) :
    (b.shift k).readNet row = (b.readNet row).shift k := by
  unfold readNet
  dsimp only
  have hl : (b.shift k).layout = b.layout := rfl
  have hs : (b.shift k).stage = b.stage := rfl
  rw [hl, hs]
  split
  · rfl
  · rename_i cap _
    have hset : ∀ pins : List Pin,
        modifyLast (fun p : Pin => { p with cap }) (pins.map (·.shift k)) =
          (modifyLast (fun p : Pin => { p with cap }) pins).map (·.shift k) :=
      modifyLast_map fun _ => rfl
    split_ifs
    · simp only [shift, TimingPath.shift, hset]
    · simp only [shift, TimingPath.shift, hset]

theorem length_launchPins_shift (b : Block) :
    (b.shift k).path.launchPins.length = b.path.launchPins.length :=
  List.length_map _

theorem placeClockPin_shift (b : Block) (p : Pin) :
    (b.shift k).placeClockPin (p.shift k) = (b.placeClockPin p).shift k := by
  unfold placeClockPin
  rw [length_launchPins_shift]
  simp only [apply_ite (shift k)]
  rfl

theorem noteLaunchSource_shift (b : Block) (row : PinRow) :
    (b.shift k).noteLaunchSource row = (b.noteLaunchSource row).shift k := by
  unfold noteLaunchSource
  rw [length_launchPins_shift]
  simp only [apply_ite (shift k)]
  rfl

theorem addLaunchPin_shift (rules : RuleSet) (b : Block) (row : PinRow) (p : Pin) :
    addLaunchPin rules (b.shift k) row (p.shift k) = (addLaunchPin rules b row p).shift k := by
  have hb : (if (b.shift k).clockPinFixed then b.shift k
      else ((b.shift k).placeClockPin (p.shift k)).noteLaunchSource row) =
      (if b.clockPinFixed then b else (b.placeClockPin p).noteLaunchSource row).shift k := by
    rw [placeClockPin_shift, noteLaunchSource_shift, apply_ite (shift k)]
    rfl
  unfold addLaunchPin
  rw [hb]
  simp only [shift, TimingPath.shift, List.getLast?_map, noteHoldCheck_shift, List.map_append,
    List.map_cons, List.map_nil]

theorem addCapturePin_shift (rules : RuleSet) (b : Block) (row : PinRow) (p : Pin) :
    addCapturePin rules (b.shift k) row (p.shift k) = (addCapturePin rules b row p).shift k := by
  have hlen : (b.shift k).path.capturePins.length = b.path.capturePins.length := List.length_map _
  unfold addCapturePin
  rw [hlen]
  by_cases hg : row.isGenerated = true <;> by_cases hc : b.crprSeen = true <;>
    simp only [shift, TimingPath.shift, hg, hc, if_true, if_false, Bool.false_eq_true,
      List.getLast?_map, noteHoldCheck_shift, List.map_append, List.map_cons, List.map_nil] <;>
    rfl

theorem moveTo_shift (b : Block) (row : PinRow) : (b.shift k).moveTo row = (b.moveTo row).shift k :=
  rfl

theorem atPlace_shift (b : Block) (row : PinRow) (p : Pin) :
    (b.shift k).atPlace row (p.shift k) = (b.atPlace row p).shift k := by
  unfold atPlace
  cases row.location <;> rfl

theorem readPin_shift (rules : RuleSet) (b : Block) (row : PinRow) :
    readPin rules (b.shift k) (line + k) row = shifted k (shift k) (readPin rules b line row) := by
  rw [readPin_eq, readPin_eq, readNet_shift]
  by_cases hc : row.cell = "net"
  · rw [if_pos hc, if_pos hc]
    rfl
  · rw [if_neg hc, if_neg hc, pinOf_shift]
    apply bind_shifted
    intro p
    have hp : (b.shift k).atPlace row (classify rules (p.shift k)) =
        (b.atPlace row (classify rules p)).shift k := atPlace_shift k b row (classify rules p)
    have hs : (b.shift k).stage = b.stage := rfl
    rw [hp, hs, moveTo_shift, addLaunchPin_shift, addCapturePin_shift]
    split_ifs <;> rfl

theorem readHeading?_shift (b : Block) (text : List Char) :
    (b.shift k).readHeading? text = (b.readHeading? text).map (·.shift k) := by
  unfold readHeading?
  dsimp only
  split
  · rfl
  split
  · rfl
  split
  · rfl
  split
  · rfl
  split_ifs <;> rfl

theorem readLabelled_shift (b : Block) (kind : RowKind) (rest : List Char) :
    (b.shift k).readLabelled (line + k) kind rest =
      shifted k (Prod.map (·.shift k) id) (b.readLabelled line kind rest) := by
  have hs : (b.shift k).stage = b.stage := rfl
  have hc : (b.shift k).isComplete = b.isComplete := rfl
  have hcrpr : (b.shift k).crprSeen = b.crprSeen := rfl
  unfold readLabelled
  rw [hs, hc, hcrpr]
  cases kind with
  | sourceLatency =>
    dsimp only
    rw [delayAndTime_shift]
    apply bind_shifted
    intro v
    split_ifs <;> rfl
  | networkDelay =>
    dsimp only
    rw [timeOf_shift]
    apply bind_shifted
    intro time
    split_ifs <;> rfl
  | arrival =>
    dsimp only
    rw [timeOf_shift]
    split_ifs
    · exact bind_shifted fun _ => rfl
    · rfl
  | required =>
    dsimp only
    rw [timeOf_shift]
    split_ifs
    · exact bind_shifted fun _ => rfl
    · rfl
  | slack =>
    dsimp only
    rw [timeOf_shift]
    split_ifs
    · exact bind_shifted fun _ => rfl
    · rfl
  | _ =>
    dsimp only
    rw [delayOf_shift]
    exact bind_shifted fun _ => rfl

theorem readClockEdge_shift (b : Block) (clock : String) (edge : ClockEdge) (time : Float) :
    (b.shift k).readClockEdge clock edge time = (b.readClockEdge clock edge time).shift k := by
  unfold readClockEdge
  rw [apply_ite (shift k)]
  rfl

theorem readTableLine_shift (rules : RuleSet) (b : Block) (text : List Char) :
    readTableLine rules (b.shift k) (line + k) text =
      shifted k (Prod.map (·.shift k) id) (readTableLine rules b line text) := by
  unfold readTableLine
  cases Row.ofText? (Text.trim text) with
  | some row =>
    cases row with
    | labelled kind rest => exact readLabelled_shift k line b.enterTable kind rest
    | clockEdge clock edge rest =>
      dsimp only
      rw [timeOf_shift]
      apply bind_shifted
      intro time
      exact congrArg (fun b => Except.ok (b, false)) (readClockEdge_shift k b.enterTable _ _ _)
  | none =>
    dsimp only
    rw [PinRow.ofLine?_shift]
    apply bind_shifted
    intro row
    cases row with
    | none => rfl
    | some row =>
      dsimp only [id]
      have hb : (b.shift k).enterTable = b.enterTable.shift k := rfl
      rw [hb, readPin_shift]
      exact bind_shifted fun _ => rfl

theorem readSummaryLine_shift (b : Block) (text : List Char) :
    (b.shift k).readSummaryLine (line + k) text =
      shifted k (Prod.map (·.shift k) id) (b.readSummaryLine line text) := by
  unfold readSummaryLine
  split
  · rw [timeOf_shift]
    exact bind_shifted fun _ => rfl
  · rfl

theorem feed_shift (rules : RuleSet) (b : Block) (text : List Char) :
    (b.shift k).feed rules (line + k) text =
      shifted k (Prod.map (·.shift k) id) (b.feed rules line text) := by
  have hs : (b.shift k).stage = b.stage := rfl
  have hh : (if b.stage = .header then (b.shift k).readHeading? (Text.trim text) else none) =
      (if b.stage = .header then b.readHeading? (Text.trim text) else none).map (·.shift k) := by
    rw [readHeading?_shift, apply_ite (Option.map _)]
    rfl
  unfold feed
  dsimp only
  rw [hs, hh, readSummaryLine_shift, readTableLine_shift]
  by_cases hruler : (Text.trim text).all (· == '-')
  · rw [if_pos hruler, if_pos hruler]
    rfl
  rw [if_neg hruler, if_neg hruler]
  cases if b.stage = .header then b.readHeading? (Text.trim text) else none with
  | some b => rfl
  | none =>
    dsimp only [Option.map_none]
    by_cases htable : isTableHeader (Text.trim text)
    · rw [if_pos htable, if_pos htable]
      rfl
    rw [if_neg htable, if_neg htable, apply_ite (shifted k _)]

end Block
end

theorem deltaSum_map_shift (k : Nat) (pins : List Pin) :
    deltaSum (pins.map (·.shift k)) = deltaSum pins := by
  unfold deltaSum
  rw [List.foldl_map]
  rfl

namespace TimingPath
variable (k : Nat) (p : TimingPath)

theorem clockPin?_shift : (p.shift k).clockPin? = p.clockPin?.map (·.shift k) := by
  have hat : (p.shift k).clockPinAt = p.clockPinAt := rfl
  have hpins : (p.shift k).launchPins = p.launchPins.map (·.shift k) := rfl
  unfold clockPin?
  rw [hat, hpins]
  cases p.clockPinAt with
  | none => rfl
  | some i => exact List.getElem?_map

theorem launchClockPins_shift :
    (p.shift k).launchClockPins = p.launchClockPins.map (·.shift k) := by
  have hat : (p.shift k).clockPinAt = p.clockPinAt := rfl
  have hpins : (p.shift k).launchPins = p.launchPins.map (·.shift k) := rfl
  unfold launchClockPins
  rw [hat, hpins]
  cases p.clockPinAt with
  | none => rfl
  | some i => exact List.map_take.symm

theorem dataPins_shift : (p.shift k).dataPins = p.dataPins.map (·.shift k) := by
  have hat : (p.shift k).clockPinAt = p.clockPinAt := rfl
  have hpins : (p.shift k).launchPins = p.launchPins.map (·.shift k) := rfl
  unfold dataPins
  rw [hat, hpins]
  cases p.clockPinAt with
  | none => rfl
  | some i => exact List.map_drop.symm

end TimingPath

theorem Block.finish_shift (k : Nat) (through : List String) (b : Block) :
    (b.shift k).finish through = (b.finish through).shift k := by
  have hcumulative : ((b.shift k).path.clockPin?.map (·.cumulative)) =
      b.path.clockPin?.map (·.cumulative) := by
    rw [shift, TimingPath.clockPin?_shift, Option.map_map]
    rfl
  have hlaunch : deltaSum (b.shift k).path.launchClockPins = deltaSum b.path.launchClockPins := by
    rw [shift, TimingPath.launchClockPins_shift, deltaSum_map_shift]
  have hcapture : deltaSum (b.shift k).path.capturePins = deltaSum b.path.capturePins :=
    deltaSum_map_shift k b.path.capturePins
  have hdata : deltaSum (b.shift k).path.dataPins = deltaSum b.path.dataPins := by
    rw [shift, TimingPath.dataPins_shift, deltaSum_map_shift]
  rw [finish_eq, finish_eq, hcumulative, hlaunch, hcapture, hdata]
  rfl

end PathTiming
