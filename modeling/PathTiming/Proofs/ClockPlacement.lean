import Mathlib.Data.List.Induction
import PathTiming.Proofs.StartPort

/-! Where the clock pin of a path is placed while the pins are read one after another: at the pin of
the startpoint, and until that comes, at the end of the first run of clock pins. -/
namespace PathTiming

section
variable {α : Type} (p : α → Bool)

/-- The first members in a row that satisfy `p`. -/
def firstRun (as : List α) : List α := (as.dropWhile (!p ·)).takeWhile p

/-- Whether the first run is over: some member behind its beginning does not satisfy `p`. -/
def isRunOver (as : List α) : Bool := (as.dropWhile (!p ·)).any (!p ·)

theorem firstRun_concat (as : List α) (a : α) :
    firstRun p (as ++ [a]) =
      if p a && !isRunOver p as then firstRun p as ++ [a] else firstRun p as := by
  unfold firstRun isRunOver
  rw [List.dropWhile_append]
  generalize as.dropWhile (!p ·) = run
  cases run with
  | nil => cases ha : p a <;> simp [ha]
  | cons b run =>
    rw [if_neg (by simp), List.takeWhile_append]
    by_cases hall : ∀ x ∈ b :: run, p x = true
    · have hover : (b :: run).any (!p ·) = false := by simpa using hall
      rw [List.takeWhile_eq_self_iff.mpr hall, if_pos rfl, hover]
      cases ha : p a <;> simp [ha]
    · have hover : (b :: run).any (!p ·) = true := by
        by_contra hover
        exact hall (by simpa using hover)
      rw [if_neg fun hlength => hall ?_, hover]
      · simp
      · rw [← List.takeWhile_eq_self_iff]
        exact (List.takeWhile_prefix _).eq_of_length hlength

theorem isRunOver_concat (as : List α) (a : α) :
    isRunOver p (as ++ [a]) = (isRunOver p as || (!p a && !(firstRun p as).isEmpty)) := by
  unfold firstRun isRunOver
  rw [List.dropWhile_append]
  cases hrun : as.dropWhile (!p ·) with
  | nil => cases ha : p a <;> simp [ha]
  | cons b run =>
    -- The run begins with a member that satisfies `p`.
    have hb : p b = true := by
      have hhead := List.head?_dropWhile_not (!p ·) as
      rw [hrun] at hhead
      simpa using hhead
    rw [if_neg (by simp), List.any_append, List.takeWhile_cons, if_pos hb]
    simp

end

/-- Whether a pin fixes the clock pin of a path with this startpoint. -/
def Pin.isStartOf (start : String) (p : Pin) : Bool :=
  !p.isPort && (p.inst == start || p.name == start)

def startPinAt? (start : String) (pins : List Pin) : Option Nat := pins.findIdx? (·.isStartOf start)

def libraryPins (pins : List Pin) : List (Pin × Nat) := pins.zipIdx.filter (!·.1.isPort)

/-- Place of the last pin of the first run of clock pins. Ports do not interrupt a run. -/
def networkEnd? (pins : List Pin) : Option Nat :=
  (firstRun (·.1.isClock) (libraryPins pins)).getLast?.map (·.2)

/-- Whether a pin outside the clock network came after the first run of clock pins. -/
def isNetworkLeft (pins : List Pin) : Bool := isRunOver (·.1.isClock) (libraryPins pins)

section
variable (start : String) (pins : List Pin) (p : Pin)

theorem startPinAt?_concat :
    startPinAt? start (pins ++ [p]) =
      (startPinAt? start pins).or (if p.isStartOf start then some pins.length else none) := by
  unfold startPinAt?
  rw [List.findIdx?_append, List.findIdx?_singleton]
  cases p.isStartOf start <;> simp

theorem libraryPins_concat :
    libraryPins (pins ++ [p]) =
      if p.isPort then libraryPins pins else libraryPins pins ++ [(p, pins.length)] := by
  unfold libraryPins
  rw [List.zipIdx_append, List.filter_append]
  cases hp : p.isPort <;> simp [hp]

theorem networkEnd?_concat :
    networkEnd? (pins ++ [p]) =
      if !p.isPort && p.isClock && !isNetworkLeft pins then some pins.length
      else networkEnd? pins := by
  unfold networkEnd? isNetworkLeft
  rw [libraryPins_concat]
  cases hp : p.isPort with
  | true => simp
  | false =>
    rw [if_neg Bool.false_ne_true, firstRun_concat]
    simp only [Bool.not_false, Bool.true_and]
    split_ifs
    · simp
    · rfl

theorem isNetworkLeft_concat :
    isNetworkLeft (pins ++ [p]) =
      (isNetworkLeft pins || (!p.isPort && !p.isClock && (networkEnd? pins).isSome)) := by
  unfold networkEnd? isNetworkLeft
  rw [libraryPins_concat]
  cases hp : p.isPort with
  | true => simp
  | false =>
    rw [if_neg Bool.false_ne_true, isRunOver_concat]
    cases firstRun (·.1.isClock) (libraryPins pins) <;> simp [List.getLast?_cons]

end

/-- Where the network ends does not depend on the pins behind its end. -/
theorem networkEnd?_take {pins : List Pin} {k : Nat} (h : ∀ s ∈ networkEnd? pins, s < k) :
    networkEnd? (pins.take k) = networkEnd? pins := by
  induction pins using List.reverseRecOn with
  | nil => rw [List.take_nil]
  | append_singleton pins p ih =>
    rcases Nat.lt_or_ge pins.length k with hlt | hle
    · rw [List.take_of_length_le (by rw [List.length_append]; exact hlt)]
    · -- The last pin is taken off. It is not the end, so the end is that of the others.
      rw [List.take_append_of_le_length hle]
      rw [networkEnd?_concat] at h ⊢
      split_ifs at h ⊢ with hclock
      · exact absurd (h _ rfl) (Nat.not_lt_of_le hle)
      · exact ih h

theorem startPinAt?_congr (start : String) {pins pins' : List Pin}
    (h : pins.map Pin.site = pins'.map Pin.site) :
    startPinAt? start pins = startPinAt? start pins' := by
  have hsite : ∀ pins : List Pin, startPinAt? start pins = (pins.map Pin.site).findIdx? fun s =>
      !s.2.1 && (PinName.instanceOf s.1 == start || s.1 == start) := by
    intro pins
    rw [List.findIdx?_map]
    rfl
  rw [hsite, hsite, h]

def Pin.kind (p : Pin) : Bool × Bool := (p.isPort, p.isClock)

theorem network_congr {pins pins' : List Pin} (h : pins.map Pin.kind = pins'.map Pin.kind) :
    networkEnd? pins = networkEnd? pins' ∧ isNetworkLeft pins = isNetworkLeft pins' := by
  induction pins using List.reverseRecOn generalizing pins' with
  | nil =>
    rw [List.map_nil, eq_comm, List.map_eq_nil_iff] at h
    rw [h]
    exact ⟨rfl, rfl⟩
  | append_singleton pins p ih =>
    rw [List.map_append, eq_comm, List.map_eq_append_iff] at h
    obtain ⟨front, last, rfl, hfront, hlast⟩ := h
    rw [List.map_singleton, List.map_eq_singleton_iff] at hlast
    obtain ⟨q, rfl, hkind⟩ := hlast
    obtain ⟨hend, hleft⟩ := ih hfront.symm
    have hport : q.isPort = p.isPort := congrArg Prod.fst hkind
    have hclock : q.isClock = p.isClock := congrArg Prod.snd hkind
    have hlen : front.length = pins.length := by
      rw [← List.length_map Pin.kind, hfront, List.length_map]
    rw [networkEnd?_concat, networkEnd?_concat, isNetworkLeft_concat, isNetworkLeft_concat, hend,
      hleft, hport, hclock, hlen]
    exact ⟨rfl, rfl⟩

namespace Block

/-- The clock pin of a block whose startpoint is no port. -/
structure Placed (b : Block) : Prop where
  clockPinAt : b.path.clockPinAt =
    (startPinAt? b.path.startpoint b.path.launchPins).or (networkEnd? b.path.launchPins)
  fixed : b.clockPinFixed = (startPinAt? b.path.startpoint b.path.launchPins).isSome
  left : b.clockPinFixed = false → b.leftClockNetwork = isNetworkLeft b.path.launchPins

section
variable {b b' : Block}

/-- Blocks with the same launch pins, up to values, have their clock pin placed together. -/
theorem Placed.congr (h : b.Placed) (hstart : b'.path.startpoint = b.path.startpoint)
    (hat : b'.path.clockPinAt = b.path.clockPinAt) (hfixed : b'.clockPinFixed = b.clockPinFixed)
    (hleft : b'.leftClockNetwork = b.leftClockNetwork)
    (hsites : b'.path.launchPins.map Pin.site = b.path.launchPins.map Pin.site)
    (hkinds : b'.path.launchPins.map Pin.kind = b.path.launchPins.map Pin.kind) : b'.Placed := by
  obtain ⟨hend, hover⟩ := network_congr hkinds
  constructor
  · rw [hat, hstart, startPinAt?_congr _ hsites, hend]
    exact h.clockPinAt
  · rw [hfixed, hstart, startPinAt?_congr _ hsites]
    exact h.fixed
  · rw [hfixed, hleft, hover]
    exact h.left

theorem SamePins.placed (hs : SamePins b b') (h : b.Placed) : b'.Placed :=
  h.congr hs.startpoint hs.clockPinAt hs.clockPinFixed hs.leftClockNetwork
    (by rw [hs.launchPins]) (by rw [hs.launchPins])

theorem Placed.startPinAt?_eq_none (h : b.Placed) (hf : b.clockPinFixed = false) :
    startPinAt? b.path.startpoint b.path.launchPins = none := by
  rw [h.fixed] at hf
  exact Option.not_isSome_iff_eq_none.mp (ne_true_of_eq_false hf)

/-- Until the pin of the startpoint is found, the clock pin is the end of the network. -/
theorem Placed.networkEnd? (h : b.Placed) (hf : b.clockPinFixed = false) :
    networkEnd? b.path.launchPins = b.path.clockPinAt := by
  rw [h.clockPinAt, h.startPinAt?_eq_none hf]
  rfl

theorem Placed.readNet (h : b.Placed) (row : PinRow) : (b.readNet row).Placed := by
  have hsites := (b.readNet_sites row).1
  have hkinds := (readNet_map (g := Pin.kind) (fun _ _ => rfl) b row).1
  obtain ⟨launchPins, capturePins, he⟩ := b.readNet_eq row
  rw [he] at hsites hkinds ⊢
  exact h.congr rfl rfl rfl rfl hsites hkinds

/-- A pin that moves the clock pin moves it to its own place. -/
theorem PlaceStep.clockPinAt_cases {p : Pin} {c : Block} (h : PlaceStep b p c) :
    c.path.clockPinAt = b.path.clockPinAt ∧ c.clockPinFixed = b.clockPinFixed ∨
      c.path.clockPinAt = some b.path.launchPins.length ∧ b.startIsPort = false := by
  cases h with
  | port hs hp => exact .inl ⟨rfl, rfl⟩
  | start hb hp hs => exact .inr ⟨rfl, hb⟩
  | clock hb hp hs hc hl => exact .inr ⟨rfl, hb⟩
  | leave hb hp hs hc hat => exact .inl ⟨rfl, rfl⟩
  | stay hb hp hs hl hat => exact .inl ⟨rfl, rfl⟩

/-- The clock pin when one more launch pin counts. -/
theorem PlaceStep.placed {p : Pin} {c : Block} (hstep : PlaceStep b p c) (h : b.Placed)
    (hf : b.clockPinFixed = false) (hport : c.startIsPort = false) :
    c.path.clockPinAt =
        (startPinAt? b.path.startpoint (b.path.launchPins ++ [p])).or
          (networkEnd? (b.path.launchPins ++ [p])) ∧
      c.clockPinFixed = (startPinAt? b.path.startpoint (b.path.launchPins ++ [p])).isSome ∧
      (c.clockPinFixed = false →
        c.leftClockNetwork = isNetworkLeft (b.path.launchPins ++ [p])) := by
  rw [startPinAt?_concat, networkEnd?_concat, isNetworkLeft_concat, h.startPinAt?_eq_none hf,
    h.networkEnd? hf, ← h.left hf]
  unfold Pin.isStartOf
  cases hstep with
  | port hs hp =>
    have hp : p.isPort = true := hp.resolve_left (ne_true_of_eq_false hport)
    simp [hp, hf]
  | start hb hp hs => simp [hp, hs]
  | clock hb hp hs hc hl => simp [hp, hs, hc, hl, hf]
  | leave hb hp hs hc hat => simp [hp, hs, hc, hat, hf]
  | stay hb hp hs hl hat =>
    cases hc : p.isClock with
    | true => simp [hp, hs, hl hc, hf]
    | false => simp [hp, hs, hat hc, hf]

theorem Placed.addLaunchPin (h : b.Placed) (rules : RuleSet) (row : PinRow) {p : Pin}
    (hport : (addLaunchPin rules b row p).startIsPort = false) :
    (addLaunchPin rules b row p).Placed := by
  obtain ⟨source, holdChecks, he⟩ := addLaunchPin_place rules b row p
  rw [he] at hport ⊢
  cases hf : b.clockPinFixed with
  | true =>
    rw [if_pos rfl]
    obtain ⟨i, hi⟩ := Option.isSome_iff_exists.mp (h.fixed.symm.trans hf)
    have hstart : startPinAt? b.path.startpoint (b.path.launchPins ++ [p]) = some i := by
      rw [startPinAt?_concat, hi]
      rfl
    constructor
    · dsimp only
      rw [h.clockPinAt, hi, hstart]
      rfl
    · dsimp only
      rw [hf, hstart]
      rfl
    · intro hopen
      exact absurd (hopen.symm.trans hf) Bool.false_ne_true
  | false =>
    rw [hf, if_neg Bool.false_ne_true] at hport
    rw [if_neg Bool.false_ne_true]
    obtain ⟨hat, hfixed, hleft⟩ := (b.placeClockPin_step p).placed h hf hport
    obtain ⟨port, fixed, left, at?, hplace, -⟩ := b.placeClockPin_eq p
    rw [hplace] at hat hfixed hleft ⊢
    exact ⟨hat, hfixed, hleft⟩

theorem Placed.addCapturePin (h : b.Placed) (rules : RuleSet) (row : PinRow) (p : Pin) :
    (addCapturePin rules b row p).Placed := by
  obtain ⟨source, time, checks, he, -⟩ := addCapturePin_eq rules b row p
  rw [he]
  exact ⟨h.clockPinAt, h.fixed, h.left⟩

variable {rules : RuleSet} {line : Nat}

theorem PinStep.placed {row : PinRow} (hstep : PinStep rules b line row b') (h : b.Placed)
    (hport : b'.startIsPort = false) : b'.Placed := by
  have hmoved : (b.moveTo row).Placed := (b.moveTo_samePins row).placed h
  cases hstep with
  | net hc => exact h.readNet row
  | launch hc hp hs => exact hmoved.addLaunchPin rules row hport
  | capture hc hp hs => exact hmoved.addCapturePin rules row _

/-- Every line keeps the clock pin placed, unless it tells that the startpoint is a port. -/
theorem Step.placed {text : List Char} {atEnd : Bool} (hstep : Step rules line text b b' atEnd)
    (h : b.startIsPort = false → b.Placed) (hport : b'.startIsPort = false) : b'.Placed := by
  have hopen : b.startIsPort = false := by
    rw [← Bool.not_eq_true] at hport ⊢
    exact fun hp => hport (hstep.startIsPort hp)
  obtain hsame | ⟨row, -, hb⟩ := hstep.samePins_or_pinStep
  · exact hsame.placed (h hopen)
  · exact hb.placed (b.enterTable_samePins.placed (h hopen)) hport

end

theorem start_placed (line : Nat) (startpoint : List Char) : (start line startpoint).Placed := by
  constructor
  · rfl
  · rfl
  · intro _
    rfl

end Block

/-- The clock pin of a block that was read, unless its startpoint is a port. -/
theorem BlockText.placed_of_read {rules : RuleSet} {t : BlockText} {r : BlockReading}
    (h : t.read rules = .ok r) : r.block.startIsPort = false → r.block.Placed :=
  Block.feedLines_induction (P := fun b => b.startIsPort = false → b.Placed) h
    (fun _ => Block.start_placed t.line t.startpoint)
    fun _ _ _ _ _ hb hf => (Block.feed_step hf).placed hb

end PathTiming
