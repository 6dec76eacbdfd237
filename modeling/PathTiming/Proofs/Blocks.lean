import Mathlib.Data.List.TakeWhile
import PathTiming.Proofs.BlockStep
import PathTiming.Report.Scan

/-! A report as a sequence of blocks. Reading its lines amounts to reading the blocks one after
another. -/
namespace PathTiming

/-- The lines from a startpoint up to the next one. -/
structure BlockText where
  /-- The line of the startpoint. -/
  line : Nat
  text : String
  startpoint : List Char
  /-- The numbered lines behind the startpoint. -/
  body : List (Nat × String)
  /-- The line that closes the block if no slack does: that of the next startpoint, or the last
  line of the report. Lines that are cut off before have none. -/
  bound : Option Nat

/-- Whether a numbered line begins with the label of a startpoint. -/
def isStart (l : Nat × String) : Bool := (ReportHeader.startpoint? l.2.toList).isSome

/-- The blocks of numbered lines. Lines before the first startpoint belong to none. -/
def BlockText.divide (bound : Option Nat) : List (Nat × String) → List BlockText
  | [] => []
  | l :: rest =>
    match ReportHeader.startpoint? l.2.toList with
    | none => divide bound rest
    | some startpoint =>
      { line := l.1
        text := l.2
        startpoint
        body := rest.takeWhile (!isStart ·)
        bound := ((rest.find? isStart).map (·.1)).or bound } :: divide bound rest

structure BlockReading where
  block : Block
  /-- The lines that were read: none behind a slack that ends the block. -/
  fed : List (Nat × String) := []
  /-- The line of that slack. -/
  slackLine : Option Nat := none

/-- Reads lines until the block is at its end. -/
def Block.feedLines (rules : RuleSet) (b : Block) :
    List (Nat × String) → Except FormatError BlockReading
  | [] => .ok { block := b }
  | l :: rest =>
    match b.feed rules l.1 l.2.toList with
    | .error e => .error e
    | .ok (b, true) => .ok { block := b, fed := [l], slackLine := some l.1 }
    | .ok (b, false) => (b.feedLines rules rest).map fun r => { r with fed := l :: r.fed }

def BlockText.read (rules : RuleSet) (t : BlockText) : Except FormatError BlockReading :=
  (Block.start t.line t.startpoint).feedLines rules t.body

namespace BlockText

/-- A report is what comes before its first startpoint, and then its blocks. -/
theorem takeWhile_append_flatMap_divide (bound : Option Nat) (lines : List (Nat × String)) :
    lines.takeWhile (!isStart ·) ++
      (divide bound lines).flatMap (fun t => (t.line, t.text) :: t.body) = lines := by
  induction lines with
  | nil => rfl
  | cons l rest ih =>
    unfold divide
    cases hl : ReportHeader.startpoint? l.2.toList with
    | none =>
      have hstart : isStart l = false := by simp [isStart, hl]
      simp only [List.takeWhile_cons, hstart, Bool.not_false, if_true, List.cons_append, ih]
    | some startpoint =>
      have hstart : isStart l = true := by simp [isStart, hl]
      simp only [List.takeWhile_cons, hstart, Bool.not_true, Bool.false_eq_true, if_false,
        List.nil_append, List.flatMap_cons, List.cons_append, ih]

theorem subset_of_mem_divide {bound : Option Nat} {lines : List (Nat × String)} {t : BlockText}
    (h : t ∈ divide bound lines) : (t.line, t.text) :: t.body ⊆ lines := by
  intro l hl
  rw [← takeWhile_append_flatMap_divide bound lines]
  exact List.mem_append_right _ (List.mem_flatMap.mpr ⟨t, h, hl⟩)

/-- The lines of a block are numbered upwards, and none comes after its end. -/
structure Ordered (t : BlockText) : Prop where
  above : ∀ l ∈ t.body, t.line < l.1
  body : t.body.Pairwise (·.1 < ·.1)
  bound : ∀ c ∈ t.bound, t.line ≤ c ∧ ∀ l ∈ t.body, l.1 ≤ c

theorem ordered_of_mem_divide {bound : Option Nat} {lines : List (Nat × String)}
    (hs : lines.Pairwise (·.1 < ·.1)) (hbound : ∀ c ∈ bound, ∀ l ∈ lines, l.1 ≤ c)
    {t : BlockText} (ht : t ∈ divide bound lines) : t.Ordered := by
  induction lines with
  | nil => simp [divide] at ht
  | cons l rest ih =>
    obtain ⟨hl, hrest⟩ := List.pairwise_cons.mp hs
    have hbound' : ∀ c ∈ bound, ∀ x ∈ rest, x.1 ≤ c := fun c hc x hx =>
      hbound c hc x (by simp [hx])
    unfold divide at ht
    split at ht
    · exact ih hrest hbound' ht
    · rcases List.mem_cons.mp ht with rfl | ht
      · have hsub : (rest.takeWhile (!isStart ·)).Sublist rest := (List.takeWhile_prefix _).sublist
        refine ⟨fun x hx => hl x (hsub.subset hx), hrest.sublist hsub, fun c hc => ?_⟩
        cases hf : rest.find? isStart with
        | none =>
          rw [hf] at hc
          exact ⟨hbound c hc l (by simp), fun x hx => hbound' c hc x (hsub.subset hx)⟩
        | some next =>
          have hcn : next.1 = c := by simpa [hf] using hc
          subst c
          refine ⟨Nat.le_of_lt (hl next (List.mem_of_find?_eq_some hf)), fun x hx => ?_⟩
          have hnext : next ∈ rest.dropWhile (!isStart ·) := by
            rw [List.find?_eq_head?_dropWhile_not] at hf
            exact List.mem_of_head? hf
          rw [← List.takeWhile_append_dropWhile (p := (!isStart ·)) (l := rest)] at hrest
          exact Nat.le_of_lt ((List.pairwise_append.mp hrest).2.2 x hx next hnext)
      · exact ih hrest hbound' ht

end BlockText

namespace Block

/-- A line that is read ends the block, or the others are read after it. -/
theorem feedLines_cons_eq_ok {rules : RuleSet} {b : Block} {l : Nat × String}
    {rest : List (Nat × String)} {r : BlockReading}
    (h : b.feedLines rules (l :: rest) = .ok r) :
    (∃ b', b.feed rules l.1 l.2.toList = .ok (b', true) ∧
      r = { block := b', fed := [l], slackLine := some l.1 }) ∨
    ∃ b' r', b.feed rules l.1 l.2.toList = .ok (b', false) ∧ b'.feedLines rules rest = .ok r' ∧
      r = { r' with fed := l :: r'.fed } := by
  simp only [feedLines] at h
  cases hf : b.feed rules l.1 l.2.toList with
  | error e => simp [hf] at h
  | ok fed =>
    obtain ⟨b', atEnd⟩ := fed
    cases atEnd with
    | true =>
      simp only [hf, Except.ok.injEq] at h
      exact .inl ⟨b', rfl, h.symm⟩
    | false =>
      cases hr : b'.feedLines rules rest with
      | error e => simp [hf, hr, Except.map] at h
      | ok r' =>
        simp only [hf, hr, Except.map, Except.ok.injEq] at h
        exact .inr ⟨b', r', rfl, hr, h.symm⟩

theorem head_mem_fed {rules : RuleSet} {b : Block} {l : Nat × String} {rest : List (Nat × String)}
    {r : BlockReading} (h : b.feedLines rules (l :: rest) = .ok r) : l ∈ r.fed := by
  obtain ⟨b', _, rfl⟩ | ⟨b', r', _, _, rfl⟩ := feedLines_cons_eq_ok h
  · simp
  · simp

/-- The lines that are read come first. They are all lines, unless a slack ends the block at the
last of them. -/
theorem fed_of_feedLines {rules : RuleSet} {b : Block} {lines : List (Nat × String)}
    {r : BlockReading} (h : b.feedLines rules lines = .ok r) :
    r.fed <+: lines ∧ (r.slackLine = none → r.fed = lines) ∧
      ∀ n ∈ r.slackLine, r.block.isComplete = true ∧ r.fed.getLast?.map (·.1) = some n := by
  induction lines generalizing b r with
  | nil =>
    cases h
    exact ⟨List.prefix_refl _, fun _ => rfl, by simp⟩
  | cons l rest ih =>
    obtain ⟨b', hf, rfl⟩ | ⟨b', r', hf, hr, rfl⟩ := feedLines_cons_eq_ok h
    · exact ⟨by simp, by simp, by simp [isComplete_of_feed hf]⟩
    · obtain ⟨hpre, hnone, hsome⟩ := ih hr
      refine ⟨List.cons_prefix_cons.mpr ⟨rfl, hpre⟩, fun hn => by simp [hnone hn], fun n hn => ?_⟩
      obtain ⟨hc, hlast⟩ := hsome n hn
      refine ⟨hc, ?_⟩
      cases hfed : r'.fed with
      | nil => simp [hfed] at hlast
      | cons x more => simpa [hfed] using hlast

/-- What every line keeps holds of the block that was read. -/
theorem feedLines_induction {rules : RuleSet} {P : Block → Prop} {b : Block}
    {lines : List (Nat × String)} {r : BlockReading} (h : b.feedLines rules lines = .ok r)
    (hb : P b)
    (hstep : ∀ b b' l atEnd, l ∈ lines → P b → b.feed rules l.1 l.2.toList = .ok (b', atEnd) →
      P b') : P r.block := by
  induction lines generalizing b r with
  | nil =>
    cases h
    exact hb
  | cons l rest ih =>
    obtain ⟨b', hf, rfl⟩ | ⟨b', r', hf, hr, rfl⟩ := feedLines_cons_eq_ok h
    · exact hstep b b' l true (by simp) hb hf
    · have hrest : P r'.block := ih hr (hstep b b' l false (by simp) hb hf)
        fun b b' x atEnd hx => hstep b b' x atEnd (by simp [hx])
      exact hrest

/-- What every line keeps of a block and the lines before it holds of the block that was read. -/
theorem feedLines_induction_fed {rules : RuleSet} {P : List (Nat × String) → Block → Prop}
    {fed lines : List (Nat × String)} {b : Block} {r : BlockReading}
    (h : b.feedLines rules lines = .ok r) (hb : P fed b)
    (hstep : ∀ fed b b' l atEnd, P fed b → b.feed rules l.1 l.2.toList = .ok (b', atEnd) →
      P (fed ++ [l]) b') : P (fed ++ r.fed) r.block := by
  induction lines generalizing b fed r with
  | nil =>
    cases h
    rwa [List.append_nil]
  | cons l rest ih =>
    obtain ⟨b', hf, rfl⟩ | ⟨b', r', hf, hr, rfl⟩ := feedLines_cons_eq_ok h
    · exact hstep fed b b' l true hb hf
    · have hrest := ih hr (hstep fed b b' l false hb hf)
      rwa [List.append_assoc] at hrest

end Block

theorem BlockText.path_line_of_read {rules : RuleSet} {t : BlockText} {r : BlockReading}
    (h : t.read rules = .ok r) : r.block.path.line = t.line :=
  Block.feedLines_induction (P := fun b => b.path.line = t.line) h rfl
    fun _ _ _ _ _ hb hf => (Block.feed_step hf).path_line.trans hb

/-- A path of a report with the line that closes it. -/
structure ClosedPath where
  path : TimingPath
  closing : Nat

/-- The path of a block that was read. Its launch side must be closed, and so must the block. -/
def BlockReading.closedPath? (through : List String) (bound : Option Nat) (r : BlockReading) :
    Option ClosedPath :=
  if r.block.isComplete then
    (r.slackLine.or bound).map fun closing => ⟨r.block.finish through, closing⟩
  else none

structure Harvest where
  paths : List ClosedPath := []
  /-- The lines that were read as lines of a block. -/
  fed : List (Nat × String) := []

namespace Harvest

def addColumns (columns : EnumSet Column) (lines : List (Nat × String)) : EnumSet Column :=
  lines.foldl (fun s l => (Block.newColumns l.2.toList).foldl EnumSet.insert s) columns

/-- Reads one block after another until there are as many paths as are wanted. -/
def gather (rules : RuleSet) (through : List String) (limit : Option Nat) :
    List BlockText → Except FormatError Harvest
  | [] => .ok {}
  | t :: rest =>
    if limit = some 0 then .ok {}
    else
      match t.read rules with
      | .error e => .error e
      | .ok r =>
        let found := (r.closedPath? through t.bound).toList
        (gather rules through (limit.map (· - found.length)) rest).map fun later =>
          { paths := found ++ later.paths, fed := r.fed ++ later.fed }

end Harvest

namespace Scan

/-- What a scan has found, when the block that is being read is closed or given up. -/
def result (through : List String) (bound : Option Nat) (s : Scan) :
    List TimingPath × EnumSet Column :=
  let s := if bound.isSome then s.close through else s
  (s.paths, s.columns)

/-- What is found when the blocks that follow are read, too. -/
def resultWith (s : Scan) (h : Harvest) : List TimingPath × EnumSet Column :=
  (s.paths ++ h.paths.map (·.path), Harvest.addColumns s.columns h.fed)

theorem close_of_current_eq_none {s : Scan} (through : List String) (h : s.current = none) :
    s.close through = s := by
  simp [close, h]

theorem isFull_iff (s : Scan) (limit : Option Nat) :
    s.isFull limit = true ↔ limit.map (· - s.paths.length) = some 0 := by
  cases limit with
  | none => simp [isFull]
  | some n =>
    simp only [isFull, decide_eq_true_eq, Option.map_some, Option.some.injEq]
    omega

/-- A block that was read, added to what a scan has found. -/
def absorb (s : Scan) (through : List String) (bound : Option Nat) (r : BlockReading) : Scan where
  paths := s.paths ++ (r.closedPath? through bound).toList.map (·.path)
  columns := Harvest.addColumns s.columns r.fed

theorem close_eq_absorb {s : Scan} {b : Block} (through : List String) (closing : Nat)
    (h : s.current = some b) : s.close through = s.absorb through (some closing) { block := b } := by
  by_cases hc : b.isComplete = true
  · simp [close, absorb, h, hc, BlockReading.closedPath?, Harvest.addColumns]
  · simp [close, absorb, h, hc, BlockReading.closedPath?, Harvest.addColumns]

end Scan

namespace Harvest
variable (rules : RuleSet) (through : List String)

theorem gather_zero (ts : List BlockText) : gather rules through (some 0) ts = .ok {} := by
  cases ts with
  | nil => rfl
  | cons t rest => simp [gather]

/-- Blocks give nothing if none is wanted, and otherwise what the first one gives and then the
others. -/
theorem gather_cons_eq_ok {limit : Option Nat} {t : BlockText} {rest : List BlockText}
    {found : Harvest} (h : gather rules through limit (t :: rest) = .ok found) :
    (limit = some 0 ∧ found = {}) ∨
      ∃ r later, limit ≠ some 0 ∧ t.read rules = .ok r ∧
        gather rules through (limit.map (· - (r.closedPath? through t.bound).toList.length)) rest =
          .ok later ∧
        found = { paths := (r.closedPath? through t.bound).toList ++ later.paths
                  fed := r.fed ++ later.fed } := by
  unfold gather at h
  by_cases hz : limit = some 0
  · rw [if_pos hz] at h
    exact .inl ⟨hz, (Except.ok.inj h).symm⟩
  · rw [if_neg hz] at h
    cases hr : t.read rules with
    | error e => simp [hr] at h
    | ok r =>
      simp only [hr] at h
      cases hlater : gather rules through
        (limit.map (· - (r.closedPath? through t.bound).toList.length)) rest with
      | error e => simp [hlater, Except.map] at h
      | ok later =>
        simp only [hlater, Except.map, Except.ok.injEq] at h
        exact .inr ⟨r, later, hz, rfl, hlater, h.symm⟩

/-- Reading a block first and the others after it. -/
theorem gather_cons_resultWith (limit : Option Nat) (s : Scan) (t : BlockText)
    (rest : List BlockText) :
    (gather rules through (limit.map (· - s.paths.length)) (t :: rest)).map s.resultWith =
      if s.isFull limit then .ok (s.paths, s.columns)
      else t.read rules >>= fun r =>
        (gather rules through (limit.map (· - (s.absorb through t.bound r).paths.length)) rest).map
          (s.absorb through t.bound r).resultWith := by
  by_cases hf : s.isFull limit = true
  · rw [if_pos hf, (s.isFull_iff limit).mp hf, gather_zero]
    simp [Except.map, Scan.resultWith, addColumns]
  · rw [if_neg hf]
    have hl : limit.map (· - s.paths.length) ≠ some 0 := fun h => hf ((s.isFull_iff limit).mpr h)
    simp only [gather, hl, if_false]
    cases t.read rules with
    | error e => rfl
    | ok r =>
      have hlen : (limit.map (· - s.paths.length)).map
          (· - ((r.closedPath? through t.bound).toList).length) =
          limit.map (· - (s.absorb through t.bound r).paths.length) := by
        simp [Scan.absorb, Function.comp_def, Nat.sub_sub]
      dsimp only [bind, Except.bind]
      rw [hlen]
      cases gather rules through
        (limit.map (· - (s.absorb through t.bound r).paths.length)) rest with
      | error e => rfl
      | ok later =>
        simp [Except.map, Scan.resultWith, Scan.absorb, addColumns, List.foldl_append]

end Harvest

namespace Scan
variable (rules : RuleSet) (through : List String) (limit : Option Nat) (bound : Option Nat)

/-- What reading lines gives, when no block is open. -/
def ClosedLaw (lines : List (Nat × String)) : Prop :=
  ∀ s : Scan, s.current = none →
    (readLines rules through limit s lines).map (result through bound) =
      (Harvest.gather rules through (limit.map (· - s.paths.length))
        (BlockText.divide bound lines)).map s.resultWith

/-- What reading lines gives, when the block `b` is open. -/
def OpenLaw (lines : List (Nat × String)) : Prop :=
  ∀ (s : Scan) (b : Block), s.current = some b →
    (readLines rules through limit s lines).map (result through bound) =
      b.feedLines rules (lines.takeWhile (!isStart ·)) >>= fun r =>
        let s := s.absorb through (((lines.find? isStart).map (·.1)).or bound) r
        (Harvest.gather rules through (limit.map (· - s.paths.length))
          (BlockText.divide bound lines)).map s.resultWith

/-- A startpoint opens a block, unless there are paths enough. -/
theorem start_law {rest : List (Nat × String)} (h : OpenLaw rules through limit bound rest)
    (s : Scan) (hs : s.current = none) (l : Nat × String) {startpoint : List Char}
    (hl : ReportHeader.startpoint? l.2.toList = some startpoint) :
    (if s.isFull limit then .ok s
      else readLines rules through limit { s with current := some (.start l.1 startpoint) }
        rest).map (result through bound) =
      (Harvest.gather rules through (limit.map (· - s.paths.length))
        (BlockText.divide bound (l :: rest))).map s.resultWith := by
  simp only [BlockText.divide, hl]
  rw [Harvest.gather_cons_resultWith]
  by_cases hf : s.isFull limit = true
  · rw [if_pos hf, if_pos hf]
    simp [Except.map, result, close_of_current_eq_none through hs]
  · rw [if_neg hf, if_neg hf]
    exact h { s with current := some (.start l.1 startpoint) } (.start l.1 startpoint) rfl

theorem openLaw_nil : OpenLaw rules through limit bound [] := by
  intro s b hs
  cases bound with
  | none =>
    by_cases hc : b.isComplete = true <;>
      simp [readLines, Block.feedLines, BlockText.divide, Harvest.gather, Except.map, bind,
        Except.bind, result, resultWith, absorb, BlockReading.closedPath?, Harvest.addColumns, hc]
  | some closing =>
    simp [readLines, Block.feedLines, BlockText.divide, Harvest.gather, Except.map, bind,
      Except.bind, result, resultWith, Harvest.addColumns, close_eq_absorb through closing hs]

/-- A line of an open block is fed to it. -/
theorem openLaw_cons {l : Nat × String} {rest : List (Nat × String)}
    (hl : ReportHeader.startpoint? l.2.toList = none)
    (hclosed : ClosedLaw rules through limit bound rest)
    (hopen : OpenLaw rules through limit bound rest) :
    OpenLaw rules through limit bound (l :: rest) := by
  intro s b hs
  have hstart : isStart l = false := by simp [isStart, hl]
  simp only [List.takeWhile_cons, List.find?_cons, hstart, BlockText.divide, hl,
    Block.feedLines, readLines, hs, Bool.not_false, if_true]
  cases hf : b.feed rules l.1 l.2.toList with
  | error e => rfl
  | ok fed =>
    obtain ⟨b', atEnd⟩ := fed
    cases atEnd with
    | false =>
      dsimp only
      rw [if_neg Bool.false_ne_true, hopen _ b' rfl]
      cases b'.feedLines rules (rest.takeWhile (!isStart ·)) <;> rfl
    | true =>
      have hc := Block.isComplete_of_feed hf
      let s' := s.absorb through (((rest.find? isStart).map (·.1)).or bound)
        { block := b', fed := [l], slackLine := some l.1 }
      have hs' : s' = { s with
          paths := s.paths ++ [b'.finish through], current := none
          columns := (Block.newColumns l.2.toList).foldl EnumSet.insert s.columns } := by
        simp [s', absorb, BlockReading.closedPath?, hc, Harvest.addColumns]
      dsimp only [bind, Except.bind]
      rw [if_pos rfl, ← hs']
      change (if s'.isFull limit = true then _ else _ : Except FormatError Scan).map _ =
        (Harvest.gather rules through (limit.map (· - s'.paths.length)) _).map s'.resultWith
      by_cases hfull : s'.isFull limit = true
      · rw [if_pos hfull, (s'.isFull_iff limit).mp hfull, Harvest.gather_zero]
        simp [Except.map, result, resultWith, Harvest.addColumns,
          close_of_current_eq_none through (s := s') rfl]
      · rw [if_neg hfull]
        exact hclosed s' rfl

/-- Reading line by line is reading block by block. -/
theorem closedLaw_and_openLaw (lines : List (Nat × String)) :
    ClosedLaw rules through limit bound lines ∧ OpenLaw rules through limit bound lines := by
  -- Both at once: a startpoint opens a block, and a slack leaves none open.
  induction lines with
  | nil =>
    refine ⟨fun s hs => ?_, openLaw_nil rules through limit bound⟩
    simp [readLines, BlockText.divide, Harvest.gather, Except.map, result, resultWith,
      Harvest.addColumns, close_of_current_eq_none through hs]
  | cons l rest ih =>
    obtain ⟨hclosed, hopen⟩ := ih
    cases hl : ReportHeader.startpoint? l.2.toList with
    | some startpoint =>
      have hstart : isStart l = true := by simp [isStart, hl]
      refine ⟨fun s hs => ?_, fun s b hs => ?_⟩
      · simp only [readLines, hl, close_of_current_eq_none through hs]
        exact start_law rules through limit bound hopen s hs l hl
      · simp only [readLines, hl, close_eq_absorb through l.1 hs, List.takeWhile_cons,
          List.find?_cons, hstart, Bool.not_true, Bool.false_eq_true, if_false, Option.map_some,
          Option.some_or, Block.feedLines]
        exact start_law rules through limit bound hopen _ rfl l hl
    | none =>
      refine ⟨fun s hs => ?_, openLaw_cons rules through limit bound hl hclosed hopen⟩
      simp only [readLines, hl, hs, BlockText.divide]
      exact hclosed s hs

end Scan

namespace ScanRange

/-- The line that closes the last block of a range: the last line of the report, if the range
reaches it. -/
def bound (range : ScanRange) (file : SourceFile) : Option Nat :=
  if range.stop.any (· < file.lineCount) then none else some file.lineCount

def lines (range : ScanRange) (file : SourceFile) : List (Nat × String) :=
  (file.linesFrom range.start).takeWhile fun l => range.stop.all (l.1 ≤ ·)

def blocks (range : ScanRange) (file : SourceFile) : List BlockText :=
  BlockText.divide (range.bound file) (range.lines file)

end ScanRange

namespace Scan

theorem ofRange_eq_readLines (rules : RuleSet) (through : List String) (file : SourceFile)
    {range : ScanRange} (hz : range.count ≠ some 0) :
    (ofRange rules through file range).map (fun s => (s.paths, s.columns)) =
      (readLines rules through range.count {} (range.lines file)).map
        (result through (range.bound file)) := by
  unfold ofRange
  rw [if_neg hz]
  dsimp only
  cases hstop : range.stop with
  | none =>
    have hl : range.lines file = file.linesFrom range.start := by
      simp only [ScanRange.lines, hstop, Option.all_none]
      exact List.takeWhile_eq_self_iff.mpr fun _ _ => rfl
    rw [hl]
    generalize readLines rules through range.count {} (file.linesFrom range.start) = found
    cases found <;> simp [Except.map, result, ScanRange.bound, hstop]
  | some stop =>
    have hl : range.lines file =
        (file.linesFrom range.start).takeWhile fun l => decide (l.1 ≤ stop) := by
      simp [ScanRange.lines, hstop]
    rw [hl]
    generalize readLines rules through range.count {}
      ((file.linesFrom range.start).takeWhile fun l => decide (l.1 ≤ stop)) = found
    cases found with
    | error e => rfl
    | ok s => by_cases hcut : stop < file.lineCount <;>
        simp [Except.map, result, ScanRange.bound, hstop, hcut]

/-- A range is read block by block. -/
theorem ofRange_eq_gather (rules : RuleSet) (through : List String) (file : SourceFile)
    (range : ScanRange) :
    (ofRange rules through file range).map (fun s => (s.paths, s.columns)) =
      (Harvest.gather rules through range.count (range.blocks file)).map fun h =>
        (h.paths.map (·.path), Harvest.addColumns .empty h.fed) := by
  by_cases hz : range.count = some 0
  · simp [ofRange, hz, Harvest.gather_zero, Except.map, Harvest.addColumns]
  · rw [ofRange_eq_readLines rules through file hz]
    have h := (closedLaw_and_openLaw rules through range.count (range.bound file)
      (range.lines file)).1 {} rfl
    rw [h]
    simp only [List.length_nil, Nat.sub_zero, Option.map_id_fun', id_eq]
    rfl

theorem exists_gather_of_ofRange {rules : RuleSet} {through : List String} {file : SourceFile}
    {range : ScanRange} {s : Scan} (h : ofRange rules through file range = .ok s) :
    ∃ found, Harvest.gather rules through range.count (range.blocks file) = .ok found ∧
      s.paths = found.paths.map (·.path) ∧
      s.columns = Harvest.addColumns .empty found.fed := by
  have hscan := ofRange_eq_gather rules through file range
  rw [h] at hscan
  cases hg : Harvest.gather rules through range.count (range.blocks file) with
  | error e => simp [hg, Except.map] at hscan
  | ok found =>
    simp only [hg, Except.map, Except.ok.injEq, Prod.mk.injEq] at hscan
    exact ⟨found, rfl, hscan⟩

end Scan

end PathTiming
