import PathTiming.Proofs.Blocks
import PathTiming.Proofs.LineIndex

/-! A range of lines gives those paths of the whole report that begin and end within it. -/
namespace PathTiming

/-- The path of a block, if its lines can be read and hold one. -/
def BlockText.closedPath? (rules : RuleSet) (through : List String) (t : BlockText) :
    Option ClosedPath :=
  (t.read rules).toOption.bind fun r => r.closedPath? through t.bound

/-- The first members of a list, or all of them without a limit. -/
def atMost {α : Type} (limit : Option Nat) (l : List α) : List α :=
  match limit with
  | none => l
  | some n => l.take n

namespace Harvest

/-- Blocks that can all be read give their paths in order. -/
theorem gather_of_reads {rules : RuleSet} (through : List String) (limit : Option Nat)
    {ts : List BlockText} (h : ∀ t ∈ ts, ∃ r, t.read rules = .ok r) :
    ∃ found, gather rules through limit ts = .ok found ∧
      found.paths = atMost limit (ts.filterMap (·.closedPath? rules through)) := by
  induction ts generalizing limit with
  | nil => exact ⟨{}, rfl, by cases limit <;> simp [atMost]⟩
  | cons t rest ih =>
    obtain ⟨r, hr⟩ := h t (by simp)
    have hrest : ∀ t ∈ rest, ∃ r, t.read rules = .ok r := fun t ht => h t (by simp [ht])
    have hpath : t.closedPath? rules through = r.closedPath? through t.bound := by
      simp [BlockText.closedPath?, hr, Except.toOption]
    by_cases hz : limit = some 0
    · subst hz
      exact ⟨{}, gather_zero _ _ _, by simp [atMost]⟩
    · obtain ⟨later, hlater, hpaths⟩ :=
        ih (limit.map (· - (r.closedPath? through t.bound).toList.length)) hrest
      refine ⟨{ paths := (r.closedPath? through t.bound).toList ++ later.paths
                fed := r.fed ++ later.fed }, ?_, ?_⟩
      · simp only [gather, hz, if_false, hr, hlater, Except.map]
      simp only [hpaths, List.filterMap_cons, hpath]
      cases r.closedPath? through t.bound with
      | none => simp [atMost]
      | some c =>
        cases limit with
        | none => simp [atMost]
        | some n =>
          obtain ⟨m, rfl⟩ := Nat.exists_eq_succ_of_ne_zero fun h0 => hz (congrArg some h0)
          simp [atMost]

/-- Without a limit, every block is read. -/
theorem reads_of_gather {rules : RuleSet} {through : List String} {ts : List BlockText}
    {found : Harvest} (h : gather rules through none ts = .ok found) :
    ∀ t ∈ ts, ∃ r, t.read rules = .ok r := by
  induction ts generalizing found with
  | nil => simp
  | cons t rest ih =>
    obtain ⟨hz, -⟩ | ⟨r, later, -, hr, hlater, -⟩ := gather_cons_eq_ok rules through h
    · cases hz
    · intro u hu
      rcases List.mem_cons.mp hu with rfl | hu
      · exact ⟨r, hr⟩
      · exact ih hlater u hu

end Harvest

namespace BlockText

/-- What is left of a block when only the lines that satisfy `p` are read. -/
def cut (p : Nat → Bool) (t : BlockText) : BlockText :=
  { t with body := t.body.takeWhile fun l => p l.1, bound := t.bound.filter p }

theorem find?_takeWhile_of_sorted {lines : List (Nat × String)} {p : Nat → Bool}
    (hp : ∀ m n, m ≤ n → p n = true → p m = true) (hs : lines.Pairwise (·.1 < ·.1))
    (q : Nat × String → Bool) :
    (lines.takeWhile fun l => p l.1).find? q = (lines.find? q).filter fun l => p l.1 := by
  induction lines with
  | nil => rfl
  | cons l rest ih =>
    obtain ⟨hl, hrest⟩ := List.pairwise_cons.mp hs
    by_cases hpl : p l.1 = true
    · by_cases hq : q l = true
      · simp [hpl, hq, Option.filter]
      · simp [hpl, hq, ih hrest]
    · have hlater : ∀ x ∈ l :: rest, p x.1 = false := by
        intro x hx
        rcases List.mem_cons.mp hx with rfl | hx
        · simpa using hpl
        · by_contra hc
          exact hpl (hp _ _ (Nat.le_of_lt (hl x hx)) (by simpa using hc))
      have hnone : ((l :: rest).find? q).filter (fun l => p l.1) = none := by
        cases hf : (l :: rest).find? q with
        | none => rfl
        | some x => simp [hlater x (List.mem_of_find?_eq_some hf)]
      rw [hnone]
      simp [hpl]

/-- The line that closes a block, when only the first lines are kept. -/
theorem bound_takeWhile {p : Nat → Bool} (hp : ∀ m n, m ≤ n → p n = true → p m = true)
    {last : Nat} {lines : List (Nat × String)} (hs : lines.Pairwise (·.1 < ·.1))
    (hlast : ∀ l ∈ lines, l.1 ≤ last) :
    (((lines.takeWhile fun l => p l.1).find? isStart).map (·.1)).or ((some last).filter p) =
      (((lines.find? isStart).map (·.1)).or (some last)).filter p := by
  rw [find?_takeWhile_of_sorted hp hs]
  cases hf : lines.find? isStart with
  | none => rfl
  | some x =>
    by_cases hpx : p x.1 = true
    · simp [Option.filter, hpx]
    · have hpl : p last = false := by
        by_contra hc
        exact hpx (hp _ _ (hlast x (List.mem_of_find?_eq_some hf)) (by simpa using hc))
      simp [Option.filter, hpx, hpl]

/-- No block begins in the lines that are kept if the first line is not. -/
theorem filter_divide_eq_nil {p : Nat → Bool} (hp : ∀ m n, m ≤ n → p n = true → p m = true)
    (bound : Option Nat) {l : Nat × String} {rest : List (Nat × String)}
    (hl : ∀ x ∈ rest, l.1 < x.1) (hpl : ¬ p l.1 = true) :
    (divide bound (l :: rest)).filter (fun t => p t.line) = [] := by
  rw [List.filter_eq_nil_iff]
  intro t ht hc
  have hle : l.1 ≤ t.line := by
    rcases List.mem_cons.mp (subset_of_mem_divide ht List.mem_cons_self) with he | hmem
    · rw [← he]
    · exact Nat.le_of_lt (hl _ hmem)
  exact hpl (hp _ _ hle hc)

/-- Blocks of the first lines are blocks of all lines that are cut off. -/
theorem divide_takeWhile {p : Nat → Bool} (hp : ∀ m n, m ≤ n → p n = true → p m = true)
    {last : Nat} {lines : List (Nat × String)} (hs : lines.Pairwise (·.1 < ·.1))
    (hlast : ∀ l ∈ lines, l.1 ≤ last) :
    divide ((some last).filter p) (lines.takeWhile fun l => p l.1) =
      ((divide (some last) lines).filter fun t => p t.line).map (cut p) := by
  induction lines with
  | nil => rfl
  | cons l rest ih =>
    obtain ⟨hl, hrest⟩ := List.pairwise_cons.mp hs
    have hlast' : ∀ x ∈ rest, x.1 ≤ last := fun x hx => hlast x (List.mem_cons_of_mem l hx)
    have ih := ih hrest hlast'
    by_cases hpl : p l.1 = true
    · have htake : (l :: rest).takeWhile (fun l => p l.1) =
          l :: rest.takeWhile fun l => p l.1 := List.takeWhile_cons_of_pos hpl
      rw [htake]
      unfold divide
      cases hstart : ReportHeader.startpoint? l.2.toList with
      | none => simpa [hstart] using ih
      | some startpoint =>
        have hbody : (rest.takeWhile fun l => p l.1).takeWhile (!isStart ·) =
            (rest.takeWhile (!isStart ·)).takeWhile fun l => p l.1 := by
          rw [List.takeWhile_takeWhile, List.takeWhile_takeWhile]
          congr 1
          funext x
          exact decide_eq_decide.mpr and_comm
        simp only [hpl, List.filter_cons_of_pos, List.map_cons, ih]
        rw [hbody, bound_takeWhile hp hrest hlast']
        rfl
    · rw [filter_divide_eq_nil hp _ hl hpl]
      simp [hpl, divide]

/-- Blocks of the lines from a later line on are blocks of all lines. -/
theorem divide_numbered_drop (bound : Option Nat) (first n : Nat) (texts : List String) :
    divide bound (numbered (first + n) (texts.drop n)) =
      (divide bound (numbered first texts)).filter fun t => decide (first + n ≤ t.line) := by
  induction n generalizing first texts with
  | zero =>
    rw [List.drop_zero]
    refine (List.filter_eq_self.mpr fun t ht => ?_).symm
    have hmem := subset_of_mem_divide ht List.mem_cons_self
    simpa using (le_and_lt_of_mem_numbered hmem).1
  | succ n ih =>
    cases texts with
    | nil => rfl
    | cons text rest =>
      have h := ih (first + 1) rest
      have hn : first + 1 + n = first + (n + 1) := by omega
      rw [hn] at h
      rw [List.drop_succ_cons, h]
      cases hstart : ReportHeader.startpoint? text.toList with
      | none => simp only [numbered, divide, hstart]
      | some startpoint =>
        have hlt : ¬ first + (n + 1) ≤ first := by omega
        simp only [numbered, divide, hstart, hlt, decide_false, List.filter_cons, if_false,
          Bool.false_eq_true]

end BlockText

namespace Block

/-- Reading only the first lines of a block gives the same, unless a line that was read is left
out; then the slack is not reached. -/
theorem feedLines_takeWhile {rules : RuleSet} {b : Block} {lines : List (Nat × String)}
    {r : BlockReading} (h : b.feedLines rules lines = .ok r) (p : Nat → Bool) :
    ∃ r', b.feedLines rules (lines.takeWhile fun l => p l.1) = .ok r' ∧
      ((∀ l ∈ r.fed, p l.1 = true) → r' = r) ∧
      ((∃ l ∈ r.fed, p l.1 = false) → r'.slackLine = none) := by
  induction lines generalizing b r with
  | nil =>
    cases h
    refine ⟨_, rfl, fun _ => rfl, ?_⟩
    rintro ⟨l, hl, -⟩
    cases hl
  | cons l rest ih =>
    -- The first line that is left out was read, so the block has seen no slack before it.
    by_cases hp : p l.1 = true
    · have htake : (l :: rest).takeWhile (fun l => p l.1) =
          l :: rest.takeWhile fun l => p l.1 := List.takeWhile_cons_of_pos hp
      rw [htake]
      obtain ⟨b', hf, rfl⟩ | ⟨b', r₁, hf, hr, rfl⟩ := feedLines_cons_eq_ok h
      · refine ⟨_, by simp only [feedLines, hf], fun _ => rfl, ?_⟩
        rintro ⟨x, hx, hn⟩
        rw [List.mem_singleton.mp hx, hp] at hn
        cases hn
      · obtain ⟨r', hr', hall, hsome⟩ := ih hr
        refine ⟨{ r' with fed := l :: r'.fed }, by simp only [feedLines, hf, hr', Except.map],
          fun ha => ?_, ?_⟩
        · rw [hall fun x hx => ha x (List.mem_cons_of_mem l hx)]
        · rintro ⟨x, hx, hn⟩
          rcases List.mem_cons.mp hx with rfl | hx
          · rw [hp] at hn
            cases hn
          · exact hsome ⟨x, hx, hn⟩
    · have htake : (l :: rest).takeWhile (fun l => p l.1) = [] := by simp [hp]
      rw [htake]
      refine ⟨{ block := b }, rfl, fun ha => ?_, fun _ => rfl⟩
      exact absurd (ha l (head_mem_fed h)) hp

end Block

namespace BlockText
variable {rules : RuleSet} {through : List String} {t : BlockText}

theorem closedPath?_eq_some_iff {c : ClosedPath} :
    t.closedPath? rules through = some c ↔ ∃ r, t.read rules = .ok r ∧
      r.block.isComplete = true ∧ r.slackLine.or t.bound = some c.closing ∧
      r.block.finish through = c.path := by
  unfold closedPath? BlockReading.closedPath?
  cases hr : t.read rules with
  | error e => simp [Except.toOption]
  | ok r =>
    simp only [Except.toOption, Option.bind_some, Except.ok.injEq, exists_eq_left']
    by_cases hc : r.block.isComplete = true
    · rw [if_pos hc]
      simp only [Option.map_eq_some_iff, hc, true_and]
      constructor
      · rintro ⟨closing, hclosing, rfl⟩
        exact ⟨hclosing, rfl⟩
      · rintro ⟨hclosing, hpath⟩
        exact ⟨c.closing, hclosing, by rw [hpath]⟩
    · simp [hc]

theorem path_line_of_closedPath? {c : ClosedPath} (h : t.closedPath? rules through = some c) :
    c.path.line = t.line := by
  obtain ⟨r, hr, _, _, hpath⟩ := closedPath?_eq_some_iff.mp h
  rw [← hpath, Block.finish_eq]
  exact path_line_of_read hr

theorem fed_le_slackLine (ht : t.Ordered) {r : BlockReading} (hr : t.read rules = .ok r) {n : Nat}
    (hn : r.slackLine = some n) : (∀ l ∈ r.fed, l.1 ≤ n) ∧ ∃ l ∈ r.fed, l.1 = n := by
  obtain ⟨hpre, _, hsome⟩ := Block.fed_of_feedLines hr
  obtain ⟨last, hlast, rfl⟩ := Option.map_eq_some_iff.mp (hsome n hn).2
  obtain ⟨before, hfed⟩ := List.getLast?_eq_some_iff.mp hlast
  have hsorted := ht.body.sublist hpre.sublist
  rw [hfed] at hsorted ⊢
  refine ⟨fun l hl => ?_, last, by simp, rfl⟩
  rcases List.mem_append.mp hl with hl | hl
  · exact Nat.le_of_lt ((List.pairwise_append.mp hsorted).2.2 l hl last (by simp))
  · rw [List.mem_singleton.mp hl]

theorem fed_le_closing (ht : t.Ordered) {r : BlockReading} (hr : t.read rules = .ok r) {n : Nat}
    (hn : r.slackLine.or t.bound = some n) : ∀ l ∈ r.fed, l.1 ≤ n := by
  cases hs : r.slackLine with
  | none =>
    rw [hs, Option.none_or] at hn
    intro l hl
    exact (ht.bound n hn).2 l ((Block.fed_of_feedLines hr).1.subset hl)
  | some m =>
    obtain rfl : m = n := by simpa [hs] using hn
    exact (fed_le_slackLine ht hr hs).1

theorem line_le_closing (ht : t.Ordered) {r : BlockReading} (hr : t.read rules = .ok r) {n : Nat}
    (hn : r.slackLine.or t.bound = some n) : t.line ≤ n := by
  cases hs : r.slackLine with
  | none =>
    rw [hs, Option.none_or] at hn
    exact (ht.bound n hn).1
  | some m =>
    obtain rfl : m = n := by simpa [hs] using hn
    obtain ⟨l, hl, rfl⟩ := (fed_le_slackLine ht hr hs).2
    have hbody := (Block.fed_of_feedLines hr).1.subset hl
    exact Nat.le_of_lt (ht.above l hbody)

theorem slackLine_le_bound (ht : t.Ordered) {r : BlockReading} (hr : t.read rules = .ok r)
    {n c : Nat} (hn : r.slackLine = some n) (hc : t.bound = some c) : n ≤ c := by
  obtain ⟨l, hl, rfl⟩ := (fed_le_slackLine ht hr hn).2
  exact (ht.bound c hc).2 l ((Block.fed_of_feedLines hr).1.subset hl)

section
variable {p : Nat → Bool} {r r' : BlockReading}

/-- A block whose end is kept keeps all that was read of it. -/
theorem closing_cut_of_kept (ht : t.Ordered) (hp : ∀ m n, m ≤ n → p n = true → p m = true)
    (hr : t.read rules = .ok r) (hall : (∀ l ∈ r.fed, p l.1 = true) → r' = r) {c : Nat}
    (hc : r.slackLine.or t.bound = some c) (hpc : p c = true) :
    r' = r ∧ r.slackLine.or (t.bound.filter p) = some c := by
  refine ⟨hall fun l hl => hp _ _ (fed_le_closing ht hr hc l hl) hpc, ?_⟩
  cases hs : r.slackLine with
  | some n => simpa [hs] using hc
  | none =>
    rw [hs, Option.none_or] at hc
    rw [hc, Option.none_or, Option.filter_some, if_pos hpc]

/-- A block whose end is cut off has no end. -/
theorem closing_cut_of_cut (ht : t.Ordered) (hp : ∀ m n, m ≤ n → p n = true → p m = true)
    (hr : t.read rules = .ok r) (hall : (∀ l ∈ r.fed, p l.1 = true) → r' = r)
    (hsome : (∃ l ∈ r.fed, p l.1 = false) → r'.slackLine = none)
    (hc : (r.slackLine.or t.bound).filter p = none) :
    r'.slackLine.or (t.bound.filter p) = none := by
  have hslack : r'.slackLine = none := by
    by_cases hex : ∃ l ∈ r.fed, p l.1 = false
    · exact hsome hex
    · have hkept : ∀ l ∈ r.fed, p l.1 = true := fun l hl => by
        by_contra hpl
        exact hex ⟨l, hl, by simpa using hpl⟩
      rw [hall hkept]
      cases hs : r.slackLine with
      | none => rfl
      | some n =>
        obtain ⟨l, hl, rfl⟩ := (fed_le_slackLine ht hr hs).2
        simp [hs, Option.filter, hkept l hl] at hc
  rw [hslack, Option.none_or]
  cases hs : r.slackLine with
  | none => simpa [hs] using hc
  | some n =>
    cases hb : t.bound with
    | none => rfl
    | some c =>
      have hn : p n = false := by simpa [hs, Option.filter] using hc
      have hpc : p c = false := by
        by_contra hpc
        have hpn := hp _ _ (slackLine_le_bound ht hr hs hb) (by simpa using hpc)
        rw [hn] at hpn
        cases hpn
      simp [Option.filter, hpc]

end

/-- Cutting off lines takes away the path of a block exactly if it takes away its end. -/
theorem closedPath?_cut (ht : t.Ordered) {p : Nat → Bool}
    (hp : ∀ m n, m ≤ n → p n = true → p m = true) {r : BlockReading}
    (hr : t.read rules = .ok r) :
    (t.cut p).closedPath? rules through =
      (t.closedPath? rules through).filter fun c => p c.closing := by
  obtain ⟨r', hr', hall, hsome⟩ := Block.feedLines_takeWhile hr p
  have hcut : (t.cut p).read rules = .ok r' := hr'
  have hbound : (t.cut p).bound = t.bound.filter p := rfl
  simp only [closedPath?, hr, hcut, Except.toOption, Option.bind_some,
    BlockReading.closedPath?, hbound]
  cases hc : (r.slackLine.or t.bound).filter p with
  | some c =>
    obtain ⟨hc, hpc⟩ := Option.filter_eq_some_iff.mp hc
    obtain ⟨rfl, hclosing⟩ := closing_cut_of_kept ht hp hr hall hc hpc
    rw [hclosing, hc]
    split_ifs
    · simp [Option.filter, hpc]
    · rfl
  | none =>
    rw [closing_cut_of_cut ht hp hr hall hsome hc]
    have hnone : ((r.slackLine.or t.bound).map (ClosedPath.mk (r.block.finish through))).filter
        (fun c => p c.closing) = none := by
      cases hclosing : r.slackLine.or t.bound with
      | none => rfl
      | some c =>
        have hpc : p c = false := by simpa [hclosing, Option.filter] using hc
        simp [Option.filter, hpc]
    split_ifs
    · exact hnone.symm
    · rfl
    · exact hnone.symm
    · rfl

end BlockText

namespace ScanRange

/-- Whether a line does not come after the end of a range. -/
def reaches (range : ScanRange) (line : Nat) : Bool := range.stop.all (line ≤ ·)

theorem reaches_of_le (range : ScanRange) (m n : Nat) (hmn : m ≤ n)
    (hn : range.reaches n = true) : range.reaches m = true := by
  unfold reaches at hn ⊢
  cases hs : range.stop with
  | none => rfl
  | some stop =>
    simp only [hs, Option.all_some, decide_eq_true_eq] at hn ⊢
    omega

theorem bound_eq_filter (range : ScanRange) (file : SourceFile) :
    range.bound file = (some file.lineCount).filter range.reaches := by
  unfold bound reaches
  cases range.stop with
  | none => simp [Option.filter]
  | some stop => by_cases h : stop < file.lineCount <;> simp [Option.filter, h]

theorem whole_blocks (file : SourceFile) :
    whole.blocks file = BlockText.divide (some file.lineCount) (numbered 1 file.lines) := by
  have hall : (file.linesFrom 0).takeWhile (fun _ => true) = file.linesFrom 0 :=
    List.takeWhile_eq_self_iff.mpr fun _ _ => rfl
  have hlines : whole.lines file = numbered 1 file.lines := by
    unfold lines
    exact hall.trans (file.linesFrom_eq_numbered 0)
  have hbound : whole.bound file = some file.lineCount := rfl
  rw [blocks, hlines, hbound]

/-- The blocks of a range are those of the report that begin in it, less what comes after it. -/
theorem blocks_eq_map_cut (range : ScanRange) (file : SourceFile) :
    range.blocks file =
      ((whole.blocks file).filter fun t =>
        decide (max range.start 1 ≤ t.line) && range.reaches t.line).map
        (BlockText.cut range.reaches) := by
  have hfirst : 1 + (max range.start 1 - 1) = max range.start 1 := by omega
  have hdrop := BlockText.divide_numbered_drop (some file.lineCount) 1
    (max range.start 1 - 1) file.lines
  rw [hfirst] at hdrop
  unfold blocks
  rw [bound_eq_filter]
  have hlines : range.lines file =
      (numbered (max range.start 1) (file.lines.drop (max range.start 1 - 1))).takeWhile
        fun l => range.reaches l.1 := by
    rw [← SourceFile.linesFrom_eq_numbered]
    rfl
  rw [hlines, BlockText.divide_takeWhile range.reaches_of_le (pairwise_numbered _ _), hdrop,
    List.filter_filter, ← whole_blocks]
  · congr 2
    funext t
    rw [Bool.and_comm]
  · intro l hl
    obtain ⟨hle, hlt⟩ := le_and_lt_of_mem_numbered hl
    rw [List.length_drop, ← SourceFile.lineCount_eq_length] at hlt
    omega

theorem ordered_of_mem_whole_blocks {file : SourceFile} {t : BlockText}
    (ht : t ∈ whole.blocks file) : t.Ordered := by
  rw [whole_blocks] at ht
  refine BlockText.ordered_of_mem_divide (pairwise_numbered _ _) (fun c hc l hl => ?_) ht
  have hlt := (le_and_lt_of_mem_numbered hl).2
  rw [← SourceFile.lineCount_eq_length] at hlt
  obtain rfl : file.lineCount = c := by simpa using hc
  omega

end ScanRange

theorem BlockText.closedPath?_cut_eq_filter {rules : RuleSet} {through : List String}
    {t : BlockText} (ht : t.Ordered) (range : ScanRange) {r : BlockReading}
    (hr : t.read rules = .ok r) :
    (if (decide (max range.start 1 ≤ t.line) && range.reaches t.line) = true
      then (closedPath? rules through ∘ cut range.reaches) t else none) =
      (t.closedPath? rules through).filter fun c =>
        decide (max range.start 1 ≤ c.path.line) && range.reaches c.closing := by
  have hcut : (t.cut range.reaches).closedPath? rules through = _ :=
    closedPath?_cut ht range.reaches_of_le hr
  cases hc : t.closedPath? rules through with
  | none => simp [hcut, hc]
  | some c =>
    have hline := path_line_of_closedPath? hc
    have hclosing : t.line ≤ c.closing := by
      obtain ⟨r', hr', _, hclosing, _⟩ := closedPath?_eq_some_iff.mp hc
      exact line_le_closing ht hr' hclosing
    by_cases hstart : max range.start 1 ≤ t.line
    · by_cases hreach : range.reaches c.closing = true
      · have hline' := range.reaches_of_le _ _ hclosing hreach
        simp [hcut, hc, hline, hstart, hreach, hline', Option.filter]
      · simp [hcut, hc, hline, hstart, hreach, Option.filter]
    · simp [hline, hstart, Option.filter]

/-- The paths of a report in order, each with the line that closes it. -/
def SourceFile.closedPaths (rules : RuleSet) (through : List String) (file : SourceFile) :
    List ClosedPath :=
  (ScanRange.whole.blocks file).filterMap (·.closedPath? rules through)

theorem Scan.ofRange_of_reads {rules : RuleSet} (through : List String) {file : SourceFile}
    {range : ScanRange} (h : ∀ t ∈ range.blocks file, ∃ r, t.read rules = .ok r) :
    ∃ found, ofRange rules through file range = .ok found ∧ found.paths =
      (atMost range.count
        ((range.blocks file).filterMap (·.closedPath? rules through))).map (·.path) := by
  obtain ⟨harvest, hgather, hpaths⟩ := Harvest.gather_of_reads through range.count h
  have hscan := ofRange_eq_gather rules through file range
  rw [hgather] at hscan
  cases hr : ofRange rules through file range with
  | error e => simp [hr, Except.map] at hscan
  | ok found =>
    simp only [hr, Except.map, Except.ok.injEq, Prod.mk.injEq] at hscan
    exact ⟨found, rfl, by rw [hscan.1, hpaths]⟩

theorem Scan.reads_of_ofRange_whole {rules : RuleSet} {through : List String} {file : SourceFile}
    {found : Scan} (h : ofRange rules through file .whole = .ok found) :
    ∀ t ∈ ScanRange.whole.blocks file, ∃ r, t.read rules = .ok r := by
  obtain ⟨harvest, hg, -⟩ := exists_gather_of_ofRange h
  exact Harvest.reads_of_gather hg

/-- A report of two paths, the second one without a slack. -/
def twoPaths : SourceFile :=
  .ofText ⟨0⟩ "two_paths" ("Startpoint: a\na/CK (DFF) 1 1\nb/D (DFF) 2 3\ndata arrival time 3\n" ++
    "slack 4\nStartpoint: c\ndata arrival time 2\n")

theorem Scan.exists_ofRange_twoPaths :
    ∃ whole, ofRange {} [] twoPaths .whole = .ok whole ∧ whole.paths.map (·.line) = [1, 6] := by
  have hlines : (ofRange {} [] twoPaths .whole).toOption.map (·.paths.map (·.line)) =
      some [1, 6] := by
    rw [twoPaths, SourceFile.ofText_append rfl rfl]
    decide +kernel
  generalize ofRange {} [] twoPaths .whole = result at hlines ⊢
  cases result with
  | error e => cases hlines
  | ok whole => exact ⟨whole, rfl, Option.some.inj hlines⟩

/-- A range gives the paths of the whole report that begin at its start or later and are closed at
its end or before, up to the number of paths that are wanted. -/
theorem Scan.ofRange_selects_closedPaths (rules : RuleSet) (through : List String)
    (file : SourceFile) (range : ScanRange) {whole : Scan}
    (h : ofRange rules through file .whole = .ok whole) :
    whole.paths = (file.closedPaths rules through).map (·.path) ∧
      ∃ found, ofRange rules through file range = .ok found ∧ found.paths =
        (atMost range.count ((file.closedPaths rules through).filter fun c =>
          decide (max range.start 1 ≤ c.path.line) && range.reaches c.closing)).map (·.path) := by
  have hreads := reads_of_ofRange_whole h
  obtain ⟨whole', hwhole, hpaths⟩ := ofRange_of_reads through hreads
  obtain rfl : whole = whole' := Except.ok.inj (h.symm.trans hwhole)
  refine ⟨hpaths, ?_⟩
  have hrange : ∀ t ∈ range.blocks file, ∃ r, t.read rules = .ok r := by
    intro t ht
    rw [ScanRange.blocks_eq_map_cut] at ht
    obtain ⟨u, hu, rfl⟩ := List.mem_map.mp ht
    obtain ⟨r, hr⟩ := hreads u (List.mem_of_mem_filter hu)
    obtain ⟨r', hr', _⟩ := Block.feedLines_takeWhile hr range.reaches
    exact ⟨r', hr'⟩
  obtain ⟨found, hfound, hselected⟩ := ofRange_of_reads through hrange
  refine ⟨found, hfound, ?_⟩
  rw [hselected]
  congr 2
  rw [ScanRange.blocks_eq_map_cut, SourceFile.closedPaths, List.filterMap_map,
    List.filterMap_filter, List.filter_filterMap]
  refine List.filterMap_congr fun t ht => ?_
  obtain ⟨r, hr⟩ := hreads t ht
  exact BlockText.closedPath?_cut_eq_filter (ScanRange.ordered_of_mem_whole_blocks ht)
    range hr

theorem Scan.ofRange_selects_closedPaths_twoPaths :
    ∃ whole found, ofRange {} [] twoPaths .whole = .ok whole ∧
      whole.paths.map (·.line) = [1, 6] ∧
      ofRange {} [] twoPaths ⟨2, some 7, some 1⟩ = .ok found ∧
      found.paths = (((twoPaths.closedPaths {} []).filter fun c =>
        decide (2 ≤ c.path.line) && decide (c.closing ≤ 7)).take 1).map (·.path) := by
  obtain ⟨whole, hwhole, hlines⟩ := exists_ofRange_twoPaths
  obtain ⟨-, found, hfound, hpaths⟩ :=
    ofRange_selects_closedPaths {} [] twoPaths ⟨2, some 7, some 1⟩ hwhole
  exact ⟨whole, found, hwhole, hlines, hfound, hpaths⟩

end PathTiming
