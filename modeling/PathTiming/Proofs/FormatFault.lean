import PathTiming.Proofs.BlockIndependence
import PathTiming.Proofs.ParsedPath

/-! Where a scan fails. It fails at the first line that cannot be read, whatever comes behind it. -/
namespace PathTiming

structure FaultsAt {α : Type} (line : Nat) (x : Except FormatError α) : Prop where
  line_of_error : ∀ e, x = .error e → e.line = line

namespace FaultsAt

section
variable {α β : Type} {line : Nat}

theorem ok (a : α) : FaultsAt line (.ok a) := ⟨fun _ he => by cases he⟩

theorem error (fault : RowFault) :
    FaultsAt line (.error ⟨line, fault⟩ : Except FormatError α) :=
  ⟨fun _ he => by cases he; rfl⟩

theorem bind {x : Except FormatError α} {f : α → Except FormatError β} (hx : FaultsAt line x)
    (hf : ∀ a, FaultsAt line (f a)) : FaultsAt line (x >>= f) := by
  cases x with
  | error e =>
    constructor
    intro e' he
    cases he
    exact hx.line_of_error e rfl
  | ok a => exact hf a

theorem map {x : Except FormatError α} (hx : FaultsAt line x) (f : α → β) :
    FaultsAt line (x.map f) := by
  cases x with
  | error e =>
    constructor
    intro e' he
    cases he
    exact hx.line_of_error e rfl
  | ok a => exact ok (f a)

theorem mapM {f : α → Except FormatError β} (hf : ∀ a, FaultsAt line (f a)) (as : List α) :
    FaultsAt line (as.mapM f) := by
  induction as with
  | nil => exact ok []
  | cons a as ih =>
    rw [List.mapM_cons]
    exact (hf a).bind fun b => ih.bind fun bs => ok (b :: bs)

end

/-! ### The parts of a row -/

section
variable (line : Nat)

theorem readNumber (word : List Char) : FaultsAt line (PathTiming.readNumber line word) := by
  unfold PathTiming.readNumber
  split
  · exact ok _
  · exact error _

theorem rowValues (rest : List Char) : FaultsAt line (PathTiming.rowValues line rest) :=
  mapM (readNumber line) _

theorem delayAndTime (what : String) (rest : List Char) :
    FaultsAt line (PathTiming.delayAndTime line what rest) := by
  refine (rowValues line rest).bind fun values => ?_
  split
  · exact error _
  · exact ok _
  · exact ok _

theorem delayOf (what : String) (rest : List Char) :
    FaultsAt line (PathTiming.delayOf line what rest) :=
  (delayAndTime line what rest).map _

theorem timeOf (what : String) (rest : List Char) :
    FaultsAt line (PathTiming.timeOf line what rest) :=
  (delayAndTime line what rest).map _

theorem readTokens (fuel : Nat) (isFirst : Bool) (row : PinRow) (tokens : List Text.Token) :
    FaultsAt line (PinRow.readTokens line fuel isFirst row tokens) := by
  induction fuel generalizing isFirst row tokens with
  | zero => exact ok _
  | succ fuel ih =>
    cases tokens with
    | nil => exact ok _
    | cons t rest =>
      unfold PinRow.readTokens
      split_ifs
      · split
        · exact ok _
        · exact ih ..
      · exact (readNumber line t.text).bind fun value => ih ..
      · exact ih ..

theorem pinRow (text : List Char) : FaultsAt line (PinRow.ofLine? line text) := by
  unfold PinRow.ofLine?
  split
  · split_ifs
    · exact readTokens ..
    · exact ok _
  · exact ok _

end

/-! ### The lines of a block -/

section
variable (rules : RuleSet) (b : Block) (line : Nat)

theorem readLabelled (kind : RowKind) (rest : List Char) :
    FaultsAt line (b.readLabelled line kind rest) := by
  unfold Block.readLabelled
  cases kind with
  | sourceLatency => exact (delayAndTime ..).bind fun _ => by dsimp only; split_ifs <;> exact ok _
  | networkDelay => exact (timeOf ..).bind fun _ => by split_ifs <;> exact ok _
  | arrival | required | slack =>
    dsimp only
    split_ifs
    · exact (timeOf ..).bind fun _ => ok _
    · exact ok _
  | _ => exact (delayOf ..).bind fun _ => ok _

theorem pinOf (row : PinRow) : FaultsAt line (b.pinOf line row) := by
  unfold Block.pinOf
  dsimp only
  split
  · exact error _
  · exact ok _

theorem readPin (row : PinRow) : FaultsAt line (Block.readPin rules b line row) := by
  rw [Block.readPin_eq]
  split_ifs
  · exact ok _
  · exact (pinOf b line row).bind fun p => ok _
  · exact (pinOf b line row).bind fun p => ok _

theorem readTableLine (text : List Char) : FaultsAt line (b.readTableLine rules line text) := by
  unfold Block.readTableLine
  split
  · exact (timeOf ..).bind fun _ => ok _
  · exact readLabelled ..
  · refine (pinRow line text).bind fun row? => ?_
    split
    · exact ok _
    · exact (readPin ..).bind fun _ => ok _

theorem readSummaryLine (text : List Char) : FaultsAt line (b.readSummaryLine line text) := by
  unfold Block.readSummaryLine
  split
  · exact (timeOf ..).bind fun _ => ok _
  · exact ok _

/-- A line that cannot be read is the one to blame. -/
theorem feed (text : List Char) : FaultsAt line (b.feed rules line text) := by
  unfold Block.feed
  dsimp only
  split
  · exact ok _
  · split
    · exact ok _
    · split_ifs
      · exact ok _
      · exact readSummaryLine ..
      · exact readTableLine ..

end

end FaultsAt

theorem error_of_map {ε α β : Type} {x : Except ε α} {f : α → β} {e : ε}
    (h : x.map f = .error e) : x = .error e := by
  match x, h with
  | .error _, h => exact congrArg Except.error (Except.error.inj h)

/-! ### The first line that cannot be read -/

/-- The lines of a block up to one that cannot be read do not end it. -/
theorem Block.exists_fault_of_feedLines {rules : RuleSet} {b : Block}
    {lines : List (Nat × String)} {e : FormatError} (h : b.feedLines rules lines = .error e) :
    ∃ before text after r, lines = before ++ (e.line, text) :: after ∧
      b.feedLines rules before = .ok r ∧ r.slackLine = none ∧
      r.block.feed rules e.line text.toList = .error e := by
  induction lines generalizing b with
  | nil => cases h
  | cons l rest ih =>
    simp only [feedLines] at h
    cases hf : b.feed rules l.1 l.2.toList with
    | error e' =>
      rw [hf] at h
      cases h
      have hline := (FaultsAt.feed rules b l.1 l.2.toList).line_of_error e hf
      refine ⟨[], l.2, rest, { block := b }, ?_, rfl, rfl, ?_⟩
      · rw [hline]
        rfl
      · rw [hline]
        exact hf
    | ok fed =>
      obtain ⟨b', atEnd⟩ := fed
      rw [hf] at h
      cases atEnd with
      | true => cases h
      | false =>
        obtain ⟨before, text, after, r, rfl, hread, hslack, hfault⟩ := ih (error_of_map h)
        refine ⟨(l.1, l.2) :: before, text, after, { r with fed := l :: r.fed }, rfl, ?_, hslack,
          hfault⟩
        simp only [feedLines, hf, hread, Except.map]

theorem Harvest.exists_error_of_gather {rules : RuleSet} {through : List String}
    {limit : Option Nat} {ts : List BlockText} {e : FormatError}
    (h : gather rules through limit ts = .error e) : ∃ t ∈ ts, t.read rules = .error e := by
  induction ts generalizing limit with
  | nil => cases h
  | cons t rest ih =>
    unfold gather at h
    split_ifs at h
    cases hr : t.read rules with
    | error e' =>
      rw [hr] at h
      cases h
      exact ⟨t, List.mem_cons_self, hr⟩
    | ok r =>
      rw [hr] at h
      obtain ⟨u, hu, herror⟩ := ih (error_of_map h)
      exact ⟨u, List.mem_cons_of_mem t hu, herror⟩

/-- Whatever lines follow, one line leads to another scan, or ends the scan, or cannot be read. -/
theorem Scan.readLines_cons_cases (rules : RuleSet) (through : List String) (limit : Option Nat)
    (s : Scan) (l : Nat × String) :
    (∃ s', ∀ more, readLines rules through limit s (l :: more) =
      readLines rules through limit s' more) ∨
    (∃ s', ∀ more, readLines rules through limit s (l :: more) = .ok s') ∨
    ∃ e, e.line = l.1 ∧ ∀ more, readLines rules through limit s (l :: more) = .error e := by
  obtain ⟨line, text⟩ := l
  cases hstart : ReportHeader.startpoint? text.toList with
  | some startpoint =>
    cases hfull : (s.close through).isFull limit with
    | true =>
      refine .inr (.inl ⟨s.close through, fun more => ?_⟩)
      simp only [readLines, hstart, hfull, if_true]
    | false =>
      refine .inl ⟨{ s.close through with current := some (.start line startpoint) },
        fun more => ?_⟩
      simp only [readLines, hstart, hfull, Bool.false_eq_true, if_false]
  | none =>
    cases hcurrent : s.current with
    | none => exact .inl ⟨s, fun more => by simp only [readLines, hstart, hcurrent]⟩
    | some b =>
      cases hf : b.feed rules line text.toList with
      | error e =>
        exact .inr (.inr ⟨e, (FaultsAt.feed rules b line text.toList).line_of_error e hf,
          fun more => by simp only [readLines, hstart, hcurrent, hf]⟩)
      | ok fed =>
        obtain ⟨b', atEnd⟩ := fed
        let columns := (Block.newColumns text.toList).foldl EnumSet.insert s.columns
        cases atEnd with
        | false =>
          refine .inl ⟨{ s with current := some b', columns }, fun more => ?_⟩
          simp only [readLines, hstart, hcurrent, hf, Bool.false_eq_true, if_false]
          rfl
        | true =>
          let closed : Scan :=
            { paths := s.paths ++ [b'.finish through], current := none, columns }
          cases hfull : closed.isFull limit with
          | true =>
            refine .inr (.inl ⟨closed, fun more => ?_⟩)
            simp only [readLines, hstart, hcurrent, hf, if_true]
            exact if_pos hfull
          | false =>
            refine .inl ⟨closed, fun more => ?_⟩
            simp only [readLines, hstart, hcurrent, hf, if_true]
            exact if_neg (by rw [Bool.not_eq_true]; exact hfull)

/-- Lines that cannot be read fail at one of them. The lines before it can be read, and the lines
after it do not matter. -/
theorem Scan.exists_fault_of_readLines {rules : RuleSet} {through : List String}
    {limit : Option Nat} {s : Scan} {lines : List (Nat × String)} {e : FormatError}
    (h : readLines rules through limit s lines = .error e) :
    ∃ before text after, lines = before ++ (e.line, text) :: after ∧
      (∃ s', readLines rules through limit s before = .ok s') ∧
      ∀ more, readLines rules through limit s (before ++ (e.line, text) :: more) = .error e := by
  induction lines generalizing s with
  | nil => cases h
  | cons l rest ih =>
    obtain ⟨s₁, hnext⟩ | ⟨s₁, hend⟩ | ⟨e', hline, hfault⟩ :=
      readLines_cons_cases rules through limit s l
    · obtain ⟨before, text, after, rfl, ⟨s', hread⟩, hfault⟩ := ih ((hnext rest).symm.trans h)
      exact ⟨l :: before, text, after, rfl, ⟨s', (hnext before).trans hread⟩,
        fun more => (hnext _).trans (hfault more)⟩
    · cases (hend rest).symm.trans h
    · obtain rfl : e' = e := Except.error.inj ((hfault rest).symm.trans h)
      obtain ⟨line, text⟩ := l
      obtain rfl : e'.line = line := hline
      exact ⟨[], text, rest, rfl, ⟨s, rfl⟩, hfault⟩

/-! ### The lines up to a place -/

def SameUpTo (n : Nat) (file file' : SourceFile) : Prop := ∀ k ≤ n, file'.line? k = file.line? k

theorem SourceFile.le_lineCount_of_line? {file : SourceFile} {n : Nat} {text : String}
    (h : file.line? n = some text) : 0 < n ∧ n ≤ file.lineCount := by
  by_contra hn
  unfold line? at h
  rw [if_pos (by omega)] at h
  cases h

theorem SourceFile.mem_linesFrom {file : SourceFile} {first : Nat} {l : Nat × String} :
    l ∈ file.linesFrom first ↔ max first 1 ≤ l.1 ∧ file.line? l.1 = some l.2 := by
  unfold linesFrom
  dsimp only
  rw [List.mem_filterMap]
  constructor
  · rintro ⟨k, hk, hline⟩
    obtain ⟨text, htext, rfl⟩ := Option.map_eq_some_iff.mp hline
    exact ⟨(List.mem_range'_1.mp hk).1, htext⟩
  · rintro ⟨hle, htext⟩
    have hcount := (le_lineCount_of_line? htext).2
    exact ⟨l.1, List.mem_range'_1.mpr (by omega), by rw [htext]; rfl⟩

theorem takeWhile_le_eq_nil {n : Nat} {lines : List (Nat × String)} (h : ∀ l ∈ lines, n < l.1) :
    lines.takeWhile (fun l => l.1 ≤ n) = [] := by
  cases lines with
  | nil => rfl
  | cons l rest =>
    have hl := h l List.mem_cons_self
    exact List.takeWhile_cons_of_neg (by simpa using hl)

/-- The lines up to a place, told by their numbers alone. -/
theorem SourceFile.takeWhile_linesFrom (file : SourceFile) (first : Nat) {n : Nat}
    (hn : n ≤ file.lineCount) :
    (file.linesFrom first).takeWhile (fun l => l.1 ≤ n) =
      (List.range' (max first 1) (n + 1 - max first 1)).filterMap
        fun k => (file.line? k).map (k, ·) := by
  have hnumber : ∀ (start size : Nat), ∀ l ∈ (List.range' start size).filterMap
      (fun k => (file.line? k).map (k, ·)), start ≤ l.1 ∧ l.1 < start + size := by
    intro start size l hl
    obtain ⟨k, hk, hline⟩ := List.mem_filterMap.mp hl
    obtain ⟨text, -, rfl⟩ := Option.map_eq_some_iff.mp hline
    exact List.mem_range'_1.mp hk
  have hsize : file.lineCount + 1 - max first 1 = (n + 1 - max first 1) +
      (file.lineCount + 1 - max first 1 - (n + 1 - max first 1)) := by omega
  unfold linesFrom
  dsimp only
  rw [hsize, ← List.range'_append_1, List.filterMap_append, List.takeWhile_append_of_pos,
    takeWhile_le_eq_nil, List.append_nil]
  · intro l hl
    have hl := hnumber _ _ l hl
    omega
  · intro l hl
    have hl := hnumber _ _ l hl
    simp only [decide_eq_true_eq]
    omega

theorem SameUpTo.takeWhile_linesFrom {n : Nat} {file file' : SourceFile}
    (h : SameUpTo n file file') (hn : n ≤ file.lineCount) (hn' : n ≤ file'.lineCount)
    (first : Nat) :
    (file'.linesFrom first).takeWhile (fun l => l.1 ≤ n) =
      (file.linesFrom first).takeWhile (fun l => l.1 ≤ n) := by
  rw [SourceFile.takeWhile_linesFrom _ _ hn, SourceFile.takeWhile_linesFrom _ _ hn']
  refine List.filterMap_congr fun k hk => ?_
  have hk := List.mem_range'_1.mp hk
  rw [h k (by omega)]

/-- Up to a line that it reaches, a range has the lines of the report. -/
theorem ScanRange.takeWhile_lines {range : ScanRange} (file : SourceFile) {n : Nat}
    (h : range.reaches n = true) :
    (range.lines file).takeWhile (fun l => l.1 ≤ n) =
      (file.linesFrom range.start).takeWhile (fun l => l.1 ≤ n) := by
  unfold lines
  rw [List.takeWhile_takeWhile]
  congr 1
  funext l
  by_cases hl : l.1 ≤ n
  · have hreach := range.reaches_of_le l.1 n hl h
    unfold reaches at hreach
    simp [hl, hreach]
  · simp [hl]

theorem SourceFile.pairwise_linesFrom (file : SourceFile) (first : Nat) :
    (file.linesFrom first).Pairwise (·.1 < ·.1) := by
  rw [linesFrom_eq_numbered]
  exact pairwise_numbered _ _

/-- Numbered lines up to one of them end with it. -/
theorem takeWhile_le_of_pairwise {before after : List (Nat × String)} {l : Nat × String}
    (h : (before ++ l :: after).Pairwise (·.1 < ·.1)) :
    (before ++ l :: after).takeWhile (fun x => x.1 ≤ l.1) = before ++ [l] := by
  obtain ⟨-, hafter, hbefore⟩ := List.pairwise_append.mp h
  rw [List.takeWhile_append_of_pos, List.takeWhile_cons_of_pos, takeWhile_le_eq_nil]
  · exact (List.pairwise_cons.mp hafter).1
  · simp
  · intro x hx
    simpa using Nat.le_of_lt (hbefore x hx l List.mem_cons_self)

theorem mem_takeWhile_le_of_pairwise {n : Nat} {lines : List (Nat × String)} {l : Nat × String}
    (h : lines.Pairwise (·.1 < ·.1)) (hl : l ∈ lines) (hle : l.1 ≤ n) :
    l ∈ lines.takeWhile (fun x => x.1 ≤ n) := by
  obtain ⟨before, after, rfl⟩ := List.append_of_mem hl
  obtain ⟨-, -, hbefore⟩ := List.pairwise_append.mp h
  rw [List.takeWhile_append_of_pos, List.takeWhile_cons_of_pos (by simpa using hle)]
  · exact List.mem_append_right _ List.mem_cons_self
  · intro x hx
    have hlt := hbefore x hx l List.mem_cons_self
    simp only [decide_eq_true_eq]
    omega

theorem takeWhile_append_of_mem {α : Type} {p : α → Bool} {as bs : List α} {a : α} (ha : a ∈ as)
    (hp : p a = false) : (as ++ bs).takeWhile p = as.takeWhile p := by
  rw [List.takeWhile_append, if_neg]
  intro hlength
  have hall : as.takeWhile p = as := (List.takeWhile_prefix p).eq_of_length hlength
  rw [← hall] at ha
  rw [List.mem_takeWhile_imp ha] at hp
  cases hp

/-- What comes before the first path does not change with what comes after it. -/
theorem Report.header_congr {n : Nat} {file file' : SourceFile} (h : SameUpTo n file file')
    (hn : n ≤ file.lineCount) (hn' : n ≤ file'.lineCount) {l : Nat × String}
    (hl : l ∈ file.linesFrom 1) (hle : l.1 ≤ n) (hstart : isStart l = true) :
    header file' = header file := by
  -- the head ends among the lines that both texts have
  have hhead : ∀ f : SourceFile, (f.linesFrom 1).takeWhile (fun l => l.1 ≤ n) =
      (file.linesFrom 1).takeWhile (fun l => l.1 ≤ n) →
      header f = .ofLines (((file.linesFrom 1).takeWhile (fun l => l.1 ≤ n)).map (·.2)) := by
    intro f hf
    have hmem : l ∈ (file.linesFrom 1).takeWhile (fun l => l.1 ≤ n) :=
      mem_takeWhile_le_of_pairwise (SourceFile.pairwise_linesFrom file 1) hl hle
    rw [header, ← List.takeWhile_append_dropWhile (p := fun l => l.1 ≤ n) (l := f.linesFrom 1), hf,
      List.map_append, ReportHeader.ofLines, ReportHeader.ofLines,
      takeWhile_append_of_mem (List.mem_map_of_mem hmem)]
    rw [Option.isNone_eq_false_iff]
    exact hstart
  rw [hhead file' (h.takeWhile_linesFrom hn hn' 1), hhead file rfl]

namespace Scan

section
variable {rules : RuleSet} {through : List String} {file : SourceFile} {range : ScanRange}
  {e : FormatError}

theorem count_ne_of_ofRange_error (h : ofRange rules through file range = .error e) :
    range.count ≠ some 0 := by
  intro hz
  rw [ofRange, if_pos hz] at h
  cases h

theorem ofRange_eq_error_iff (hz : range.count ≠ some 0) :
    ofRange rules through file range = .error e ↔
      readLines rules through range.count {} (range.lines file) = .error e := by
  have h := ofRange_eq_readLines rules through file hz
  constructor
  · intro he
    rw [he] at h
    exact error_of_map h.symm
  · intro he
    rw [he] at h
    exact error_of_map h

end

/-- The lines from a first one on can be read up to a certain line. At this line they cannot,
whatever comes after it. -/
structure FailsAfter (rules : RuleSet) (through : List String) (limit : Option Nat)
    (file : SourceFile) (first : Nat) (before : List (Nat × String)) (text : String)
    (e : FormatError) : Prop where
  lines : (file.linesFrom first).takeWhile (fun l => l.1 ≤ e.line) = before ++ [(e.line, text)]
  read : ∃ s, readLines rules through limit {} before = .ok s
  fault : ∀ more, readLines rules through limit {} (before ++ (e.line, text) :: more) = .error e

theorem exists_failsAfter {rules : RuleSet} {through : List String} {file : SourceFile}
    {range : ScanRange} {e : FormatError} (h : ofRange rules through file range = .error e) :
    range.reaches e.line = true ∧ ∃ before text,
      FailsAfter rules through range.count file range.start before text e := by
  have hread := (ofRange_eq_error_iff (count_ne_of_ofRange_error h)).mp h
  obtain ⟨before, text, after, hlines, hbefore, hfault⟩ := exists_fault_of_readLines hread
  have hsorted : (range.lines file).Pairwise (·.1 < ·.1) :=
    (file.pairwise_linesFrom range.start).sublist (List.takeWhile_sublist _)
  have hmem : (e.line, text) ∈ range.lines file := by
    rw [hlines]
    exact List.mem_append_right _ List.mem_cons_self
  have hreach := List.mem_takeWhile_imp hmem
  refine ⟨hreach, before, text, ?_, hbefore, hfault⟩
  rw [← ScanRange.takeWhile_lines file hreach]
  rw [hlines] at hsorted ⊢
  exact takeWhile_le_of_pairwise hsorted

namespace FailsAfter

section
variable {rules : RuleSet} {through : List String} {limit : Option Nat} {file : SourceFile}
  {first : Nat} {before : List (Nat × String)} {text : String} {e : FormatError}
  (h : FailsAfter rules through limit file first before text e)
include h

theorem mem_linesFrom : (e.line, text) ∈ file.linesFrom first := by
  refine (List.takeWhile_sublist (fun l => l.1 ≤ e.line)).subset ?_
  rw [h.lines]
  exact List.mem_append_right _ (List.mem_singleton_self _)

theorem lt_of_mem {l : Nat × String} (hl : l ∈ before) : l.1 < e.line := by
  have hsorted := (file.pairwise_linesFrom first).sublist
    (List.takeWhile_sublist fun l => l.1 ≤ e.line)
  rw [h.lines, List.pairwise_append] at hsorted
  exact hsorted.2.2 l hl (e.line, text) (List.mem_singleton_self _)

/-- A range that reaches the line fails at it. -/
theorem ofRange_eq_error (hz : limit ≠ some 0) {range : ScanRange} (hstart : range.start = first)
    (hcount : range.count = limit) (hreach : range.reaches e.line = true) :
    ofRange rules through file range = .error e := by
  subst hstart hcount
  have hlines := ScanRange.takeWhile_lines file hreach
  rw [h.lines] at hlines
  rw [ofRange_eq_error_iff hz,
    ← List.takeWhile_append_dropWhile (p := fun l => l.1 ≤ e.line) (l := range.lines file), hlines,
    List.append_assoc]
  exact h.fault _

/-- A range that ends just before the line does not fail. -/
theorem exists_ofRange_eq_ok (hz : limit ≠ some 0) :
    ∃ s, ofRange rules through file ⟨first, some (e.line - 1), limit⟩ = .ok s := by
  have hline := (SourceFile.mem_linesFrom.mp h.mem_linesFrom).1
  have hlines : ScanRange.lines ⟨first, some (e.line - 1), limit⟩ file = before := by
    calc (file.linesFrom first).takeWhile (fun l => l.1 ≤ e.line - 1)
        = ((file.linesFrom first).takeWhile fun l => l.1 ≤ e.line).takeWhile
            fun l => l.1 ≤ e.line - 1 := by
          rw [List.takeWhile_takeWhile]
          congr 1
          funext l
          exact decide_eq_decide.mpr (by simp; omega)
      _ = (before ++ [(e.line, text)]).takeWhile fun l => l.1 ≤ e.line - 1 := by rw [h.lines]
      _ = before := by
          rw [List.takeWhile_append_of_pos, takeWhile_le_eq_nil, List.append_nil]
          · intro l hl
            rw [List.mem_singleton.mp hl]
            omega
          · intro l hl
            have hlt := h.lt_of_mem hl
            simp only [decide_eq_true_eq]
            omega
  cases hs : ofRange rules through file ⟨first, some (e.line - 1), limit⟩ with
  | ok s => exact ⟨s, rfl⟩
  | error e' =>
    obtain ⟨s, hread⟩ := h.read
    rw [ofRange_eq_error_iff hz, hlines, hread] at hs
    cases hs

theorem of_sameUpTo {file' : SourceFile} (hsame : SameUpTo e.line file file') :
    FailsAfter rules through limit file' first before text e := by
  have htext := (SourceFile.mem_linesFrom.mp h.mem_linesFrom).2
  refine ⟨?_, h.read, h.fault⟩
  rw [hsame.takeWhile_linesFrom (SourceFile.le_lineCount_of_line? htext).2
    (SourceFile.le_lineCount_of_line? ((hsame e.line (Nat.le_refl _)).trans htext)).2, h.lines]

end

end FailsAfter

/-- A scan that fails does so in a block that begins in the range and is not at its end. -/
theorem exists_block_of_ofRange_error {rules : RuleSet} {through : List String} {file : SourceFile}
    {range : ScanRange} {e : FormatError} (h : ofRange rules through file range = .error e) :
    ∃ t ∈ range.blocks file, max range.start 1 ≤ t.line ∧ t.line < e.line ∧
      ∃ before text after reading, t.body = before ++ (e.line, text) :: after ∧
        (Block.start t.line t.startpoint).feedLines rules before = .ok reading ∧
        reading.slackLine = none ∧ reading.block.feed rules e.line text.toList = .error e := by
  have hgather := ofRange_eq_gather rules through file range
  rw [h] at hgather
  obtain ⟨t, ht, herror⟩ := Harvest.exists_error_of_gather (error_of_map hgather.symm)
  obtain ⟨before, text, after, reading, hbody, hread⟩ := Block.exists_fault_of_feedLines herror
  have hmem : (e.line, text) ∈ t.body := by
    rw [hbody]
    exact List.mem_append_right _ List.mem_cons_self
  have hbegin : (t.line, t.text) ∈ range.lines file :=
    BlockText.subset_of_mem_divide ht List.mem_cons_self
  have hstart := SourceFile.mem_linesFrom.mp ((List.takeWhile_sublist _).subset hbegin)
  exact ⟨t, ht, hstart.1, ((ScanRange.body_of_mem_blocks ht).2 _ hmem).1, before, text, after,
    reading, hbody, hread⟩

end Scan

namespace Report

/-- A scan fails at a line of a block that begins in the range. Up to this line the report can be
read: the scan does not fail if the range ends before it. The line is to blame whatever comes after
it, and wherever the range ends behind it. -/
theorem fault_of_scan {r : Report} {file : SourceFile} {range : ScanRange} {e : FormatError}
    (h : r.scan file range = .error e) :
    max range.start 1 ≤ e.line ∧ e.line ≤ file.lineCount ∧ range.reaches e.line = true ∧
    (∃ t ∈ range.blocks file, max range.start 1 ≤ t.line ∧ t.line < e.line ∧
      ∃ before text after reading, t.body = before ++ (e.line, text) :: after ∧
        (Block.start t.line t.startpoint).feedLines r.rules before = .ok reading ∧
        reading.slackLine = none ∧
        reading.block.feed r.rules e.line text.toList = .error e) ∧
    (∃ s, r.scan file { range with stop := some (e.line - 1) } = .ok s) ∧
    ∀ (file' : SourceFile) (range' : ScanRange), SameUpTo e.line file file' →
      range'.start = range.start → range'.count = range.count →
      range'.reaches e.line = true → r.scan file' range' = .error e := by
  have hz := Scan.count_ne_of_ofRange_error h
  obtain ⟨hreach, before, text, hfails⟩ := Scan.exists_failsAfter h
  obtain ⟨hfirst, htext⟩ := SourceFile.mem_linesFrom.mp hfails.mem_linesFrom
  have hcount := (SourceFile.le_lineCount_of_line? htext).2
  have hblock := Scan.exists_block_of_ofRange_error h
  refine ⟨hfirst, hcount, hreach, hblock, hfails.exists_ofRange_eq_ok hz,
    fun file' range' hsame hstart' hcount' hreach' => ?_⟩
  obtain ⟨t, ht, -, hlt, -⟩ := hblock
  have hbegin : (t.line, t.text) ∈ file.linesFrom range.start :=
    (List.takeWhile_sublist _).subset (BlockText.subset_of_mem_divide ht List.mem_cons_self)
  obtain ⟨hge, hstartText⟩ := SourceFile.mem_linesFrom.mp hbegin
  have hheader : header file' = header file := by
    refine header_congr hsame hcount ?_ (l := (t.line, t.text)) ?_ (Nat.le_of_lt hlt) ?_
    · exact (SourceFile.le_lineCount_of_line? ((hsame e.line (Nat.le_refl _)).trans htext)).2
    · exact SourceFile.mem_linesFrom.mpr ⟨by omega, hstartText⟩
    · rw [isStart, (BlockText.startpoint_of_mem_divide ht).1]
      rfl
  rw [scan, hheader]
  exact (hfails.of_sameUpTo hsame).ofRange_eq_error hz hstart' hcount' hreach'

/-- A report with a word that begins like a number and is none. -/
def faultyRow : SourceFile :=
  .ofText ⟨0⟩ "faulty_row"
    "Startpoint: ff1\nclk (in) 0\nff1/CK (DFFX1) 1x\ndata arrival time 3\n"

theorem fault_of_scan_faultyRow :
    ({ rules := {} } : Report).scan faultyRow .whole = .error ⟨3, .badNumber "1x"⟩ ∧
      (∃ s, ({ rules := {} } : Report).scan faultyRow { start := 0, stop := some 2 } = .ok s) ∧
      ∀ file', SameUpTo 3 faultyRow file' →
        ({ rules := {} } : Report).scan file' .whole = .error ⟨3, .badNumber "1x"⟩ := by
  have hfault : (({ rules := {} } : Report).scan faultyRow .whole).map (fun _ => ()) =
      .error ⟨3, .badNumber "1x"⟩ := by
    rw [faultyRow, SourceFile.ofText_literal rfl]
    decide +kernel
  have hscan := error_of_map hfault
  obtain ⟨-, -, -, -, hcut, hsame⟩ := fault_of_scan hscan
  exact ⟨hscan, hcut, fun file' h => hsame file' .whole h rfl rfl rfl⟩

end Report

end PathTiming
