import PathTiming.Proofs.LineShift
import PathTiming.Proofs.RangeSelection

/-! Nothing that stands in one block of a report matters for the path of another. -/
namespace PathTiming

namespace Block

/-- Reading more lines goes on where the reading stopped, unless it is at an end. -/
theorem feedLines_append {rules : RuleSet} {b : Block} {lines : List (Nat × String)}
    {r : BlockReading} (h : b.feedLines rules lines = .ok r) (later : List (Nat × String)) :
    b.feedLines rules (lines ++ later) =
      if r.slackLine.isSome then .ok r
      else (r.block.feedLines rules later).map fun r' => { r' with fed := r.fed ++ r'.fed } := by
  induction lines generalizing b r with
  | nil =>
    cases h
    cases hl : b.feedLines rules later with
    | error e => simp [hl, Except.map]
    | ok r' => simp [hl, Except.map]
  | cons l rest ih =>
    obtain ⟨b', hf, rfl⟩ | ⟨b', r', hf, hr, rfl⟩ := feedLines_cons_eq_ok h
    · simp [feedLines, hf]
    · simp only [List.cons_append, feedLines, hf, ih hr]
      by_cases hs : r'.slackLine.isSome
      · simp [hs, Except.map]
      · rw [if_neg hs, if_neg hs]
        cases r'.block.feedLines rules later <;> rfl

/-- The launch side is closed by a row that holds the data arrival time. -/
def ReadsArrival (rules : RuleSet) (b : Block) (lines : List (Nat × String)) : Prop :=
  ∃ before l after, lines = before ++ l :: after ∧
    ∃ r, b.feedLines rules before = .ok r ∧ r.slackLine = none ∧ r.block.isComplete = false ∧
      (∃ rest, Row.ofText? (Text.trim l.2.toList) = some (.labelled .arrival rest)) ∧
      ∃ b', r.block.feed rules l.1 l.2.toList = .ok (b', false) ∧ b'.stage = .capture

theorem readsArrival_of_isComplete {rules : RuleSet} {b : Block} {lines : List (Nat × String)}
    {r : BlockReading} (h : b.feedLines rules lines = .ok r) (hb : b.isComplete = false)
    (hr : r.block.isComplete = true) : b.ReadsArrival rules lines := by
  induction lines generalizing b r with
  | nil =>
    cases h
    rw [hb] at hr
    exact absurd hr Bool.false_ne_true
  | cons l rest ih =>
    have hfirst : ∀ b' atEnd, b.feed rules l.1 l.2.toList = .ok (b', atEnd) →
        b'.isComplete = true → b.ReadsArrival rules (l :: rest) := by
      intro b' atEnd hf hb'
      obtain ⟨hstage, rfl, hrow⟩ := (feed_step hf).arrival_of_isComplete hb hb'
      exact ⟨[], l, rest, rfl, _, rfl, rfl, hb, hrow, b', hf, hstage⟩
    obtain ⟨b', hf, rfl⟩ | ⟨b', r', hf, hr', rfl⟩ := feedLines_cons_eq_ok h
    · exact hfirst b' true hf hr
    · cases hb' : b'.isComplete with
      | true => exact hfirst b' false hf hb'
      | false =>
        obtain ⟨before, l', after, rfl, r₁, h₁, hs, hopen, harrival⟩ := ih hr' hb' hr
        refine ⟨l :: before, l', after, rfl, { r₁ with fed := l :: r₁.fed }, ?_, hs, hopen,
          harrival⟩
        simp only [feedLines, hf, h₁, Except.map]

end Block

namespace BlockText

def texts (t : BlockText) : List String := t.text :: t.body.map (·.2)

def path? (rules : RuleSet) (through : List String) (t : BlockText) : Option TimingPath :=
  (t.closedPath? rules through).map (·.path)

/-- The launch side is closed by the first lines of a block. -/
def ReachesCapture (rules : RuleSet) (t : BlockText) : Prop :=
  ∃ lines, lines <+: t.body ∧ ∃ r, (Block.start t.line t.startpoint).feedLines rules lines = .ok r ∧
    r.block.stage = .capture

/-- A data arrival time is read on the launch side of a block. -/
def ReadsArrival (rules : RuleSet) (t : BlockText) : Prop :=
  (Block.start t.line t.startpoint).ReadsArrival rules t.body

section
variable {rules : RuleSet} {t : BlockText} {r : BlockReading}

theorem ReadsArrival.reachesCapture (h : t.ReadsArrival rules) : t.ReachesCapture rules := by
  obtain ⟨before, l, after, hbody, r₁, h₁, hs, -, -, b', hf, hstage⟩ := h
  refine ⟨before ++ [l], ⟨after, by rw [hbody]; simp⟩, { block := b', fed := r₁.fed ++ [l] }, ?_,
    hstage⟩
  rw [Block.feedLines_append h₁, hs]
  simp only [Block.feedLines, hf]
  rfl

theorem ReachesCapture.isComplete (h : t.ReachesCapture rules) (hr : t.read rules = .ok r) :
    r.block.isComplete = true := by
  obtain ⟨lines, ⟨later, hbody⟩, r₁, h₁, hstage⟩ := h
  have hcomplete : r₁.block.isComplete = true := (Block.isComplete_iff _).mpr (.inl hstage)
  unfold read at hr
  rw [← hbody, Block.feedLines_append h₁] at hr
  by_cases hs : r₁.slackLine.isSome
  · rw [if_pos hs] at hr
    cases hr
    exact hcomplete
  · rw [if_neg hs] at hr
    cases h₂ : r₁.block.feedLines rules later with
    | error e => simp [h₂, Except.map] at hr
    | ok r₂ =>
      simp only [h₂, Except.map, Except.ok.injEq] at hr
      have hlater : r₂.block.isComplete = true :=
        Block.feedLines_induction (P := (·.isComplete = true)) h₂ hcomplete
          fun _ _ _ _ _ hb hf => (Block.feed_step hf).isComplete_of_isComplete hb
      rw [← hr]
      exact hlater

theorem isComplete_iff_readsArrival (hr : t.read rules = .ok r) :
    r.block.isComplete = true ↔ t.ReadsArrival rules :=
  ⟨Block.readsArrival_of_isComplete hr rfl, fun h => h.reachesCapture.isComplete hr⟩

theorem isComplete_iff_reachesCapture (hr : t.read rules = .ok r) :
    r.block.isComplete = true ↔ t.ReachesCapture rules :=
  ⟨fun h => ((isComplete_iff_readsArrival hr).mp h).reachesCapture, fun h => h.isComplete hr⟩

/-- A block that is closed in any case gives a path if it is complete. -/
theorem path?_of_bound {through : List String} {closing : Nat} (hb : t.bound = some closing)
    (hr : t.read rules = .ok r) :
    t.path? rules through =
      if r.block.isComplete then some (r.block.finish through) else none := by
  unfold path? closedPath?
  rw [hr, hb]
  unfold BlockReading.closedPath?
  cases hs : r.slackLine <;> by_cases hc : r.block.isComplete = true <;>
    simp [Except.toOption, hs, hc]

end

/-- A block has one startpoint, and that is its first line. -/
theorem startpoint_of_mem_divide {bound : Option Nat} {lines : List (Nat × String)} {t : BlockText}
    (ht : t ∈ divide bound lines) :
    ReportHeader.startpoint? t.text.toList = some t.startpoint ∧
      ∀ l ∈ t.body, isStart l = false := by
  induction lines with
  | nil => simp [divide] at ht
  | cons l rest ih =>
    unfold divide at ht
    split at ht
    · exact ih ht
    · rename_i startpoint hl
      rcases List.mem_cons.mp ht with rfl | ht
      · exact ⟨hl, fun x hx => by simpa using List.mem_takeWhile_imp hx⟩
      · exact ih ht

theorem divide_of_not_isStart {bound : Option Nat} {lines : List (Nat × String)}
    (h : ∀ l ∈ lines, isStart l = false) : divide bound lines = [] := by
  induction lines with
  | nil => rfl
  | cons l rest ih =>
    have hl : ReportHeader.startpoint? l.2.toList = none := by
      simpa [isStart] using h l List.mem_cons_self
    unfold divide
    rw [hl]
    exact ih fun x hx => h x (List.mem_cons_of_mem l hx)

/-- The place of a block in a report. -/
theorem exists_append_of_mem_divide {bound : Option Nat} {first : Nat} {lines : List String}
    {t : BlockText} (ht : t ∈ divide bound (numbered first lines)) :
    ∃ before after, lines = before ++ t.texts ++ after ∧ t.line = first + before.length ∧
      t.body = numbered (t.line + 1) (t.body.map (·.2)) := by
  obtain ⟨us, vs, hdivide⟩ := List.append_of_mem ht
  have hlines := takeWhile_append_flatMap_divide bound (numbered first lines)
  rw [hdivide, List.flatMap_append, List.flatMap_cons, ← List.append_assoc, ← List.append_assoc]
    at hlines
  generalize hbefore : (numbered first lines).takeWhile (!isStart ·) ++
    us.flatMap (fun t => (t.line, t.text) :: t.body) = before at hlines
  generalize vs.flatMap (fun t => (t.line, t.text) :: t.body) = after at hlines
  have hnumbered := eq_numbered_of_append hlines.symm
  rw [List.map_cons, numbered, List.cons.injEq, Prod.mk.injEq] at hnumbered
  obtain ⟨⟨hline, -⟩, hbody⟩ := hnumbered
  refine ⟨before.map (·.2), after.map (·.2), ?_, by rw [hline, List.length_map], ?_⟩
  · rw [← map_snd_numbered first lines, ← hlines]
    simp [texts]
  · rw [hline]
    exact hbody

end BlockText

namespace ScanRange

theorem lines_eq_append_flatMap_texts (file : SourceFile) :
    file.lines =
      (file.lines.takeWhile fun text => !(ReportHeader.startpoint? text.toList).isSome) ++
        (whole.blocks file).flatMap BlockText.texts := by
  have hlines := congrArg (List.map (·.2))
    (BlockText.takeWhile_append_flatMap_divide (some file.lineCount) (numbered 1 file.lines))
  rw [← whole_blocks, map_snd_numbered, List.map_append, List.map_flatMap] at hlines
  have htake : (file.lines.takeWhile fun text =>
      !(ReportHeader.startpoint? text.toList).isSome) =
      ((numbered 1 file.lines).takeWhile (!isStart ·)).map (·.2) := by
    conv_lhs => rw [← map_snd_numbered 1 file.lines]
    exact List.takeWhile_map
  rw [htake]
  exact hlines.symm

/-- The lines of a block are a report of one block. -/
theorem whole_blocks_of_lines_eq {t : BlockText}
    (hs : ReportHeader.startpoint? t.text.toList = some t.startpoint)
    (hb : ∀ l ∈ t.body, isStart l = false) {own : SourceFile} (h : own.lines = t.texts) :
    whole.blocks own =
      [{ t with
        line := 1, body := numbered 2 (t.body.map (·.2)), bound := some own.lineCount }] := by
  have hbody : ∀ l ∈ numbered 2 (t.body.map (·.2)), isStart l = false := by
    intro l hl
    have htext : l.2 ∈ (numbered 2 (t.body.map (·.2))).map (·.2) := List.mem_map_of_mem hl
    rw [map_snd_numbered] at htext
    obtain ⟨x, hx, hxl⟩ := List.mem_map.mp htext
    have hstart : isStart x = false := hb x hx
    unfold isStart at hstart ⊢
    rw [← hxl]
    exact hstart
  have htake : (numbered 2 (t.body.map (·.2))).takeWhile (!isStart ·) =
      numbered 2 (t.body.map (·.2)) :=
    List.takeWhile_eq_self_iff.mpr fun l hl => by simp [hbody l hl]
  have hfind : (numbered 2 (t.body.map (·.2))).find? isStart = none :=
    List.find?_eq_none.mpr fun l hl => by simp [hbody l hl]
  rw [whole_blocks, h, BlockText.texts, numbered, BlockText.divide]
  simp only [hs]
  rw [htake, hfind, BlockText.divide_of_not_isStart hbody]
  rfl

end ScanRange

def BlockReading.shift (k : Nat) (r : BlockReading) : BlockReading where
  block := r.block.shift k
  fed := r.fed.map fun l => (l.1 + k, l.2)
  slackLine := r.slackLine.map (· + k)

theorem Block.feedLines_shift (k : Nat) (rules : RuleSet) (b : Block) (first : Nat)
    (lines : List String) :
    (b.shift k).feedLines rules (numbered (first + k) lines) =
      shifted k (·.shift k) (b.feedLines rules (numbered first lines)) := by
  induction lines generalizing b first with
  | nil => rfl
  | cons text rest ih =>
    have hn : first + k + 1 = first + 1 + k := by omega
    simp only [numbered, feedLines, feed_shift]
    cases b.feed rules first text.toList with
    | error e => rfl
    | ok fed =>
      obtain ⟨b', atEnd⟩ := fed
      cases atEnd with
      | true => rfl
      | false =>
        simp only [shifted, Prod.map, id, hn, ih]
        cases b'.feedLines rules (numbered (first + 1) rest) <;> rfl

/-- A block reads in its report as it does alone, some lines later. -/
theorem BlockText.read_alone {rules : RuleSet} {t : BlockText} {k : Nat} (hk : t.line = 1 + k)
    (hbody : t.body = numbered (t.line + 1) (t.body.map (·.2))) {r : BlockReading}
    (hr : t.read rules = .ok r) :
    ∃ own, (Block.start 1 t.startpoint).feedLines rules (numbered 2 (t.body.map (·.2))) = .ok own ∧
      own.shift k = r := by
  have hstart : Block.start (1 + k) t.startpoint = (Block.start 1 t.startpoint).shift k := rfl
  have hfirst : 1 + k + 1 = 2 + k := by omega
  unfold read at hr
  rw [hbody, hk, hstart, hfirst, Block.feedLines_shift] at hr
  cases hown : (Block.start 1 t.startpoint).feedLines rules (numbered 2 (t.body.map (·.2))) with
  | error e =>
    rw [hown] at hr
    cases hr
  | ok own =>
    rw [hown] at hr
    exact ⟨own, rfl, Except.ok.inj hr⟩

theorem ScanRange.isSome_bound_of_mem_whole_blocks {file : SourceFile} {t : BlockText}
    (ht : t ∈ whole.blocks file) : ∃ closing, t.bound = some closing := by
  rw [whole_blocks] at ht
  generalize numbered 1 file.lines = lines at ht
  induction lines with
  | nil => simp [BlockText.divide] at ht
  | cons l rest ih =>
    unfold BlockText.divide at ht
    split at ht
    · exact ih ht
    · rcases List.mem_cons.mp ht with rfl | ht
      · cases rest.find? isStart with
        | none => exact ⟨_, rfl⟩
        | some next => exact ⟨_, rfl⟩
      · exact ih ht

/-- A block of a report that can be read gives alone what it gives there. -/
theorem Scan.ofRange_whole_alone {rules : RuleSet} (through : List String) {file : SourceFile}
    {t : BlockText} (ht : t ∈ ScanRange.whole.blocks file) {r : BlockReading}
    (hr : t.read rules = .ok r) {own : SourceFile} (hown : own.lines = t.texts) :
    ∃ alone, ofRange rules through own .whole = .ok alone ∧
      alone.paths.map (·.shift (t.line - 1)) = (t.path? rules through).toList := by
  obtain ⟨closing, hclosing⟩ := ScanRange.isSome_bound_of_mem_whole_blocks ht
  rw [ScanRange.whole_blocks] at ht
  obtain ⟨hs, hb⟩ := BlockText.startpoint_of_mem_divide ht
  obtain ⟨before, after, -, hline, hbody⟩ := BlockText.exists_append_of_mem_divide ht
  -- The next startpoint closes the block here, the end of the report closes it alone.
  have hk : t.line = 1 + (t.line - 1) := by omega
  obtain ⟨r₁, hr₁, hshift⟩ := BlockText.read_alone hk hbody hr
  have hblocks := ScanRange.whole_blocks_of_lines_eq hs hb hown
  generalize ht₁ : ({ t with
    line := 1, body := numbered 2 (t.body.map (·.2)), bound := some own.lineCount } : BlockText) =
    t₁ at hblocks
  have hread : t₁.read rules = .ok r₁ := by
    rw [← ht₁]
    exact hr₁
  have hbound : t₁.bound = some own.lineCount := by rw [← ht₁]
  have hreads : ∀ u ∈ ScanRange.whole.blocks own, ∃ r, u.read rules = .ok r := by
    rw [hblocks]
    intro u hu
    rw [List.mem_singleton.mp hu]
    exact ⟨r₁, hread⟩
  obtain ⟨alone, halone, hpaths⟩ := ofRange_of_reads through hreads
  have hpath : alone.paths = (t₁.path? rules through).toList := by
    rw [hpaths, hblocks, BlockText.path?]
    cases hc : t₁.closedPath? rules through <;> simp [hc, atMost, ScanRange.whole]
  refine ⟨alone, halone, ?_⟩
  have hcomplete : r.block.isComplete = r₁.block.isComplete := by
    rw [← hshift]
    rfl
  have hfinish : r.block.finish through = (r₁.block.finish through).shift (t.line - 1) := by
    rw [← hshift]
    exact Block.finish_shift _ _ _
  rw [hpath, BlockText.path?_of_bound hbound hread, BlockText.path?_of_bound hclosing hr,
    hcomplete, hfinish]
  split_ifs <;> rfl

/-- A report gives at most one path for each of its blocks, in order. A block gives one exactly if
its launch side is closed, and it gives the same alone. -/
theorem Scan.ofRange_whole_by_blocks (rules : RuleSet) (through : List String) (file : SourceFile)
    {whole : Scan} (h : ofRange rules through file .whole = .ok whole) :
    file.lines =
        (file.lines.takeWhile fun text => !(ReportHeader.startpoint? text.toList).isSome) ++
          (ScanRange.whole.blocks file).flatMap BlockText.texts ∧
      whole.paths = (ScanRange.whole.blocks file).filterMap (·.path? rules through) ∧
      ∀ t ∈ ScanRange.whole.blocks file,
        (ReportHeader.startpoint? t.text.toList = some t.startpoint ∧
          ∀ l ∈ t.body, isStart l = false) ∧
        ((t.path? rules through).isSome ↔ t.ReachesCapture rules) ∧
        ((t.path? rules through).isSome ↔ t.ReadsArrival rules) ∧
        (file.excerpt t.line t.texts.length).lines = t.texts ∧
        ∀ own : SourceFile, own.lines = t.texts →
          ∃ alone, ofRange rules through own .whole = .ok alone ∧
            alone.paths.map (·.shift (t.line - 1)) = (t.path? rules through).toList := by
  have hreads := reads_of_ofRange_whole h
  obtain ⟨whole', hwhole, hpaths⟩ := ofRange_of_reads through hreads
  obtain rfl : whole = whole' := Except.ok.inj (h.symm.trans hwhole)
  refine ⟨ScanRange.lines_eq_append_flatMap_texts file, ?_, fun t ht => ?_⟩
  · rw [hpaths]
    simp only [atMost, ScanRange.whole, List.map_filterMap]
    rfl
  obtain ⟨r, hr⟩ := hreads t ht
  obtain ⟨closing, hclosing⟩ := ScanRange.isSome_bound_of_mem_whole_blocks ht
  have hsome : (t.path? rules through).isSome ↔ r.block.isComplete = true := by
    rw [BlockText.path?_of_bound hclosing hr]
    cases r.block.isComplete <;> simp
  have ht' := ht
  rw [ScanRange.whole_blocks] at ht'
  refine ⟨BlockText.startpoint_of_mem_divide ht',
    hsome.trans (BlockText.isComplete_iff_reachesCapture hr),
    hsome.trans (BlockText.isComplete_iff_readsArrival hr), ?_,
    fun own hown => ofRange_whole_alone through ht hr hown⟩
  obtain ⟨before, after, hlines, hline, -⟩ := BlockText.exists_append_of_mem_divide ht'
  have hbefore : t.line - 1 = before.length := by omega
  have hpos : 0 < t.texts.length := by simp [BlockText.texts]
  rw [SourceFile.lines_excerpt, hlines, hbefore]
  · simp
  · exact hpos
  · rw [hlines, hbefore]
    simp only [List.length_append]
    omega

theorem Scan.ofRange_whole_by_blocks_twoPaths :
    ∃ whole, ofRange {} [] twoPaths .whole = .ok whole ∧ whole.paths.map (·.line) = [1, 6] ∧
      whole.paths = (ScanRange.whole.blocks twoPaths).filterMap (·.path? {} []) ∧
      ∀ t ∈ ScanRange.whole.blocks twoPaths, ∀ own : SourceFile, own.lines = t.texts →
        ∃ alone, ofRange {} [] own .whole = .ok alone ∧
          alone.paths.map (·.shift (t.line - 1)) = (t.path? {} []).toList := by
  obtain ⟨whole, hwhole, hlines⟩ := exists_ofRange_twoPaths
  obtain ⟨-, hpaths, hblocks⟩ := ofRange_whole_by_blocks {} [] twoPaths hwhole
  exact ⟨whole, hwhole, hlines, hpaths, fun t ht => (hblocks t ht).2.2.2.2⟩

end PathTiming
