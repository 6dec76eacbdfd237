import PathTiming.Proofs.RangeSelection
import PathTiming.Report.Report

/-! What a report shows, told from its words: the columns that the headers of its tables name, and the
style that the command at its head asks for. -/
namespace PathTiming

/-! ### Columns -/

namespace EnumSet
variable {α : Type} [DecidableEq α]

@[simp]
theorem contains_empty (a : α) : (empty : EnumSet α).contains a = false := rfl

theorem contains_foldl_insert [Listed α] (as : List α) (s : EnumSet α) (a : α) :
    (as.foldl insert s).contains a = (as.contains a || s.contains a) := by
  induction as generalizing s with
  | nil => simp
  | cons b rest ih =>
    rw [List.foldl_cons, ih, contains_insert, List.contains_cons, ← Bool.or_assoc,
      Bool.or_comm (rest.contains a)]

end EnumSet

def columnWords : List (String × Column) :=
  [("Fanout", .fanout), ("Cap", .cap), ("Trans", .trans), ("Derate", .derate), ("Delta", .delta),
    ("Incr", .incr), ("Path", .path), ("Location", .location)]

/-- A line is a table header, and some word behind its first one names the column. -/
def Announces (line : String) (c : Column) : Prop :=
  "Point".toList <+: Text.trim line.toList ∧
    ∃ word ∈ (Text.words line.toList).drop 1, (String.ofList word, c) ∈ columnWords

theorem mem_columnWords_iff (word : String) (c : Column) :
    (word, c) ∈ columnWords ↔ c ≠ .other ∧ c.label = word := by
  cases c <;> simp [columnWords, Column.label, eq_comm]

theorem Column.ofHeader_eq_iff {c : Column} (hc : c ≠ .other) (word : String) :
    ofHeader word = c ↔ c.label = word := by
  constructor
  · intro h
    unfold ofHeader at h
    cases hfind : (Listed.all : List Column).find? fun c => c.label = word with
    | none =>
      rw [hfind] at h
      exact absurd h.symm hc
    | some d =>
      obtain rfl : d = c := by simpa [hfind] using h
      simpa using List.find?_some hfind
  · rintro rfl
    cases c <;> rfl

theorem Block.mem_newColumns_iff (line : String) (c : Column) :
    c ∈ newColumns line.toList ↔ Announces line c := by
  unfold newColumns Announces isTableHeader
  rw [← List.isPrefixOf_iff_prefix]
  split_ifs with h
  · simp only [h, true_and, Layout.known, Layout.ofHeader, Text.words, List.mem_filter, List.mem_map,
      ← List.map_drop, decide_eq_true_eq, mem_columnWords_iff]
    constructor
    · rintro ⟨⟨_, ⟨token, htoken, rfl⟩, hc⟩, hother⟩
      exact ⟨_, ⟨token, htoken, rfl⟩, hother, (Column.ofHeader_eq_iff hother _).mp hc⟩
    · rintro ⟨_, ⟨token, htoken, rfl⟩, hother, hlabel⟩
      exact ⟨⟨_, ⟨token, htoken, rfl⟩, (Column.ofHeader_eq_iff hother _).mpr hlabel⟩, hother⟩
  · exact iff_of_false List.not_mem_nil fun hline => h hline.1

/-! ### Styles -/

def styleWords : List (String × PathStyle) :=
  [("full", .full), ("full_clock", .fullClock), ("full_clock_expanded", .fullClockExpanded)]

/-- The words that follow the option for the style, whatever they are. -/
def styleArguments : List String → List String
  | option :: argument :: rest =>
    if option = "-path_type" ∨ option = "-path" then argument :: styleArguments rest
    else styleArguments (argument :: rest)
  | _ => []

def lastStyle? (arguments : List String) : Option PathStyle :=
  (arguments.filterMap (styleWords.lookup ·)).getLast?

/-- The style that the lines before the first path ask for. -/
def styleAsked? (lines : List String) : Option PathStyle :=
  lastStyle? <| (lines.takeWhile fun line =>
      !"Startpoint:".toList.isPrefixOf (Text.trimStart line.toList)).flatMap fun line =>
    styleArguments ((Text.words line.toList).map String.ofList)

theorem lookup_styleWords (word : String) : styleWords.lookup word = PathStyle.ofLabel? word := by
  by_cases hfull : word = "full"
  · subst hfull
    rfl
  by_cases hclock : word = "full_clock"
  · subst hclock
    rfl
  by_cases hexpanded : word = "full_clock_expanded"
  · subst hexpanded
    rfl
  have hother : ∀ s : PathStyle, s.label ≠ word := by
    intro s
    cases s
    · exact Ne.symm hfull
    · exact Ne.symm hclock
    · exact Ne.symm hexpanded
  have hnone : PathStyle.ofLabel? word = none := List.find?_eq_none.mpr fun s _ => by
    simpa using hother s
  rw [hnone]
  simp [styleWords, List.lookup_cons, beq_false_of_ne hfull, beq_false_of_ne hclock,
    beq_false_of_ne hexpanded]

theorem lastStyle?_cons (argument : String) (arguments : List String) :
    lastStyle? (argument :: arguments) =
      (lastStyle? arguments).or (PathStyle.ofLabel? argument) := by
  unfold lastStyle?
  rw [List.filterMap_cons, lookup_styleWords]
  cases PathStyle.ofLabel? argument with
  | none => simp
  | some style => rw [List.getLast?_cons]; cases List.getLast? _ <;> rfl

theorem lastStyle?_append (before after : List String) :
    lastStyle? (before ++ after) = (lastStyle? after).or (lastStyle? before) := by
  induction before with
  | nil => simp [lastStyle?]
  | cons argument before ih =>
    rw [List.cons_append, lastStyle?_cons, lastStyle?_cons, ih, Option.or_assoc]

theorem styleArguments_of_not_option {word : String}
    (h : ¬ (word = "-path_type" ∨ word = "-path")) (rest : List String) :
    styleArguments (word :: rest) = styleArguments rest := by
  cases rest with
  | nil => rfl
  | cons argument rest => rw [styleArguments, if_neg h]

/-- The words that could stand before those that a reader has yet to read. -/
def Awaited.words : Awaited → List String
  | .style => ["-path"]
  | .nothing | .through => []

namespace ReportHeader

theorem styleArguments_words_optionOf (word : String) (rest : List String) :
    styleArguments ((optionOf word).words ++ rest) = styleArguments (word :: rest) := by
  unfold optionOf
  split_ifs with hstyle hthrough
  · cases rest with
    | nil => rfl
    | cons argument rest =>
      rw [styleArguments, if_pos hstyle]
      rfl
  · exact (styleArguments_of_not_option hstyle rest).symm
  · exact (styleArguments_of_not_option hstyle rest).symm

/-- Only a word behind the option for the style changes the style. -/
theorem style_readWord (h : ReportHeader) (awaited : Awaited) (word : List Char)
    (rest : List String) :
    (lastStyle? (styleArguments ((readWord h awaited word).2.words ++ rest))).or
        (readWord h awaited word).1.style =
      (lastStyle? (styleArguments (awaited.words ++ String.ofList word :: rest))).or h.style := by
  cases awaited with
  | nothing =>
    unfold readWord
    dsimp only
    rw [styleArguments_words_optionOf]
    rfl
  | style =>
    have harguments : styleArguments (Awaited.style.words ++ String.ofList word :: rest) =
        String.ofList word :: styleArguments rest := if_pos (.inr rfl)
    rw [harguments, lastStyle?_cons, Option.or_assoc]
    unfold readWord
    cases PathStyle.ofLabel? (String.ofList word) <;> rfl
  | through =>
    unfold readWord
    dsimp only
    split_ifs with hoption hempty
    · rw [styleArguments_words_optionOf]
      rfl
    all_goals
      have hword : ¬ (String.ofList word = "-path_type" ∨ String.ofList word = "-path") := by
        rintro (hword | hword) <;>
          exact hoption (by rw [← String.toList_ofList (l := word), hword]; rfl)
      change _ = (lastStyle? (styleArguments (String.ofList word :: rest))).or h.style
      rw [styleArguments_of_not_option hword]
      rfl

theorem style_foldl_readWord (words : List (List Char)) (h : ReportHeader) (awaited : Awaited) :
    (words.foldl (fun (h, awaited) word => readWord h awaited word) (h, awaited)).1.style =
      (lastStyle? (styleArguments (awaited.words ++ words.map String.ofList))).or h.style := by
  induction words generalizing h awaited with
  | nil => cases awaited <;> rfl
  | cons word words ih => rw [List.foldl_cons, ih, style_readWord, List.map_cons]

theorem style_foldl_readLine (lines : List String) (h : ReportHeader) :
    (lines.foldl (fun h line => readLine h line.toList) h).style =
      (lastStyle? (lines.flatMap fun line =>
        styleArguments ((Text.words line.toList).map String.ofList))).or h.style := by
  induction lines generalizing h with
  | nil => rfl
  | cons line lines ih =>
    rw [List.foldl_cons, ih, List.flatMap_cons, lastStyle?_append, Option.or_assoc, readLine,
      style_foldl_readWord]
    rfl

theorem style_ofLines (lines : List String) : (ofLines lines).style = styleAsked? lines := by
  have hstart : ∀ line : String, (startpoint? line.toList).isNone =
      !"Startpoint:".toList.isPrefixOf (Text.trimStart line.toList) := fun line => by
    rw [startpoint?, ← Option.not_isSome, List.isSome_isPrefixOf?_eq_isPrefixOf]
  unfold ofLines styleAsked?
  rw [style_foldl_readLine, Option.or_none]
  simp only [hstart]

end ReportHeader

/-! ### Lines that are read -/

namespace BlockText
variable {rules : RuleSet} {t : BlockText}

theorem Ordered.cut (ht : t.Ordered) (p : Nat → Bool) : (t.cut p).Ordered := by
  have hbody : (t.body.takeWhile fun l => p l.1).Sublist t.body := (List.takeWhile_prefix _).sublist
  refine ⟨fun l hl => ht.above l (hbody.subset hl), ht.body.sublist hbody, fun c hc => ?_⟩
  obtain ⟨hline, hlast⟩ := ht.bound c (Option.mem_filter_iff.mp hc).1
  exact ⟨hline, fun l hl => hlast l (hbody.subset hl)⟩

/-- The lines of a block are read up to the slack that ends it. -/
theorem mem_fed_iff (ht : t.Ordered) {r : BlockReading} (hr : t.read rules = .ok r)
    (l : Nat × String) : l ∈ r.fed ↔ l ∈ t.body ∧ ∀ stop ∈ r.slackLine, l.1 ≤ stop := by
  obtain ⟨⟨rest, hbody⟩, hall, -⟩ := Block.fed_of_feedLines hr
  cases hslack : r.slackLine with
  | none => simp [hall hslack]
  | some stop =>
    obtain ⟨hle, last, hlast, rfl⟩ := fed_le_slackLine ht hr hslack
    have hsorted := ht.body
    rw [← hbody] at hsorted ⊢
    constructor
    · intro hl
      exact ⟨List.mem_append_left rest hl, by simpa using hle l hl⟩
    · rintro ⟨hl, hstop⟩
      rcases List.mem_append.mp hl with hl | hl
      · exact hl
      · have hlater := (List.pairwise_append.mp hsorted).2.2 last hlast l hl
        have := hstop last.1 rfl
        omega

end BlockText

theorem ScanRange.ordered_of_mem_blocks {file : SourceFile} {range : ScanRange} {t : BlockText}
    (ht : t ∈ range.blocks file) : t.Ordered := by
  rw [blocks_eq_map_cut] at ht
  obtain ⟨u, hu, rfl⟩ := List.mem_map.mp ht
  exact (ordered_of_mem_whole_blocks (List.mem_of_mem_filter hu)).cut range.reaches

def TooFew (rules : RuleSet) (through : List String) (limit : Option Nat)
    (ts : List BlockText) : Prop :=
  ∀ n ∈ limit, (ts.filterMap (·.closedPath? rules through)).length < n

theorem tooFew_cons_iff {rules : RuleSet} {through : List String} (limit : Option Nat)
    {t : BlockText} {r : BlockReading} (hr : t.read rules = .ok r) (ts : List BlockText) :
    TooFew rules through limit (t :: ts) ↔
      TooFew rules through (limit.map (· - (r.closedPath? through t.bound).toList.length)) ts := by
  have hpath : t.closedPath? rules through = r.closedPath? through t.bound := by
    simp [BlockText.closedPath?, hr, Except.toOption]
  unfold TooFew
  rw [List.filterMap_cons, hpath]
  cases limit with
  | none => simp
  | some n =>
    cases r.closedPath? through t.bound with
    | none => simp
    | some c => simp; omega

/-- A block is read if those before it do not hold as many paths as are wanted. -/
theorem Harvest.mem_fed_iff {rules : RuleSet} {through : List String} {limit : Option Nat}
    {ts : List BlockText} {found : Harvest} (h : gather rules through limit ts = .ok found)
    (l : Nat × String) :
    l ∈ found.fed ↔ ∃ before t after, ts = before ++ t :: after ∧
      TooFew rules through limit before ∧ ∃ r, t.read rules = .ok r ∧ l ∈ r.fed := by
  induction ts generalizing limit found with
  | nil =>
    cases h
    simp
  | cons t rest ih =>
    rw [exists_cut_cons_iff (P := fun before t =>
      TooFew rules through limit before ∧ ∃ r, BlockText.read rules t = .ok r ∧ l ∈ r.fed)]
    obtain ⟨rfl, rfl⟩ | ⟨r, later, hlimit, hr, hlater, rfl⟩ := gather_cons_eq_ok rules through h
    · simp [TooFew]
    · have hfirst : TooFew rules through limit [] := by
        rintro n rfl
        exact Nat.pos_of_ne_zero fun hn => hlimit (congrArg some hn)
      rw [List.mem_append, ih hlater]
      simp only [tooFew_cons_iff limit hr]
      refine or_congr_left ⟨fun hl => ⟨hfirst, r, hr, hl⟩, ?_⟩
      rintro ⟨-, r', hr', hl⟩
      cases hr.symm.trans hr'
      exact hl

/-- A scan of a range reads a line of a path: the blocks before that of the line do not hold as many
paths as are wanted, and no slack ends its block before it. -/
def ScanRange.ReadsLine (range : ScanRange) (rules : RuleSet) (through : List String)
    (file : SourceFile) (l : Nat × String) : Prop :=
  ∃ before t after, range.blocks file = before ++ t :: after ∧
    TooFew rules through range.count before ∧
      ∃ r, t.read rules = .ok r ∧ l ∈ t.body ∧ ∀ stop ∈ r.slackLine, l.1 ≤ stop

/-- The columns of some lines are those that some line announces. -/
theorem Harvest.contains_addColumns (lines : List (Nat × String)) (columns : EnumSet Column)
    (c : Column) :
    (addColumns columns lines).contains c = true ↔
      columns.contains c = true ∨ ∃ l ∈ lines, Announces l.2 c := by
  unfold addColumns
  induction lines generalizing columns with
  | nil => simp
  | cons l rest ih =>
    rw [List.foldl_cons, ih, EnumSet.contains_foldl_insert, Bool.or_eq_true, List.contains_iff_mem,
      Block.mem_newColumns_iff]
    simp only [List.exists_mem_cons_iff]
    rw [← or_assoc, or_comm (a := Announces l.2 c)]

/-- The columns of a scan are those that the lines of its paths announce. -/
theorem Scan.contains_columns {rules : RuleSet} {through : List String} {file : SourceFile}
    {range : ScanRange} {s : Scan} (h : ofRange rules through file range = .ok s) (c : Column) :
    s.columns.contains c = true ↔
      ∃ l, range.ReadsLine rules through file l ∧ Announces l.2 c := by
  obtain ⟨harvest, hg, -, hcolumns⟩ := exists_gather_of_ofRange h
  have hread : ∀ l, l ∈ harvest.fed ↔ range.ReadsLine rules through file l := by
    intro l
    rw [harvest.mem_fed_iff hg]
    unfold ScanRange.ReadsLine
    refine exists_congr fun before => exists_congr fun t => exists_congr fun after => ?_
    refine and_congr_right fun hblocks => and_congr_right fun _ => exists_congr fun r => ?_
    have ht : t ∈ range.blocks file := by
      rw [hblocks]
      exact List.mem_append_right before List.mem_cons_self
    exact and_congr_right fun hr =>
      BlockText.mem_fed_iff (ScanRange.ordered_of_mem_blocks ht) hr l
  rw [hcolumns, Harvest.contains_addColumns]
  simp only [hread, EnumSet.contains_empty, Bool.false_eq_true, false_or]

end PathTiming
