import PathTiming.Proofs.AnchoredPattern
import PathTiming.Proofs.MetricTable
import PathTiming.Proofs.PlainNumber
import PathTiming.Report.RangeList

/-! The grammar of a list of ranges. An entry is a number with two optional numbers behind their
marks; entries that are none are passed over, and what is printed can be read back. -/
namespace PathTiming

def Unicode.RangeTable.ofWords (words : List (List Char)) : RangeTable :=
  let step (acc : Array (Nat × Nat) × Nat) (word : List Char) :=
    let (gap, more) := entry word
    let first := acc.2 + gap
    (acc.1.push (first, first + more), first + more + 1)
  ⟨(words.foldl step (#[], 0)).1⟩

namespace Pattern
open scoped Computability

/-- The digits of all scripts, from the text of their table. -/
theorem Charset.digits_eq {names : List String} {cs : List Char}
    (h : Unicode.categories.find? (fun t => t.1.contains "nd") = some (names, String.ofList cs)) :
    digits = .ofWords (Text.words cs) := by
  unfold digits ofCategory Unicode.category? Unicode.lookup?
  rw [h]
  show Unicode.RangeTable.decode (String.ofList cs) = _
  unfold Unicode.RangeTable.decode
  rw [String.toList_ofList]
  rfl

set_option maxRecDepth 4000 in
/-- Among ASCII characters, the digits of all scripts are the usual ones. -/
theorem Charset.digits_ascii :
    "0123456789".toList.all (digits.contains ·.toNat) = true ∧
      digits.contains ':'.toNat = false ∧ digits.contains '+'.toNat = false := by
  rw [Charset.digits_eq rfl]
  decide +kernel

end Pattern

namespace ScanRange
open Unicode (isBlank)
open scoped Computability

/-- ASCII digits that stand for a number of 64 bits. Zeros may lead. -/
structure IsNumber (digits : List Char) (n : Nat) : Prop where
  nonempty : digits ≠ []
  isDigit : ∀ c ∈ digits, c.isDigit = true
  value : Nat.ofDigitChars 10 digits 0 = n
  bound : n < 2 ^ 64

/-- A part of an entry behind its mark, if there is one. -/
def behind (mark : Char) (part : Option (List Char)) : List Char := (part.map (mark :: ·)).getD []

/-- The text of a range: its first line, its last line behind a colon, and the number of paths behind
a plus sign. -/
def IsEntry (text : List Char) (r : ScanRange) : Prop :=
  ∃ first stop count, text = first ++ behind ':' stop ++ behind '+' count ∧
    IsNumber first r.start ∧ Option.Rel IsNumber stop r.stop ∧ Option.Rel IsNumber count r.count

/-! ### Reading -/

theorem number?_eq_some_iff {cs : List Char} {n : Nat} : number? cs = some n ↔ IsNumber cs n := by
  unfold number? Decimal.natural?
  rw [Option.filter_eq_some_iff, decide_eq_true_eq]
  constructor
  · rintro ⟨hn, hbound⟩
    split_ifs at hn with hdigits
    rw [Bool.or_eq_true, not_or, Bool.not_eq_true, Bool.not_eq_true', Bool.not_eq_false] at hdigits
    exact ⟨by simpa using hdigits.1, List.all_eq_true.mp hdigits.2, Option.some.inj hn, hbound⟩
  · rintro ⟨hne, hdigits, rfl, hbound⟩
    have hread : (cs.isEmpty || !cs.all Char.isDigit) = false := by
      simpa [hne] using hdigits
    rw [hread]
    exact ⟨rfl, hbound⟩

theorem mapM_number?_eq_some_iff {part : Option (List Char)} {n : Option Nat} :
    part.mapM number? = some n ↔ Option.Rel IsNumber part n := by
  cases part with
  | none =>
    rw [Option.mapM_none, Option.pure_def, Option.some_inj]
    constructor
    · rintro rfl
      exact .none
    · rintro ⟨⟩
      rfl
  | some digits =>
    rw [Option.mapM_some, Option.map_eq_map, Option.map_eq_some_iff]
    constructor
    · rintro ⟨m, hm, rfl⟩
      exact .some (number?_eq_some_iff.mp hm)
    · rintro ⟨⟩
      rename_i m hm
      exact ⟨m, number?_eq_some_iff.mpr hm, rfl⟩

/-- Every text ends in a part behind the first mark, or has no mark. -/
theorem exists_behind (mark : Char) (cs : List Char) :
    ∃ before part, cs = before ++ behind mark part ∧ mark ∉ before := by
  cases hsplit : Text.splitOnce [mark] cs with
  | none => exact ⟨cs, none, (List.append_nil cs).symm, Text.splitOnce_eq_none_iff.mp hsplit⟩
  | some parts =>
    obtain ⟨heq, hmark⟩ := Text.splitOnce_eq_some_iff.mp hsplit
    exact ⟨parts.1, some parts.2, heq, hmark⟩

theorem splitNumber?_behind {mark : Char} {before : List Char} (h : mark ∉ before)
    (part : Option (List Char)) :
    splitNumber? mark (before ++ behind mark part) = (part.mapM number?).map (before, ·) := by
  cases part with
  | none =>
    have hsplit : Text.splitOnce [mark] before = none := Text.splitOnce_eq_none_iff.mpr h
    show splitNumber? mark (before ++ []) = some (before, none)
    rw [List.append_nil, splitNumber?, hsplit]
  | some digits =>
    have hsplit : Text.splitOnce [mark] (before ++ mark :: digits) = some (before, digits) :=
      Text.splitOnce_eq_some_iff.mpr ⟨rfl, h⟩
    show splitNumber? mark (before ++ mark :: digits) = _
    rw [splitNumber?, hsplit, Option.mapM_some, Option.map_eq_map, Option.map_map]
    rfl

def ofGroups? (first : List Char) (stop count : Option (List Char)) : Option ScanRange := do
  return { start := ← number? first, stop := ← stop.mapM number?, count := ← count.mapM number? }

theorem ofGroups?_eq_some_iff {first : List Char} {stop count : Option (List Char)}
    {r : ScanRange} : ofGroups? first stop count = some r ↔ IsNumber first r.start ∧
      Option.Rel IsNumber stop r.stop ∧ Option.Rel IsNumber count r.count := by
  simp only [← number?_eq_some_iff, ← mapM_number?_eq_some_iff]
  obtain ⟨start, last, limit⟩ := r
  simp [ofGroups?, Option.bind_eq_some_iff]

theorem ofEntry?_eq {entry first : List Char} {stop count : Option (List Char)}
    (h : Text.trim entry = first ++ behind ':' stop ++ behind '+' count) (hfirst : ':' ∉ first)
    (hbounds : '+' ∉ first ++ behind ':' stop) : ofEntry? entry = ofGroups? first stop count := by
  unfold ofEntry? ofGroups?
  rw [h, splitNumber?_behind hbounds]
  -- the parts are read from the right here, and from the left among the groups
  cases count.mapM number? with
  | none => cases number? first <;> cases stop.mapM number? <;> rfl
  | some limit =>
    simp only [Option.map_some, Option.bind_eq_bind, Option.bind_some, splitNumber?_behind hfirst]
    cases stop.mapM number? with
    | none => cases number? first <;> rfl
    | some last => rfl

theorem IsNumber.notMem {digits : List Char} {n : Nat} (h : IsNumber digits n) {c : Char}
    (hc : c.isDigit = false) : c ∉ digits := by
  intro hmem
  rw [h.isDigit c hmem] at hc
  cases hc

theorem notMem_behind {mark c : Char} {part : Option (List Char)} (hne : c ≠ mark)
    (h : ∀ cs ∈ part, c ∉ cs) : c ∉ behind mark part := by
  cases part with
  | none => exact List.not_mem_nil
  | some cs =>
    intro hmem
    cases List.mem_cons.mp hmem with
    | inl heq => exact hne heq
    | inr hmem => exact h cs rfl hmem

theorem notMem_of_rel {part : Option (List Char)} {n : Option Nat}
    (h : Option.Rel IsNumber part n) {c : Char} (hc : c.isDigit = false) : ∀ cs ∈ part, c ∉ cs := by
  cases h with
  | none => exact fun cs hcs => absurd hcs (Option.not_mem_none cs)
  | some hn =>
    rintro cs ⟨⟩
    exact hn.notMem hc

/-- An entry counts just when it has the form of one, blanks around it aside. -/
theorem ofEntry?_eq_some_iff {entry : List Char} {r : ScanRange} :
    ofEntry? entry = some r ↔ IsEntry (Text.trim entry) r := by
  constructor
  · intro h
    obtain ⟨bounds, count, htext, hbounds⟩ := exists_behind '+' (Text.trim entry)
    obtain ⟨first, stop, rfl, hfirst⟩ := exists_behind ':' bounds
    rw [ofEntry?_eq htext hfirst hbounds] at h
    exact ⟨first, stop, count, htext, ofGroups?_eq_some_iff.mp h⟩
  · rintro ⟨first, stop, count, htext, hnumbers⟩
    have hstart : IsNumber first r.start := hnumbers.1
    have hbounds : '+' ∉ first ++ behind ':' stop := by
      rw [List.mem_append, not_or]
      exact ⟨hstart.notMem (by decide),
        notMem_behind (by decide) (notMem_of_rel hnumbers.2.1 (by decide))⟩
    rw [ofEntry?_eq htext (hstart.notMem (by decide)) hbounds]
    exact ofGroups?_eq_some_iff.mpr hnumbers

/-! ### The pattern of an entry -/

/-- One or more digits of any script. -/
def IsRun (cs : List Char) : Prop :=
  cs ≠ [] ∧ ∀ c ∈ cs, Pattern.Charset.digits.contains c.toNat = true

/-- A division of an entry into digits of any script, and two more runs of them behind their
marks. -/
structure Divides (text first : List Char) (stop count : Option (List Char)) : Prop where
  text_eq : text = first ++ behind ':' stop ++ behind '+' count
  first_isRun : IsRun first
  stop_isRun : ∀ cs ∈ stop, IsRun cs
  count_isRun : ∀ cs ∈ count, IsRun cs

def entryExpr : Pattern.Expr :=
  let run index := .group index (.repeated (.set .digits) 1 none true)
  let marked mark index := .repeated (.seq (.literal [mark]) (run index)) 0 (some 1) true
  .seq (run 1) (.seq (marked ':' 2) (marked '+' 3))

def entryPattern : Pattern := ⟨"(\\d+)(?::(\\d+))?(?:\\+(\\d+))?", .ofExpr entryExpr.anchored⟩

/-- The parts that a mark with a run behind it can leave in a text. -/
theorem mem_marked_iff {mark : Char} {L : Language Char} {w : List Char} :
    w ∈ 1 + {[mark]} * L ↔ ∃ part : Option (List Char), w = behind mark part ∧ ∀ cs ∈ part, cs ∈ L := by
  rw [Language.mem_add, Language.mem_one, Language.mem_mul]
  constructor
  · rintro (rfl | ⟨u, hu, v, hv, rfl⟩)
    · exact ⟨none, rfl, fun cs hcs => absurd hcs (Option.not_mem_none cs)⟩
    · obtain rfl : u = [mark] := hu
      refine ⟨some v, rfl, ?_⟩
      rintro cs ⟨⟩
      exact hv
  · rintro ⟨part, rfl, hpart⟩
    cases part with
    | none => exact .inl rfl
    | some cs => exact .inr ⟨[mark], rfl, cs, hpart cs rfl, rfl⟩

/-- The pattern matches what can be divided. -/
theorem isFullMatch_entryPattern_iff (text : List Char) :
    entryPattern.isFullMatch (String.ofList text) = true ↔
      ∃ first stop count, Divides text first stop count := by
  have hrun := fun index => Pattern.Expr.spells_group
    (Pattern.Expr.spells_repeated (Pattern.Expr.spells_set .digits) 1 true) index
  have hmarked := fun mark index => Pattern.Expr.spells_optional
    (Pattern.Expr.spells_seq (Pattern.Expr.spells_literal [mark]) (hrun index)) true
  have hspells : Pattern.Spells (fun text => entryExpr.Matches text) _ :=
    Pattern.Expr.spells_seq (hrun 1) (Pattern.Expr.spells_seq (hmarked ':' 2) (hmarked '+' 3))
  have hgroups : 0 ∉ entryExpr.groups := by decide
  apply (Pattern.fullMatch_anchored hgroups _ (String.ofList text)).1.trans
  rw [String.toList_ofList, Pattern.Expr.matches_all_iff hspells]
  have hmem : ∀ cs, cs ∈ Pattern.Charset.digits.letters ^ 1 * Pattern.Charset.digits.letters∗ ↔
    IsRun cs := fun _ => Pattern.Charset.mem_letters_runs_iff
  -- the language of a run is a product itself
  generalize Pattern.Charset.digits.letters ^ 1 * Pattern.Charset.digits.letters∗ = runs at hmem
  simp only [Language.mem_mul, mem_marked_iff, hmem]
  constructor
  · rintro ⟨first, hfirst, rest, ⟨_, ⟨stop, rfl, hstop⟩, _, ⟨count, rfl, hcount⟩, rfl⟩, rfl⟩
    exact ⟨first, stop, count, (List.append_assoc _ _ _).symm, hfirst, hstop, hcount⟩
  · rintro ⟨first, stop, count, rfl, hfirst, hstop, hcount⟩
    exact ⟨first, hfirst, _, ⟨_, ⟨stop, rfl, hstop⟩, _, ⟨count, rfl, hcount⟩, rfl⟩,
      (List.append_assoc _ _ _).symm⟩

theorem IsNumber.isRun {digits : List Char} {n : Nat} (h : IsNumber digits n) : IsRun digits := by
  refine ⟨h.nonempty, fun c hc => ?_⟩
  have hascii := List.all_eq_true.mp Pattern.Charset.digits_ascii.1
  exact hascii c (Decimal.Plain.mem_digits (h.isDigit c hc))

theorem isRun_of_rel {part : Option (List Char)} {n : Option Nat}
    (h : Option.Rel IsNumber part n) : ∀ cs ∈ part, IsRun cs := by
  cases h with
  | none => exact fun cs hcs => absurd hcs (Option.not_mem_none cs)
  | some hn =>
    rintro cs ⟨⟩
    exact hn.isRun

theorem IsRun.notMem {cs : List Char} (h : IsRun cs) {c : Char}
    (hc : Pattern.Charset.digits.contains c.toNat = false) : c ∉ cs := by
  intro hmem
  rw [h.2 c hmem] at hc
  cases hc

theorem ofEntry?_of_divides {entry first : List Char} {stop count : Option (List Char)}
    (h : Divides (Text.trim entry) first stop count) :
    ofEntry? entry = ofGroups? first stop count := by
  obtain ⟨-, hcolon, hplus⟩ := Pattern.Charset.digits_ascii
  refine ofEntry?_eq h.text_eq (h.first_isRun.notMem hcolon) ?_
  rw [List.mem_append, not_or]
  exact ⟨h.first_isRun.notMem hplus,
    notMem_behind (by decide) fun cs hcs => (h.stop_isRun cs hcs).notMem hplus⟩

/-- What does not match the pattern does not count. -/
theorem exists_divides_of_entry {entry : List Char} {r : ScanRange}
    (h : ofEntry? entry = some r) :
    ∃ first stop count, Divides (Text.trim entry) first stop count := by
  obtain ⟨first, stop, count, htext, hfirst, hstop, hcount⟩ := ofEntry?_eq_some_iff.mp h
  exact ⟨first, stop, count, htext, hfirst.isRun, isRun_of_rel hstop, isRun_of_rel hcount⟩

/-! ### Printing -/

def text (r : ScanRange) : List Char :=
  let digits (n : Nat) := (toString n).toList
  digits r.start ++ behind ':' (r.stop.map digits) ++ behind '+' (r.count.map digits)

structure Fits (r : ScanRange) : Prop where
  start : r.start < 2 ^ 64
  stop : ∀ n ∈ r.stop, n < 2 ^ 64
  count : ∀ n ∈ r.count, n < 2 ^ 64

theorem isNumber_toString {n : Nat} (h : n < 2 ^ 64) : IsNumber (toString n).toList n := by
  rw [Nat.toString_eq_repr, Nat.toList_repr]
  exact ⟨Nat.toDigits_ne_nil, fun c => Nat.isDigit_of_mem_toDigits (by decide) (by decide),
    Nat.ofDigitChars_toDigits (by decide) (by decide), h⟩

theorem rel_toString {part : Option Nat} (h : ∀ n ∈ part, n < 2 ^ 64) :
    Option.Rel IsNumber (part.map fun n => (toString n).toList) part := by
  cases part with
  | none => exact .none
  | some n => exact .some (isNumber_toString (h n rfl))

theorem isEntry_text {r : ScanRange} (h : r.Fits) : IsEntry r.text r :=
  ⟨_, _, _, rfl, isNumber_toString h.start, rel_toString h.stop, rel_toString h.count⟩

/-- The characters of an entry are digits and marks. -/
theorem IsEntry.notMem {text : List Char} {r : ScanRange} (h : IsEntry text r) {c : Char}
    (hdigit : c.isDigit = false) (hcolon : c ≠ ':') (hplus : c ≠ '+') : c ∉ text := by
  obtain ⟨first, stop, count, rfl, hfirst, hstop, hcount⟩ := h
  rw [List.mem_append, List.mem_append, not_or, not_or]
  exact ⟨⟨hfirst.notMem hdigit, notMem_behind hcolon (notMem_of_rel hstop hdigit)⟩,
    notMem_behind hplus (notMem_of_rel hcount hdigit)⟩

/-- A range as it can be printed in a list: with blanks around its text. -/
structure Padded where
  lead : List Char
  range : ScanRange
  trail : List Char
  lead_isBlank : ∀ c ∈ lead, isBlank c = true
  range_fits : range.Fits
  trail_isBlank : ∀ c ∈ trail, isBlank c = true

namespace Padded

def text (p : Padded) : List Char := p.lead ++ p.range.text ++ p.trail

theorem trim_text (p : Padded) : Text.trim p.text = p.range.text := by
  have hblank : ∀ c ∈ p.range.text, ¬ isBlank c = true := by
    intro c hc hblank
    have hdigit : c.isDigit = false := by
      rw [← Bool.not_eq_true]
      intro hdigit
      rw [Text.isBlank_of_isDigit hdigit] at hblank
      cases hblank
    refine (isEntry_text p.range_fits).notMem hdigit ?_ ?_ hc
    · rintro rfl
      exact absurd hblank (by decide)
    · rintro rfl
      exact absurd hblank (by decide)
  rw [text, Text.trim_append_right p.trail_isBlank, Text.trim_append_left p.lead_isBlank,
    Text.trim_eq_self hblank]

theorem ofEntry?_text (p : Padded) : ofEntry? p.text = some p.range := by
  rw [ofEntry?_eq_some_iff, p.trim_text]
  exact isEntry_text p.range_fits

theorem comma_notMem_text (p : Padded) : ',' ∉ p.text := by
  rw [text, List.mem_append, List.mem_append, not_or, not_or]
  refine ⟨⟨fun h => ?_, ?_⟩, fun h => ?_⟩
  · exact absurd (p.lead_isBlank ',' h) (by decide)
  · exact (isEntry_text p.range_fits).notMem (by decide) (by decide) (by decide)
  · exact absurd (p.trail_isBlank ',' h) (by decide)

end Padded

/-! ### Lists -/

/-- The ranges of the entries that count. -/
def counted (text : List Char) : List ScanRange := (Text.splitOn ',' text).filterMap ofEntry?

theorem counted_append (before after : List Char) :
    counted (before ++ ',' :: after) = counted before ++ counted after := by
  rw [counted, Text.splitOn_append, List.filterMap_append]
  rfl

theorem listOfText_eq (text : String) :
    listOfText text = if counted text.toList = [] then firstPath else counted text.toList := by
  unfold listOfText counted
  cases (Text.splitOn ',' text.toList).filterMap ofEntry? with
  | nil => rfl
  | cons r ranges => rfl

/-- What is printed is read back. -/
theorem listOfText_print {entries : List Padded} (hne : entries ≠ []) :
    listOfText (String.ofList ([','].intercalate (entries.map Padded.text))) =
      entries.map Padded.range := by
  have hcomma : ∀ text ∈ entries.map Padded.text, ',' ∉ text := by
    intro text htext
    obtain ⟨p, -, rfl⟩ := List.mem_map.mp htext
    exact p.comma_notMem_text
  have hcounted : counted ([','].intercalate (entries.map Padded.text)) =
      entries.map Padded.range := by
    have htexts : entries.map Padded.text ≠ [] := by simpa using hne
    rw [counted, Text.splitOn_intercalate htexts hcomma, List.filterMap_map]
    simp [Padded.ofEntry?_text]
  rw [listOfText_eq, String.toList_ofList, hcounted, if_neg (by simpa using hne)]

/-- The ranges of a text are those of the entries between its commas that have the form of one, and
the first path if no entry has. The form is what the pattern matches with digits of any script, and
what is left of that when its groups are read as numbers. Ranges that are printed, with any blanks
around them, are read back. -/
theorem listOfText_grammar :
    (∀ text : String,
      Text.join ',' (Text.splitOn ',' text.toList) = text.toList ∧
      (∀ entry ∈ Text.splitOn ',' text.toList, ',' ∉ entry) ∧
      (counted text.toList ≠ [] → listOfText text = counted text.toList) ∧
      (counted text.toList = [] →
        listOfText text = [{ start := 0, stop := none, count := some 1 }])) ∧
    (∀ before after, counted (before ++ ',' :: after) = counted before ++ counted after) ∧
    (∀ entry r, ofEntry? entry = some r ↔ IsEntry (Text.trim entry) r) ∧
    (∀ entry,
      (entryPattern.isFullMatch (String.ofList (Text.trim entry)) = false →
        ofEntry? entry = none) ∧
      (entryPattern.isFullMatch (String.ofList (Text.trim entry)) = true →
        ∃ first stop count, Divides (Text.trim entry) first stop count) ∧
      ∀ first stop count, Divides (Text.trim entry) first stop count →
        ofEntry? entry = ofGroups? first stop count) ∧
    ∀ entries : List Padded, entries ≠ [] →
      listOfText (String.ofList ([','].intercalate (entries.map Padded.text))) =
        entries.map Padded.range := by
  refine ⟨fun text => ⟨Text.join_splitOn ',' text.toList, ?_, ?_, ?_⟩, counted_append,
    fun entry r => ofEntry?_eq_some_iff, fun entry => ⟨?_, ?_, ?_⟩,
    fun entries hne => listOfText_print hne⟩
  · intro entry hentry
    exact Text.sep_notMem_of_mem_splitOn hentry
  · intro hcounted
    rw [listOfText_eq, if_neg hcounted]
  · intro hcounted
    rw [listOfText_eq, if_pos hcounted]
    rfl
  · intro hmatch
    rw [Option.eq_none_iff_forall_ne_some]
    intro r hr
    rw [(isFullMatch_entryPattern_iff _).mpr (exists_divides_of_entry hr)] at hmatch
    cases hmatch
  · exact (isFullMatch_entryPattern_iff _).mp
  · intro first stop count hdivides
    exact ofEntry?_of_divides hdivides

theorem listOfText_grammar_bounds :
    listOfText " 26:100+2\t,18446744073709551615" =
      [{ start := 26, stop := some 100, count := some 2 }, { start := 2 ^ 64 - 1 }] ∧
    listOfText "x,18446744073709551616" = [{ start := 0, stop := none, count := some 1 }] := by
  obtain ⟨hlist, -, -, -, hprint⟩ := listOfText_grammar
  let padded : Padded :=
    { lead := [' ']
      range := { start := 26, stop := some 100, count := some 2 }
      trail := ['\t']
      lead_isBlank := List.forall_mem_singleton.mpr rfl
      range_fits := ⟨by decide, by simp, by simp⟩
      trail_isBlank := List.forall_mem_singleton.mpr rfl }
  let greatest : Padded :=
    { lead := []
      range := { start := 2 ^ 64 - 1 }
      trail := []
      lead_isBlank := List.forall_mem_nil _
      range_fits := ⟨by decide, by simp, by simp⟩
      trail_isBlank := List.forall_mem_nil _ }
  have htext : " 26:100+2\t,18446744073709551615" =
      String.ofList ([','].intercalate ([padded, greatest].map Padded.text)) := by
    decide +kernel
  rw [htext, hprint [padded, greatest] (List.cons_ne_nil _ _)]
  exact ⟨rfl, (hlist "x,18446744073709551616").2.2.2 (by decide +kernel)⟩

end ScanRange

end PathTiming
