import PathTiming.Analysis.Metric
import PathTiming.Proofs.LineIndex
import PathTiming.Proofs.ParsedPath
import PathTiming.Proofs.RuleLines

/-! A table of quantities can be read back: no field holds a blank or a newline, so each line divides
into its fields at single blanks. -/
namespace PathTiming

namespace Text

theorem splitOn_intercalate {sep : Char} {fields : List (List Char)} (hne : fields ≠ [])
    (h : ∀ field ∈ fields, sep ∉ field) : splitOn sep ([sep].intercalate fields) = fields := by
  induction fields with
  | nil => exact absurd rfl hne
  | cons field rest ih =>
    have hfield := h field List.mem_cons_self
    cases rest with
    | nil =>
      rw [List.intercalate_singleton]
      exact splitOn_of_notMem hfield
    | cons next rest =>
      have hrest := ih (List.cons_ne_nil next rest) fun g hg => h g (List.mem_cons_of_mem field hg)
      rw [List.intercalate_cons_cons, List.append_assoc, List.singleton_append,
        splitOn_append_sep hfield, hrest]

/-! ### Texts without blanks -/

theorem BlankFree.notMem {s : String} (h : BlankFree s) {c : Char}
    (hc : Unicode.isBlank c = true) : c ∉ s.toList := by
  intro hmem
  rw [h c hmem] at hc
  cases hc

theorem BlankFree.append {s t : String} (hs : BlankFree s) (ht : BlankFree t) :
    BlankFree (s ++ t) := by
  intro c hc
  rw [String.toList_append] at hc
  exact (List.mem_append.mp hc).elim (hs c) (ht c)

theorem blankFree_ofList {cs : List Char} (h : ∀ c ∈ cs, Unicode.isBlank c = false) :
    BlankFree (String.ofList cs) := by
  intro c hc
  rw [String.toList_ofList] at hc
  exact h c hc

theorem isBlank_of_isDigit {c : Char} (h : c.isDigit = true) : Unicode.isBlank c = false := by
  have hrange : 48 ≤ c.toNat ∧ c.toNat ≤ 57 := by
    simpa [Char.isDigit, UInt32.le_iff_toNat_le] using h
  simp [Unicode.isBlank]
  omega

theorem blankFree_toString (n : Nat) : BlankFree (toString n) := by
  intro c hc
  rw [Nat.toString_eq_repr, Nat.toList_repr] at hc
  exact isBlank_of_isDigit (Nat.isDigit_of_mem_toDigits (by decide) (by decide) hc)

/-- A line of fields without blanks divides into them. -/
theorem splitOn_row {fields : List String} (hne : fields ≠ [])
    (h : ∀ field ∈ fields, BlankFree field) :
    splitOn ' ' (String.intercalate " " fields).toList = fields.map String.toList := by
  rw [String.toList_intercalate]
  refine splitOn_intercalate (by simpa using hne) fun field hfield => ?_
  obtain ⟨text, htext, rfl⟩ := List.mem_map.mp hfield
  exact (h text htext).notMem rfl

theorem newline_notMem_row {fields : List String} (h : ∀ field ∈ fields, BlankFree field) :
    '\n' ∉ (String.intercalate " " fields).toList := by
  induction fields with
  | nil => simp
  | cons field rest ih =>
    have hfield := (h field List.mem_cons_self).notMem (c := '\n') rfl
    have hrest := ih fun g hg => h g (List.mem_cons_of_mem field hg)
    cases rest with
    | nil => simpa using hfield
    | cons next rest =>
      rw [String.intercalate_cons_cons, String.toList_append, String.toList_append]
      simp only [List.mem_append, not_or]
      exact ⟨⟨hfield, by decide⟩, hrest⟩

theorem lines_ofLines {texts : List String} (hne : texts ≠ [])
    (h : ∀ text ∈ texts, '\n' ∉ text.toList) :
    lines (ofLines texts).toList = texts.map String.toList := by
  have hjoin : (ofLines texts).toList = (texts.map String.toList).flatMap (· ++ ['\n']) := by
    unfold ofLines
    clear h hne
    induction texts with
    | nil => rfl
    | cons text rest ih => simp [ih]
  rw [hjoin]
  refine lines_flatMap_newline (by simpa using hne) fun piece hpiece => ?_
  obtain ⟨text, htext, rfl⟩ := List.mem_map.mp hpiece
  exact h text htext

end Text

namespace Decimal
open Text (BlankFree)

theorem blankFree_zeros (n : Nat) : BlankFree (zeros n) := by
  refine Text.blankFree_ofList fun c hc => ?_
  rw [List.eq_of_mem_replicate hc]
  rfl

theorem blankFree_withPoint {digits : String} (h : BlankFree digits) (places : Nat) :
    BlankFree (withPoint digits places) := by
  have hpadded : BlankFree (zeros (places + 1 - digits.length) ++ digits) :=
    (blankFree_zeros _).append h
  have hpoint : BlankFree "." := by decide
  refine (BlankFree.append ?_ hpoint).append ?_
  · exact Text.blankFree_ofList fun c hc => hpadded c (List.mem_of_mem_take hc)
  · exact Text.blankFree_ofList fun c hc => hpadded c (List.mem_of_mem_drop hc)

theorem Scientific.blankFree_positional (s : Scientific) : BlankFree s.positional := by
  have hdigits := Text.blankFree_toString s.digits
  unfold positional
  dsimp only
  split_ifs
  · exact hdigits
  · exact hdigits.append (blankFree_zeros _)
  · exact blankFree_withPoint hdigits _

theorem blankFree_signed {text : String} (h : BlankFree text) (negative : Bool) :
    BlankFree (signed negative text) := by
  have hminus : BlankFree "-" := by decide
  unfold signed
  split_ifs
  · exact hminus.append h
  · exact h

theorem blankFree_plain (x : Float) : BlankFree (plain x) := by
  unfold plain
  split
  · decide
  · exact blankFree_signed (by decide) _
  · exact blankFree_signed (Scientific.blankFree_positional _) _

end Decimal

/-! ### Fields -/

namespace TimingPath
variable {p : TimingPath}

theorem NamesBlankFree.startName (h : p.NamesBlankFree) : Text.BlankFree p.startName := by
  unfold TimingPath.startName clockPin?
  cases hpin : p.clockPinAt.bind (p.launchPins[·]?) with
  | none => exact h.startpoint
  | some pin =>
    obtain ⟨i, -, hi⟩ := Option.bind_eq_some_iff.mp hpin
    exact h.pins pin (List.mem_append_left _ (List.mem_of_getElem? hi))

theorem NamesBlankFree.endName (h : p.NamesBlankFree) : Text.BlankFree p.endName := by
  unfold TimingPath.endName
  cases hpin : p.launchPins.getLast? with
  | none => exact h.endpoint
  | some pin => exact h.pins pin (List.mem_append_left _ (List.mem_of_getLast? hpin))

end TimingPath

namespace Metric

theorem blankFree_display {p : TimingPath} (h : p.NamesBlankFree) (m : Metric) (rules : RuleSet) :
    Text.BlankFree (m.value p rules).display := by
  cases m with
  | line => exact Text.blankFree_toString p.line
  | startpoint => exact h.startName
  | endpoint => exact h.endName
  | _ => exact Decimal.blankFree_plain _

theorem blankFree_toUpper_code (m : Metric) : Text.BlankFree m.code.toUpper := by
  cases m <;> decide +kernel

/-! ### Columns -/

/-- What one code stands for among the columns of a table. -/
inductive Expands : String → List Metric → Prop
  | group : Expands latencyGroup
      [launchSourceLatency, captureSourceLatency, launchBodyLatency, captureBodyLatency]
  | line : Expands line.code []
  | single {m : Metric} (hm : m ≠ .line) : Expands m.code [m]

def IsColumnCode (code : String) : Prop := code = latencyGroup ∨ ∃ m : Metric, m.code = code

theorem ofCode?_code (m : Metric) : ofCode? m.code = some m := by
  cases m <;> decide

theorem ofCode?_eq_some_iff {code : String} {m : Metric} :
    ofCode? code = some m ↔ m.code = code := by
  constructor
  · intro h
    simpa using List.find?_some h
  · rintro rfl
    exact ofCode?_code m

theorem code_ne_latencyGroup (m : Metric) : m.code ≠ latencyGroup := by
  cases m <;> decide

theorem expand_code (m : Metric) : expand m.code = .ok (if m = line then [] else [m]) := by
  unfold expand
  rw [if_neg (code_ne_latencyGroup m), ofCode?_code]
  cases m <;> rfl

theorem exists_expand {code : String} (h : IsColumnCode code) : ∃ ms, expand code = .ok ms := by
  rcases h with rfl | ⟨m, rfl⟩
  · exact ⟨_, rfl⟩
  · exact ⟨_, expand_code m⟩

theorem expand_of_not_isColumnCode {code : String} (h : ¬ IsColumnCode code) :
    expand code = .error code := by
  have hnone : ofCode? code = none := by
    cases hm : ofCode? code with
    | none => rfl
    | some m => exact absurd (.inr ⟨m, ofCode?_eq_some_iff.mp hm⟩) h
  unfold expand
  rw [if_neg fun hg => h (.inl hg), hnone]

theorem Expands.isColumnCode {code : String} {ms : List Metric} (h : Expands code ms) :
    IsColumnCode code := by
  cases h with
  | group => exact .inl rfl
  | line => exact .inr ⟨.line, rfl⟩
  | @single m hm => exact .inr ⟨m, rfl⟩

theorem expand_eq_ok_iff {code : String} {ms : List Metric} :
    expand code = .ok ms ↔ Expands code ms := by
  constructor
  · intro h
    by_cases hcode : IsColumnCode code
    · rcases hcode with rfl | ⟨m, rfl⟩
      · cases h
        exact .group
      · rw [expand_code] at h
        split_ifs at h with hm
        · cases h
          rw [hm]
          exact .line
        · cases h
          exact .single hm
    · rw [expand_of_not_isColumnCode hcode] at h
      cases h
  · intro h
    cases h with
    | group => rfl
    | line => rfl
    | single hm => rw [expand_code, if_neg hm]

theorem expand_eq_error_iff {code e : String} :
    expand code = .error e ↔ e = code ∧ ¬ IsColumnCode code := by
  constructor
  · intro h
    by_cases hcode : IsColumnCode code
    · rcases hcode with rfl | ⟨m, rfl⟩
      · cases h
      · rw [expand_code] at h
        cases h
    · rw [expand_of_not_isColumnCode hcode] at h
      cases h
      exact ⟨rfl, hcode⟩
  · rintro ⟨rfl, hcode⟩
    exact expand_of_not_isColumnCode hcode

theorem Expands.line_notMem {code : String} {ms : List Metric} (h : Expands code ms) :
    Metric.line ∉ ms := by
  cases h with
  | group => decide
  | line => exact List.not_mem_nil
  | single hm => simpa using hm.symm

section
variable {codes : List String} {groups : List (List Metric)}

theorem isColumnCode_of_expands (h : List.Forall₂ Expands codes groups) :
    ∀ code ∈ codes, IsColumnCode code := by
  induction h with
  | nil => exact fun code hcode => absurd hcode List.not_mem_nil
  | cons hcode hrest ih => exact List.forall_mem_cons.mpr ⟨hcode.isColumnCode, ih⟩

theorem line_notMem_of_expands (h : List.Forall₂ Expands codes groups) :
    line ∉ groups.flatten := by
  induction h with
  | nil => exact List.not_mem_nil
  | cons hcode hrest ih =>
    rw [List.flatten_cons, List.mem_append]
    exact fun hmem => hmem.elim hcode.line_notMem ih

end

theorem columns_eq_ok_iff {codes : List String} {cs : List Metric} :
    columns codes = .ok cs ↔ ∃ groups, List.Forall₂ Expands codes groups ∧
      cs = line :: groups.flatten ∧ line ∉ groups.flatten := by
  have hgroups : ∀ groups, codes.mapM expand = .ok groups ↔ List.Forall₂ Expands codes groups := by
    intro groups
    simp only [mapM_eq_ok_iff, expand_eq_ok_iff]
  unfold columns
  constructor
  · intro h
    cases hm : codes.mapM expand with
    | error e =>
      rw [hm] at h
      cases h
    | ok groups =>
      rw [hm] at h
      cases h
      have hforall := (hgroups groups).mp hm
      exact ⟨groups, hforall, rfl, line_notMem_of_expands hforall⟩
  · rintro ⟨groups, h, rfl, -⟩
    rw [(hgroups groups).mpr h]
    rfl

theorem columns_eq_error_iff {codes : List String} {e : String} :
    columns codes = .error e ↔ ∃ before after, codes = before ++ e :: after ∧
      (∀ code ∈ before, IsColumnCode code) ∧ ¬ IsColumnCode e := by
  have herror : columns codes = .error e ↔ codes.mapM expand = .error e := by
    unfold columns
    cases codes.mapM expand <;> simp [bind, Except.bind, pure, Except.pure]
  have hok : ∀ code, (∃ ms, expand code = .ok ms) ↔ IsColumnCode code := by
    intro code
    by_cases hcode : IsColumnCode code
    · exact ⟨fun _ => hcode, fun _ => exists_expand hcode⟩
    · simp [expand_of_not_isColumnCode hcode, hcode]
  rw [herror, mapM_eq_error_iff]
  constructor
  · rintro ⟨before, code, after, rfl, hbefore, he⟩
    obtain ⟨rfl, hcode⟩ := expand_eq_error_iff.mp he
    exact ⟨before, after, rfl, fun c hc => (hok c).mp (hbefore c hc), hcode⟩
  · rintro ⟨before, after, rfl, hbefore, hcode⟩
    exact ⟨before, e, after, rfl, fun c hc => (hok c).mpr (hbefore c hc),
      expand_of_not_isColumnCode hcode⟩

theorem exists_columns_iff (codes : List String) :
    (∃ cs, columns codes = .ok cs) ↔ ∀ code ∈ codes, IsColumnCode code := by
  constructor
  · rintro ⟨cs, hcs⟩
    obtain ⟨groups, hgroups, -⟩ := columns_eq_ok_iff.mp hcs
    exact isColumnCode_of_expands hgroups
  · intro hall
    cases h : columns codes with
    | ok cs => exact ⟨cs, rfl⟩
    | error e =>
      obtain ⟨before, after, rfl, -, he⟩ := columns_eq_error_iff.mp h
      exact absurd (hall e (by simp)) he

/-- The columns that a table can have: the default ones, or those of some codes. -/
def IsColumns (cs : List Metric) : Prop := cs = defaultColumns ∨ ∃ codes, columns codes = .ok cs

theorem IsColumns.ne_nil {cs : List Metric} (h : IsColumns cs) : cs ≠ [] := by
  rcases h with rfl | ⟨codes, h⟩
  · exact List.cons_ne_nil _ _
  · obtain ⟨groups, -, rfl, -⟩ := columns_eq_ok_iff.mp h
    exact List.cons_ne_nil _ _

end Metric

/-! ### Tables -/

namespace Report

section
variable {r : Report} {cs : List Metric}

theorem blankFree_codes (cs : List Metric) :
    ∀ field ∈ cs.map (·.code.toUpper), Text.BlankFree field := by
  intro field hfield
  obtain ⟨m, -, rfl⟩ := List.mem_map.mp hfield
  exact m.blankFree_toUpper_code

theorem blankFree_fields {p : TimingPath} (h : p.NamesBlankFree) (rules : RuleSet)
    (cs : List Metric) :
    ∀ field ∈ cs.map (fun m => (m.value p rules).display), Text.BlankFree field := by
  intro field hfield
  obtain ⟨m, -, rfl⟩ := List.mem_map.mp hfield
  exact m.blankFree_display h rules

theorem lines_metricTable (h : ∀ p ∈ r.paths, p.NamesBlankFree) (cs : List Metric) :
    Text.lines (Text.ofLines (r.metricTable cs)).toList = (r.metricTable cs).map String.toList := by
  refine Text.lines_ofLines (List.cons_ne_nil _ _) fun text htext => ?_
  rcases List.mem_cons.mp htext with rfl | htext
  · exact Text.newline_notMem_row (blankFree_codes cs)
  · obtain ⟨p, hp, rfl⟩ := List.mem_map.mp htext
    exact Text.newline_notMem_row (blankFree_fields (h p hp) r.rules cs)

end

end Report

end PathTiming
