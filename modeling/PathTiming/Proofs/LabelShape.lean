import PathTiming.Proofs.RuleTables

/-! The shapes in which a rules file gives the label of a cell arc. The label is a word, or a text
between quotation marks. A mark that is missing at the end, or a text behind it, is not noticed. -/
namespace PathTiming

namespace RuleEntry

def wordsOf (cs : List Char) : List String := (Text.words cs).map String.ofList

/-- Three words name an arc, and behind a quotation mark comes a label without another one. The
text that is left is empty or begins with the next mark. -/
structure Quoted (value : List Char) (arc : CellArc) (label rest : List Char) : Prop where
  divided : ∃ head, value = head ++ '"' :: (label ++ rest) ∧ '"' ∉ head ∧
    wordsOf head = [arc.cell, arc.pinIn, arc.pinOut]
  unquoted : '"' ∉ label
  closed : ∀ c ∈ rest.head?, c = '"'

/-- An arc with its label: four words, or three words and a text between two quotation marks, the
second of which is the end. -/
inductive IsLabelledArc (value : List Char) : CellArc → String → Prop
  | word {arc : CellArc} {label : String} (hquote : '"' ∉ value)
      (hwords : wordsOf value = [arc.cell, arc.pinIn, arc.pinOut, label]) :
      IsLabelledArc value arc label
  | quoted {arc : CellArc} {label : List Char} (h : Quoted value arc label ['"']) :
      IsLabelledArc value arc (String.ofList label)

/-- A value that is read as an arc with its label: four words, or three words and a text behind a
quotation mark, up to the next mark or the end. -/
inductive Labels (value : List Char) : CellArc → String → Prop
  | word {arc : CellArc} {label : String} (hquote : '"' ∉ value)
      (hwords : wordsOf value = [arc.cell, arc.pinIn, arc.pinOut, label]) : Labels value arc label
  | quoted {arc : CellArc} {label rest : List Char} (h : Quoted value arc label rest) :
      Labels value arc (String.ofList label)

/-- The label has no mark at its end, or there is some text behind that mark. -/
def IsLoose (value : List Char) : Prop :=
  ∃ arc label rest, Quoted value arc label rest ∧ rest ≠ ['"']

section
variable {value : List Char} {arc : CellArc} {label rest : List Char}

theorem readHoldCheck_of_quoted (h : Quoted value arc label rest) :
    readHoldCheck value = .ok (.holdCheck arc (String.ofList label)) := by
  obtain ⟨head, rfl, hhead, hwords⟩ := h.divided
  have hsplit : ∃ more, Text.splitOn '"' (label ++ rest) = label :: more := by
    cases rest with
    | nil =>
      rw [List.append_nil]
      exact ⟨[], Text.splitOn_of_notMem h.unquoted⟩
    | cons c rest =>
      obtain rfl : c = '"' := h.closed c rfl
      exact ⟨_, Text.splitOn_append_sep h.unquoted rest⟩
  obtain ⟨more, hmore⟩ := hsplit
  unfold wordsOf at hwords
  rw [readHoldCheck, Text.splitOn_append_sep hhead, hmore]
  dsimp only
  rw [hwords]

theorem readHoldCheck_of_word {tag : String} (hquote : '"' ∉ value)
    (hwords : wordsOf value = [arc.cell, arc.pinIn, arc.pinOut, tag]) :
    readHoldCheck value = .ok (.holdCheck arc tag) := by
  unfold wordsOf at hwords
  rw [readHoldCheck, Text.splitOn_of_notMem hquote]
  dsimp only
  rw [hwords]

/-- The text from the first mark on divides into a label and what is left. -/
theorem exists_label (after : List Char) : ∃ label rest more, after = label ++ rest ∧
    '"' ∉ label ∧ (∀ c ∈ rest.head?, c = '"') ∧ Text.splitOn '"' after = label :: more := by
  by_cases hquote : '"' ∈ after
  · obtain ⟨label, rest, rfl, hlabel⟩ := List.eq_append_cons_of_mem hquote
    refine ⟨label, '"' :: rest, Text.splitOn '"' rest, rfl, hlabel, ?_,
      Text.splitOn_append_sep hlabel rest⟩
    intro c hc
    exact (Option.some.inj hc).symm
  · exact ⟨after, [], [], by simp, hquote, by simp, Text.splitOn_of_notMem hquote⟩

theorem Labels.readHoldCheck {tag : String} (h : Labels value arc tag) :
    readHoldCheck value = .ok (.holdCheck arc tag) := by
  cases h with
  | word hquote hwords => exact readHoldCheck_of_word hquote hwords
  | quoted h => exact readHoldCheck_of_quoted h

/-- Nothing else is read. -/
theorem labels_or_error (value : List Char) :
    (∃ arc tag, Labels value arc tag) ∨ RuleEntry.readHoldCheck value = .error .holdCheckShape := by
  by_cases hquote : '"' ∈ value
  · obtain ⟨head, after, rfl, hhead⟩ := List.eq_append_cons_of_mem hquote
    obtain ⟨label, rest, more, rfl, hlabel, hrest, hmore⟩ := exists_label after
    rw [readHoldCheck, Text.splitOn_append_sep hhead, hmore]
    dsimp only
    split
    · rename_i cell pinIn pinOut _ _ hwords hpieces
      have hquoted : Quoted (head ++ '"' :: (label ++ rest)) ⟨cell, pinIn, pinOut⟩ label rest :=
        ⟨⟨head, rfl, hhead, hwords⟩, hlabel, hrest⟩
      exact .inl ⟨_, _, .quoted hquoted⟩
    · rename_i hpieces
      cases hpieces
    · exact .inr rfl
  · rw [readHoldCheck, Text.splitOn_of_notMem hquote]
    dsimp only
    split
    · rename_i hpieces
      cases hpieces
    · rename_i cell pinIn pinOut tag hwords _
      exact .inl ⟨⟨cell, pinIn, pinOut⟩, tag, .word hquote hwords⟩
    · exact .inr rfl

theorem readHoldCheck_eq_ok_iff {entry : RuleEntry} : RuleEntry.readHoldCheck value = .ok entry ↔
    ∃ arc tag, entry = .holdCheck arc tag ∧ Labels value arc tag := by
  constructor
  · intro hentry
    rcases labels_or_error value with ⟨arc, tag, h⟩ | herror
    · rw [h.readHoldCheck] at hentry
      exact ⟨arc, tag, (Except.ok.inj hentry).symm, h⟩
    · rw [herror] at hentry
      cases hentry
  · rintro ⟨arc, tag, rfl, h⟩
    exact h.readHoldCheck

/-- What stands before the first mark is told by the text, whatever comes behind. -/
theorem eq_of_append_eq {left left' right right' : List Char} (h : left ++ right = left' ++ right')
    (hleft : '"' ∉ left) (hleft' : '"' ∉ left') (hright : ∀ c ∈ right.head?, c = '"')
    (hright' : ∀ c ∈ right'.head?, c = '"') : left = left' ∧ right = right' := by
  have hstop : ∀ (cs more : List Char), '"' ∉ cs → (∀ c ∈ more.head?, c = '"') →
      (cs ++ more).takeWhile (· != '"') = cs := by
    intro cs more hcs hmore
    have hnone : more.takeWhile (· != '"') = [] := by
      cases more with
      | nil => rfl
      | cons c more => simp [hmore c rfl]
    have hall : ∀ c ∈ cs, (c != '"') = true := by
      intro c hc
      rw [bne_iff_ne]
      rintro rfl
      exact hcs hc
    rw [List.takeWhile_append_of_pos hall, hnone, List.append_nil]
  have heq : left = left' := by
    rw [← hstop left right hleft hright, h, hstop left' right' hleft' hright']
  subst heq
  exact ⟨rfl, List.append_cancel_left h⟩

/-- A value is divided in one way. -/
theorem Quoted.rest_eq {arc' : CellArc} {label' rest' : List Char} (h : Quoted value arc label rest)
    (h' : Quoted value arc' label' rest') : rest = rest' := by
  obtain ⟨head, hvalue, hhead, -⟩ := h.divided
  obtain ⟨head', hvalue', hhead', -⟩ := h'.divided
  have hmark : ∀ (cs : List Char), ∀ c ∈ ('"' :: cs).head?, c = '"' := by
    intro cs c hc
    exact (Option.some.inj hc).symm
  obtain ⟨-, hbehind⟩ :=
    eq_of_append_eq (hvalue.symm.trans hvalue') hhead hhead' (hmark _) (hmark _)
  have hlabels := List.tail_eq_of_cons_eq hbehind
  exact (eq_of_append_eq hlabels h.unquoted h'.unquoted h.closed h'.closed).2

theorem Quoted.mem_value (h : Quoted value arc label rest) : '"' ∈ value := by
  obtain ⟨head, rfl, -, -⟩ := h.divided
  simp

theorem IsLabelledArc.not_isLoose {tag : String} (h : IsLabelledArc value arc tag) :
    ¬ IsLoose value := by
  rintro ⟨arc', label', rest', hquoted, hrest⟩
  cases h with
  | word hquote hwords => exact hquote hquoted.mem_value
  | quoted h => exact hrest (hquoted.rest_eq h)

theorem IsLabelledArc.labels {tag : String} (h : IsLabelledArc value arc tag) :
    Labels value arc tag := by
  cases h with
  | word hquote hwords => exact .word hquote hwords
  | quoted h => exact .quoted h

theorem readHoldCheck_of_not (hnone : ∀ arc tag, ¬ IsLabelledArc value arc tag)
    (hloose : ¬ IsLoose value) : RuleEntry.readHoldCheck value = .error .holdCheckShape := by
  rcases labels_or_error value with ⟨arc, tag, h⟩ | herror
  · cases h with
    | word hquote hwords => exact absurd (.word hquote hwords) (hnone arc tag)
    | @quoted label rest h =>
      by_cases hrest : rest = ['"']
      · subst hrest
        exact absurd (.quoted h) (hnone arc (String.ofList label))
      · exact absurd ⟨arc, label, rest, h, hrest⟩ hloose
  · exact herror

end

/-- A line with this key is read by its value. -/
theorem ofLine?_of_holdCheck {line value : String} (hkey : keyOf? line = some "hcd")
    (hvalue : valueOf? line = some value) :
    ofLine? line = (readHoldCheck value.toList).map some :=
  ofLine?_of_keyOf? hkey hvalue

end RuleEntry

namespace RuleSet
open RuleEntry (keyOf? valueOf? readHoldCheck IsLabelledArc Quoted IsLoose)

theorem ofFile_of_holdCheckShape {f : SourceFile} {before after : List String} {line value : String}
    (hlines : f.lines = before ++ line :: after)
    (hbefore : ∀ earlier ∈ before, ∃ outcome, ofText earlier = .ok outcome)
    (hkey : keyOf? line = some "hcd") (hvalue : valueOf? line = some value)
    (hshape : readHoldCheck value.toList = .error .holdCheckShape) :
    ofFile f = .error (.fault (before.length + 1) .holdCheckShape) := by
  have hmem : line ∈ f.lines := by simp [hlines]
  have hfault : RuleEntry.faultOf? line = some .holdCheckShape := by
    rw [RuleEntry.faultOf?, RuleEntry.ofLine?_of_holdCheck hkey hvalue, hshape]
    rfl
  refine (ofFile_eq_error_iff f _).mpr
    ⟨before, line, after, .holdCheckShape, hlines, hbefore, ?_, rfl⟩
  exact (ofText_eq_error_iff (notMem_newline_of_mem_lines hmem) _).mpr ⟨_, hfault, rfl⟩

/-- An arc with its label is read as it is written, and every other value is a fault at its line,
but for those with a loose quotation mark: the label is then the text up to the next mark or the
end. So what is read are the labelled arcs exactly if no mark is loose. -/
theorem readHoldCheck_shapes (value : List Char) :
    (∀ arc tag, IsLabelledArc value arc tag → readHoldCheck value = .ok (.holdCheck arc tag)) ∧
      (∀ arc label rest, Quoted value arc label rest →
        readHoldCheck value = .ok (.holdCheck arc (String.ofList label))) ∧
      (((∃ entry, readHoldCheck value = .ok entry) ↔ ∃ arc tag, IsLabelledArc value arc tag) ↔
        ¬ IsLoose value) ∧
      ((∀ arc tag, ¬ IsLabelledArc value arc tag) → ¬ IsLoose value →
        readHoldCheck value = .error .holdCheckShape ∧
        ∀ (f : SourceFile) before line after, f.lines = before ++ line :: after →
          (∀ earlier ∈ before, ∃ outcome, ofText earlier = .ok outcome) →
          keyOf? line = some "hcd" → valueOf? line = some (String.ofList value) →
          ofFile f = .error (.fault (before.length + 1) .holdCheckShape)) := by
  refine ⟨fun arc tag h => h.labels.readHoldCheck,
    fun arc label rest => RuleEntry.readHoldCheck_of_quoted,
    ⟨?_, ?_⟩, ?_⟩
  · rintro hexact ⟨arc, label, rest, hquoted, hrest⟩
    obtain ⟨arc', tag, hlabelled⟩ := hexact.mp ⟨_, RuleEntry.readHoldCheck_of_quoted hquoted⟩
    exact hlabelled.not_isLoose ⟨arc, label, rest, hquoted, hrest⟩
  · intro hloose
    constructor
    · rintro ⟨entry, hentry⟩
      by_contra hnone
      have hnone : ∀ arc tag, ¬ IsLabelledArc value arc tag :=
        fun arc tag h => hnone ⟨arc, tag, h⟩
      rw [RuleEntry.readHoldCheck_of_not hnone hloose] at hentry
      cases hentry
    · rintro ⟨arc, tag, h⟩
      exact ⟨_, h.labels.readHoldCheck⟩
  · intro hnone hloose
    have hshape := RuleEntry.readHoldCheck_of_not hnone hloose
    refine ⟨hshape, fun f before line after hlines hbefore hkey hvalue => ?_⟩
    apply ofFile_of_holdCheckShape hlines hbefore hkey hvalue
    rw [String.toList_ofList]
    exact hshape

/-- A value with a blank in its label, and one with three words and no label. -/
theorem readHoldCheck_shapes_quotedLabel :
    readHoldCheck "LATCH G Q\"latch through\"".toList =
        .ok (.holdCheck ⟨"LATCH", "G", "Q"⟩ "latch through") ∧
      ofFile (firstRules "dpc: A\nhcd: LATCH G Q\n") = .error (.fault 2 .holdCheckShape) := by
  have hquoted : Quoted "LATCH G Q\"latch through\"".toList ⟨"LATCH", "G", "Q"⟩
      "latch through".toList ['"'] :=
    ⟨⟨"LATCH G Q".toList, by decide +kernel, by decide +kernel, by decide +kernel⟩,
      by decide +kernel, fun c hc => (Option.some.inj hc).symm⟩
  have hlabelled := (readHoldCheck_shapes "LATCH G Q\"latch through\"".toList).1 _ _
    (.quoted hquoted)
  obtain ⟨-, -, -, hfault⟩ := readHoldCheck_shapes "LATCH G Q".toList
  have hnone : ∀ arc tag, ¬ IsLabelledArc "LATCH G Q".toList arc tag := by
    intro arc tag h
    cases h with
    | word hquote hwords =>
      have hthree : RuleEntry.wordsOf "LATCH G Q".toList = ["LATCH", "G", "Q"] := by
        decide +kernel
      have hlength : 3 = 4 := congrArg List.length (hthree.symm.trans hwords)
      omega
    | quoted h => exact absurd h.mem_value (by decide +kernel)
  have hloose : ¬ IsLoose "LATCH G Q".toList := by
    rintro ⟨arc, label, rest, h, -⟩
    exact absurd h.mem_value (by decide +kernel)
  refine ⟨hlabelled, (hfault hnone hloose).2 _ ["dpc: A"] "hcd: LATCH G Q" [] (by decide +kernel)
    ?_ (by decide +kernel) (by decide +kernel)⟩
  intro earlier hearlier
  rw [List.mem_singleton.mp hearlier]
  exact ⟨_, rfl⟩

/-- A word behind a quoted label is passed over. -/
theorem looseMark_accepted :
    (∀ arc tag, ¬ IsLabelledArc "ICG CK GCK \"gate\" late".toList arc tag) ∧
      readHoldCheck "ICG CK GCK \"gate\" late".toList =
        .ok (.holdCheck ⟨"ICG", "CK", "GCK"⟩ "gate") ∧
      ((ofFile (firstRules "hcd: ICG CK GCK \"gate\" late\n")).toOption.bind fun outcome =>
        outcome.1.holdCheck? "ICG" "CK" "GCK") = some "gate" := by
  have hquoted : Quoted "ICG CK GCK \"gate\" late".toList ⟨"ICG", "CK", "GCK"⟩ "gate".toList
      "\" late".toList :=
    ⟨⟨"ICG CK GCK ".toList, by decide +kernel, by decide +kernel, by decide +kernel⟩,
      by decide +kernel, fun c hc => (Option.some.inj hc).symm⟩
  have hloose : IsLoose "ICG CK GCK \"gate\" late".toList :=
    ⟨_, _, _, hquoted, by decide⟩
  exact ⟨fun arc tag h => h.not_isLoose hloose, RuleEntry.readHoldCheck_of_quoted hquoted,
    by decide +kernel⟩

end RuleSet

end PathTiming
