import PathTiming.Proofs.LabelShape
import PathTiming.Proofs.WordBoundary

/-! What a rules file answers for a cell arc and for a cell that drives. The last line about exactly
this arc or cell decides, although arcs are stored under their joined pin names, and although drive
strengths come from two kinds of lines. -/
namespace PathTiming

/-! ### Joined pin names -/

theorem CellArc.eq_iff {arc other : CellArc} : arc = other ↔
    arc.cell = other.cell ∧ arc.pinIn = other.pinIn ∧ arc.pinOut = other.pinOut := by
  cases arc
  cases other
  simp

structure CellArc.ColonFree (arc : CellArc) : Prop where
  pinIn : ':' ∉ arc.pinIn.toList
  pinOut : ':' ∉ arc.pinOut.toList

/-- The first colon tells the pins of such an arc apart, and the name of any other arc differs. -/
theorem CellArc.pins_eq_iff {arc : CellArc} (h : arc.ColonFree) (other : CellArc) :
    arc.pins = other.pins ↔ arc.pinIn = other.pinIn ∧ arc.pinOut = other.pinOut := by
  constructor
  · intro hpins
    have hlists : arc.pinIn.toList ++ ':' :: arc.pinOut.toList =
        other.pinIn.toList ++ ':' :: other.pinOut.toList := by
      have hlists := congrArg String.toList hpins
      simpa [pins, String.toList_append] using hlists
    have hsame : arc.pinIn.toList = other.pinIn.toList ∧
        arc.pinOut.toList = other.pinOut.toList := by
      rcases List.append_eq_append_iff.mp hlists with ⟨more, hin, hout⟩ | ⟨more, hin, hout⟩
      · cases more with
        | nil => simpa using And.intro hin.symm hout
        | cons c more =>
          have hcolon : ':' ∈ arc.pinOut.toList := by
            rw [List.tail_eq_of_cons_eq hout]
            simp
          exact absurd hcolon h.pinOut
      · cases more with
        | nil => simpa using And.intro hin hout.symm
        | cons c more =>
          have hcolon : ':' ∈ arc.pinIn.toList := by
            rw [hin, ← List.head_eq_of_cons_eq hout]
            simp
          exact absurd hcolon h.pinIn
    exact ⟨String.toList_inj.mp hsame.1, String.toList_inj.mp hsame.2⟩
  · rintro ⟨hin, hout⟩
    rw [pins, pins, hin, hout]

namespace HoldChecks

theorem tag?_insert (t : HoldChecks) (arc other : CellArc) (label : String) :
    (t.insert arc label).tag? other =
      if arc.cell = other.cell ∧ arc.pins = other.pins then some label else t.tag? other := by
  unfold tag? insert
  rw [Keyed.get?_alter]
  by_cases hcell : arc.cell = other.cell
  · rw [if_pos hcell, Option.bind_some, Keyed.get?_insert, hcell]
    by_cases hpins : arc.pins = other.pins
    · rw [if_pos hpins, if_pos ⟨rfl, hpins⟩]
    · rw [if_neg hpins, if_neg fun h => hpins h.2]
      cases t.cells.get? other.cell <;> rfl
  · rw [if_neg hcell, if_neg fun h => hcell h.1]

/-- The labels that declarations set one after another. -/
def ofDeclarations (decls : List (CellArc × String)) : HoldChecks :=
  decls.foldl (fun t decl => t.insert decl.1 decl.2) {}

/-- An arc has the label that is declared last for exactly this arc. -/
theorem tag?_ofDeclarations {decls : List (CellArc × String)}
    (h : ∀ decl ∈ decls, decl.1.ColonFree) (arc : CellArc) :
    (ofDeclarations decls).tag? arc = Keyed.lastValue? decls arc := by
  induction decls using List.reverseRecOn with
  | nil => rfl
  | append_singleton decls decl ih =>
    have hfree : decl.1.ColonFree := h decl (by simp)
    have hsame : decl.1.cell = arc.cell ∧ decl.1.pins = arc.pins ↔ decl.1 = arc := by
      rw [CellArc.pins_eq_iff hfree]
      exact CellArc.eq_iff.symm
    have hdecls := ih fun other hother => h other (List.mem_append_left _ hother)
    unfold ofDeclarations at hdecls ⊢
    rw [List.foldl_append, List.foldl_cons, List.foldl_nil, tag?_insert, Keyed.lastValue?_concat,
      hdecls]
    exact if_congr hsame rfl rfl

end HoldChecks

/-! ### What single lines say -/

namespace Text

theorem trim_subset (cs : List Char) : trim cs ⊆ cs := by
  intro c hc
  have hstart : c ∈ trimStart cs :=
    List.mem_reverse.mp ((List.dropWhile_sublist _).subset (List.mem_reverse.mp hc))
  exact (List.dropWhile_sublist _).subset hstart

theorem subset_of_mem_words {word cs : List Char} (h : word ∈ words cs) : word ⊆ cs := by
  obtain ⟨t, ht, rfl⟩ := List.mem_map.mp h
  exact (spelled_tokens cs).subset_of_mem ht

end Text

namespace RuleEntry

/-- A line has one colon only, which stands before its value. -/
theorem colon_notMem_of_valueUnder? {key line value : String}
    (h : valueUnder? key line = some value) : ':' ∉ value.toList := by
  unfold valueUnder? valueOf? at h
  split_ifs at h
  split at h
  · rename_i hpieces
    rw [← Option.some.inj h, String.toList_ofList]
    intro hcolon
    exact Text.sep_notMem_of_mem_splitOn (by rw [hpieces]; simp) (Text.trim_subset _ hcolon)
  · cases h

theorem notMem_of_mem_wordsOf {c : Char} {cs : List Char} (h : c ∉ cs) {word : String}
    (hword : word ∈ wordsOf cs) : c ∉ word.toList := by
  obtain ⟨w, hw, rfl⟩ := List.mem_map.mp hword
  rw [String.toList_ofList]
  exact fun hc => h (Text.subset_of_mem_words hw hc)

theorem Labels.colonFree {value : List Char} {arc : CellArc} {tag : String}
    (h : Labels value arc tag) (hcolon : ':' ∉ value) : arc.ColonFree := by
  cases h with
  | word hquote hwords =>
    constructor
    · exact notMem_of_mem_wordsOf hcolon (by rw [hwords]; simp)
    · exact notMem_of_mem_wordsOf hcolon (by rw [hwords]; simp)
  | quoted h =>
    obtain ⟨head, rfl, -, hwords⟩ := h.divided
    have hhead : ':' ∉ head := fun hc => hcolon (List.mem_append_left _ hc)
    constructor
    · exact notMem_of_mem_wordsOf hhead (by rw [hwords]; simp)
    · exact notMem_of_mem_wordsOf hhead (by rw [hwords]; simp)

def DeclaresLabel (arc : CellArc) (line tag : String) : Prop :=
  ∃ value, valueUnder? "hcd" line = some value ∧ Labels value.toList arc tag

/-- A line lists a cell with its drive strength; words behind them do not count. -/
def ListsDrive (cell line : String) (strength : Float) : Prop :=
  ∃ number rest, wordsUnder? "dc" line = some (number :: cell :: rest) ∧ number ≠ "r" ∧
    Decimal.float? number.toList = some strength

/-- A line gives the pattern that finds drive strengths in the names of cells. -/
def GivesDrivePattern (line : String) (pattern : Pattern) : Prop :=
  ∃ source rest, wordsUnder? "dc" line = some ("r" :: source :: rest) ∧
    Pattern.compile source = .ok pattern

def holdCheck? : RuleEntry → Option (CellArc × String)
  | .holdCheck arc tag => some (arc, tag)
  | _ => none

def driveCell? : RuleEntry → Option (String × Float)
  | .driveCell cell strength => some (cell, strength)
  | _ => none

def drivePattern? : RuleEntry → Option Pattern
  | .drivePattern pattern => some pattern
  | _ => none

theorem bind_holdCheck?_eq_some_iff (line : String) (arc : CellArc) (tag : String) :
    (entryOf? line).bind holdCheck? = some (arc, tag) ↔ DeclaresLabel arc line tag := by
  have hkey : ∀ entry a, holdCheck? entry = some a → entry.key = "hcd" := by
    intro entry a h
    cases entry with
    | holdCheck => rfl
    | _ => cases h
  rw [bind_entryOf? hkey, Option.bind_eq_some_iff]
  refine exists_congr fun value => and_congr_right fun _ => ?_
  have hread : ofKeyValue "hcd" value.toList = readHoldCheck value.toList := rfl
  rw [hread]
  constructor
  · intro h
    obtain ⟨entry, hentry, hselect⟩ := Option.bind_eq_some_iff.mp h
    cases hvalue : readHoldCheck value.toList with
    | error cause =>
      rw [hvalue] at hentry
      cases hentry
    | ok read =>
      obtain ⟨arc', tag', rfl, hlabels⟩ := readHoldCheck_eq_ok_iff.mp hvalue
      rw [hvalue] at hentry
      cases hentry
      cases hselect
      exact hlabels
  · intro h
    rw [h.readHoldCheck]
    rfl

/-- A rule with this key selects something of the words of its line. -/
theorem bind_entryOf?_eq_some_iff {α : Type} {key line : String} {select : RuleEntry → Option α}
    {a : α} (OfWords : List String → Prop)
    (hselect : ∀ entry a, select entry = some a → entry.key = key)
    (hwords : ∀ value : String, (ofKeyValue key value.toList).toOption.bind select = some a ↔
      OfWords ((Text.words value.toList).map String.ofList)) :
    (entryOf? line).bind select = some a ↔
      ∃ words, wordsUnder? key line = some words ∧ OfWords words := by
  rw [bind_entryOf? hselect, Option.bind_eq_some_iff, wordsUnder?]
  constructor
  · rintro ⟨value, hvalue, h⟩
    exact ⟨_, by rw [hvalue]; rfl, (hwords value).mp h⟩
  · rintro ⟨words, hline, h⟩
    obtain ⟨value, hvalue, rfl⟩ := Option.map_eq_some_iff.mp hline
    exact ⟨value, hvalue, (hwords value).mpr h⟩

theorem driveCell?_readDrive_iff (words : List String) (cell : String) (strength : Float) :
    (readDrive words).toOption.bind driveCell? = some (cell, strength) ↔
      ∃ number rest, words = number :: cell :: rest ∧ number ≠ "r" ∧
        Decimal.float? number.toList = some strength := by
  constructor
  · intro h
    obtain ⟨entry, hentry, hselect⟩ := Option.bind_eq_some_iff.mp h
    cases hread : readDrive words with
    | error cause =>
      rw [hread] at hentry
      cases hentry
    | ok read =>
      rw [hread] at hentry
      cases hentry
      unfold readDrive at hread
      split at hread
      · rename_i number second rest
        split_ifs at hread with hr
        · obtain ⟨p, -, hp⟩ := ok_of_bind hread
          cases hp
          cases hselect
        · split at hread
          · rename_i hnumber
            cases hread
            cases hselect
            exact ⟨number, rest, rfl, hr, hnumber⟩
          · cases hread
      · cases hread
  · rintro ⟨number, rest, rfl, hr, hnumber⟩
    rw [readDrive, if_neg hr, hnumber]
    rfl

theorem drivePattern?_readDrive_iff (words : List String) (pattern : Pattern) :
    (readDrive words).toOption.bind drivePattern? = some pattern ↔
      ∃ source rest, words = "r" :: source :: rest ∧ Pattern.compile source = .ok pattern := by
  constructor
  · intro h
    obtain ⟨entry, hentry, hselect⟩ := Option.bind_eq_some_iff.mp h
    cases hread : readDrive words with
    | error cause =>
      rw [hread] at hentry
      cases hentry
    | ok read =>
      rw [hread] at hentry
      cases hentry
      unfold readDrive at hread
      split at hread
      · rename_i first source rest
        split_ifs at hread with hr
        · subst hr
          obtain ⟨p, hpattern, hp⟩ := ok_of_bind hread
          cases hp
          cases hselect
          refine ⟨source, rest, rfl, ?_⟩
          unfold RuleEntry.pattern at hpattern
          cases hcompile : Pattern.compile source with
          | error cause =>
            rw [hcompile] at hpattern
            cases hpattern
          | ok q =>
            rw [hcompile] at hpattern
            exact congrArg Except.ok (Except.ok.inj hpattern)
        · split at hread <;> cases hread
          cases hselect
      · cases hread
  · rintro ⟨source, rest, rfl, hcompile⟩
    rw [readDrive, if_pos rfl, RuleEntry.pattern, hcompile]
    rfl

theorem bind_driveCell?_eq_some_iff (line cell : String) (strength : Float) :
    (entryOf? line).bind driveCell? = some (cell, strength) ↔ ListsDrive cell line strength := by
  have hkey : ∀ entry a, driveCell? entry = some a → entry.key = "dc" := by
    intro entry a h
    cases entry with
    | driveCell => rfl
    | _ => cases h
  rw [bind_entryOf?_eq_some_iff (fun words => ∃ number rest, words = number :: cell :: rest ∧
    number ≠ "r" ∧ Decimal.float? number.toList = some strength) hkey
    fun value => driveCell?_readDrive_iff _ cell strength]
  constructor
  · rintro ⟨_, hline, number, rest, rfl, hnumber⟩
    exact ⟨number, rest, hline, hnumber⟩
  · rintro ⟨number, rest, hline, hnumber⟩
    exact ⟨_, hline, number, rest, rfl, hnumber⟩

theorem bind_drivePattern?_eq_some_iff (line : String) (pattern : Pattern) :
    (entryOf? line).bind drivePattern? = some pattern ↔ GivesDrivePattern line pattern := by
  have hkey : ∀ entry a, drivePattern? entry = some a → entry.key = "dc" := by
    intro entry a h
    cases entry with
    | drivePattern => rfl
    | _ => cases h
  rw [bind_entryOf?_eq_some_iff (fun words => ∃ source rest, words = "r" :: source :: rest ∧
    Pattern.compile source = .ok pattern) hkey
    fun value => drivePattern?_readDrive_iff _ pattern]
  constructor
  · rintro ⟨_, hline, source, rest, rfl, hcompile⟩
    exact ⟨source, rest, hline, hcompile⟩
  · rintro ⟨source, rest, hline, hcompile⟩
    exact ⟨_, hline, source, rest, rfl, hcompile⟩

end RuleEntry

/-! ### What all lines say -/

/-- The drive strength that a pattern finds in the name of a cell: the number in its first group. -/
def groupStrength? (pattern : Pattern) (cell : String) : Option Float := do
  let groups ← pattern.captures cell
  let group ← groups[1]?
  Decimal.float? (← group).toList

theorem DriveRules.strength?_eq (r : DriveRules) (cell : String) :
    r.strength? cell = (r.cells.get? cell).or (r.pattern.bind (groupStrength? · cell)) := by
  unfold strength?
  cases r.cells.get? cell with
  | some value => rfl
  | none =>
    cases r.pattern <;> rfl

namespace RuleSet
open RuleEntry (entryOf? DeclaresLabel ListsDrive GivesDrivePattern)

section
variable {f : SourceFile} {rules : RuleSet} {warnings : List Diagnostic}

theorem holdCheck?_of_ofFile (h : ofFile f = .ok (rules, warnings)) (arc : CellArc) :
    rules.holdCheck? arc.cell arc.pinIn arc.pinOut =
      Keyed.lastValue? (f.lines.filterMap fun line =>
        (entryOf? line).bind RuleEntry.holdCheck?) arc := by
  have hpart := part_of_ofFile (·.holdChecks) RuleEntry.holdCheck?
    (fun t decl => t.insert decl.1 decl.2)
    (fun r entry => by cases entry <;> rfl) (fun _ _ => rfl) h
  have hfree : ∀ decl ∈ f.lines.filterMap (fun line =>
      (entryOf? line).bind RuleEntry.holdCheck?), decl.1.ColonFree := by
    rintro ⟨other, tag⟩ hdecl
    obtain ⟨line, -, hline⟩ := List.mem_filterMap.mp hdecl
    obtain ⟨value, hvalue, hlabels⟩ :=
      (RuleEntry.bind_holdCheck?_eq_some_iff line other tag).mp hline
    exact hlabels.colonFree (RuleEntry.colon_notMem_of_valueUnder? hvalue)
  rw [holdCheck?, hpart]
  exact HoldChecks.tag?_ofDeclarations hfree arc

theorem driveCells_of_ofFile (h : ofFile f = .ok (rules, warnings)) (cell : String) :
    rules.drive.cells.get? cell = Keyed.lastValue? (f.lines.filterMap fun line =>
      (entryOf? line).bind RuleEntry.driveCell?) cell := by
  have hpart := part_of_ofFile (·.drive.cells) RuleEntry.driveCell?
    (fun t decl => t.insert decl.1 decl.2)
    (fun r entry => by cases entry <;> rfl) (fun _ _ => rfl) h
  rw [hpart]
  exact Keyed.get?_ofDeclarations _ cell

theorem drivePattern_of_ofFile (h : ofFile f = .ok (rules, warnings)) :
    rules.drive.pattern = (f.lines.filterMap fun line =>
      (entryOf? line).bind RuleEntry.drivePattern?).getLast? := by
  have hpart := part_of_ofFile (·.drive.pattern) RuleEntry.drivePattern?
    (fun _ pattern => some pattern)
    (fun r entry => by cases entry <;> rfl) (fun _ _ => rfl) h
  rw [hpart, foldl_last]
  generalize List.getLast? _ = last
  cases last <;> rfl

/-- The label of an arc is the last one declared. -/
theorem holdCheck?_eq_iff (h : ofFile f = .ok (rules, warnings)) (arc : CellArc) :
    (∀ tag, rules.holdCheck? arc.cell arc.pinIn arc.pinOut = some tag ↔
      LastGives (DeclaresLabel arc) f.lines tag) ∧
    (rules.holdCheck? arc.cell arc.pinIn arc.pinOut = none ↔
      ∀ line ∈ f.lines, ∀ tag, ¬ DeclaresLabel arc line tag) := by
  have hline : ∀ line tag, (((entryOf? line).bind RuleEntry.holdCheck?).bind fun decl =>
      if decl.1 = arc then some decl.2 else none) = some tag ↔ DeclaresLabel arc line tag := by
    intro line tag
    rw [← RuleEntry.bind_holdCheck?_eq_some_iff, Keyed.bind_key_eq_some_iff]
  rw [holdCheck?_of_ofFile h, Keyed.lastValue?_filterMap]
  exact ⟨getLast?_filterMap_eq_some_iff hline, getLast?_filterMap_eq_none_iff hline⟩

/-- The drive strength that is listed last for a cell counts before any pattern. -/
theorem strength?_eq_iff (h : ofFile f = .ok (rules, warnings)) (cell : String) :
    (∀ strength, LastGives (ListsDrive cell) f.lines strength →
      rules.drive.strength? cell = some strength) ∧
    ((∀ line ∈ f.lines, ∀ strength, ¬ ListsDrive cell line strength) →
      (∀ pattern, LastGives GivesDrivePattern f.lines pattern →
        rules.drive.strength? cell = groupStrength? pattern cell) ∧
      ((∀ line ∈ f.lines, ∀ pattern, ¬ GivesDrivePattern line pattern) →
        rules.drive.strength? cell = none)) := by
  have hcell : ∀ line strength, (((entryOf? line).bind RuleEntry.driveCell?).bind fun decl =>
      if decl.1 = cell then some decl.2 else none) = some strength ↔
        ListsDrive cell line strength := by
    intro line strength
    rw [← RuleEntry.bind_driveCell?_eq_some_iff, Keyed.bind_key_eq_some_iff]
  have hcells := driveCells_of_ofFile h cell
  rw [Keyed.lastValue?_filterMap] at hcells
  have hpattern := drivePattern_of_ofFile h
  rw [DriveRules.strength?_eq, hcells, hpattern]
  refine ⟨fun strength hlast => ?_, fun hunlisted => ?_⟩
  · rw [(getLast?_filterMap_eq_some_iff hcell strength).mpr hlast]
    rfl
  · rw [(getLast?_filterMap_eq_none_iff hcell).mpr hunlisted, Option.none_or]
    refine ⟨fun pattern hlast => ?_, fun hno => ?_⟩
    · rw [(getLast?_filterMap_eq_some_iff RuleEntry.bind_drivePattern?_eq_some_iff pattern).mpr
        hlast]
      rfl
    · rw [(getLast?_filterMap_eq_none_iff RuleEntry.bind_drivePattern?_eq_some_iff).mpr hno]
      rfl

/-- No line declares an arc with a colon in the name of a pin. -/
theorem not_declaresLabel_of_colon {arc : CellArc}
    (h : ':' ∈ arc.pinIn.toList ∨ ':' ∈ arc.pinOut.toList) (line tag : String) :
    ¬ DeclaresLabel arc line tag := by
  rintro ⟨value, hvalue, hlabels⟩
  have hfree := hlabels.colonFree (RuleEntry.colon_notMem_of_valueUnder? hvalue)
  rcases h with h | h
  · exact hfree.pinIn h
  · exact hfree.pinOut h

end

/-- The label of an arc is the one that the last line about exactly this arc declares; names of pins
with a colon, by which arcs could be mistaken for each other, find none. The drive strength of a
cell is the one that the last line about exactly this cell lists, wherever patterns are given, and
otherwise what the last pattern finds in its name. -/
theorem ofFile_last_declarations {f : SourceFile} {rules : RuleSet} {warnings : List Diagnostic}
    (h : ofFile f = .ok (rules, warnings)) :
    (∀ cell pinIn pinOut,
      (∀ tag, rules.holdCheck? cell pinIn pinOut = some tag ↔
        LastGives (DeclaresLabel ⟨cell, pinIn, pinOut⟩) f.lines tag) ∧
      (rules.holdCheck? cell pinIn pinOut = none ↔
        ∀ line ∈ f.lines, ∀ tag, ¬ DeclaresLabel ⟨cell, pinIn, pinOut⟩ line tag) ∧
      (':' ∈ pinIn.toList ∨ ':' ∈ pinOut.toList → rules.holdCheck? cell pinIn pinOut = none)) ∧
    ∀ cell,
      (∀ strength, LastGives (ListsDrive cell) f.lines strength →
        rules.drive.strength? cell = some strength) ∧
      ((∀ line ∈ f.lines, ∀ strength, ¬ ListsDrive cell line strength) →
        (∀ pattern, LastGives GivesDrivePattern f.lines pattern →
          rules.drive.strength? cell = groupStrength? pattern cell) ∧
        ((∀ line ∈ f.lines, ∀ pattern, ¬ GivesDrivePattern line pattern) →
          rules.drive.strength? cell = none)) := by
  refine ⟨fun cell pinIn pinOut => ?_, strength?_eq_iff h⟩
  obtain ⟨hsome, hnone⟩ := holdCheck?_eq_iff h ⟨cell, pinIn, pinOut⟩
  refine ⟨hsome, hnone, fun hcolon => hnone.mpr fun line _ tag => ?_⟩
  exact not_declaresLabel_of_colon hcolon line tag

/-- Rules with an arc that is labelled twice, and a cell that is listed before a pattern for it. -/
def lookupRules : SourceFile :=
  firstRules ("hcd: ICG CK GCK gate\ndc: 9 BUFX4\ndc: r BUFX([0-9])\n" ++
    "hcd: ICG CK GCK \"late gate\"\nhcd: ICG E GCK other\n")

theorem values_lookupRules : (ofFile lookupRules).toOption.map (·.2) = some [] ∧
    lookupRules.lines = ["hcd: ICG CK GCK gate", "dc: 9 BUFX4", "dc: r BUFX([0-9])",
      "hcd: ICG CK GCK \"late gate\"", "hcd: ICG E GCK other"] ∧
    lookupRules.lines.map (RuleEntry.wordsUnder? "dc") =
      [none, some ["9", "BUFX4"], some ["r", "BUFX([0-9])"], none, none] := by
  rw [lookupRules, firstRules, SourceFile.ofText_append rfl rfl]
  decide +kernel

/-- The pattern of the rules takes the strength of a cell from its name. -/
theorem exists_pattern_lookupRules : ∃ pattern, Pattern.compile "BUFX([0-9])" = .ok pattern ∧
    groupStrength? pattern "BUFX8" = some 8 := by
  have hstrength : (Pattern.compile "BUFX([0-9])").toOption.map (groupStrength? · "BUFX8") =
      some (some 8) := by
    decide +kernel
  exact ok_of_toOption_map hstrength

theorem ofFile_last_declarations_lookup :
    ∃ rules, ofFile lookupRules = .ok (rules, []) ∧
      rules.holdCheck? "ICG" "CK" "GCK" = some "late gate" ∧
      rules.holdCheck? "ICG" "CK:GCK" "" = none ∧
      rules.drive.strength? "BUFX4" = some 9 ∧
      rules.drive.strength? "BUFX8" = some 8 := by
  obtain ⟨hsilent, hlines, hwords⟩ := values_lookupRules
  rw [hlines] at hwords
  obtain ⟨-, hlisted, hgiven, hfourth, hfifth⟩ : _ ∧ _ ∧ _ ∧ _ ∧ _ := by
    simpa using hwords
  obtain ⟨⟨rules, warnings⟩, hf, rfl⟩ := ok_of_toOption_map hsilent
  obtain ⟨harcs, hdrive⟩ := ofFile_last_declarations hf
  rw [hlines] at harcs hdrive
  refine ⟨rules, hf, ?_, ?_, ?_, ?_⟩
  · have hlate : DeclaresLabel ⟨"ICG", "CK", "GCK"⟩ "hcd: ICG CK GCK \"late gate\"" "late gate" :=
      (RuleEntry.bind_holdCheck?_eq_some_iff _ _ _).mp (by decide +kernel)
    have hother : (entryOf? "hcd: ICG E GCK other").bind RuleEntry.holdCheck? =
        some (⟨"ICG", "E", "GCK"⟩, "other") := by
      decide +kernel
    refine ((harcs "ICG" "CK" "GCK").1 "late gate").mpr
      ⟨["hcd: ICG CK GCK gate", "dc: 9 BUFX4", "dc: r BUFX([0-9])"], _, _, rfl, hlate, ?_⟩
    intro later hlater tag htag
    rw [List.mem_singleton.mp hlater, ← RuleEntry.bind_holdCheck?_eq_some_iff, hother] at htag
    simp at htag
  · exact (harcs "ICG" "CK:GCK" "").2.2 (.inl (by decide +kernel))
  · have hstrength : Decimal.float? "9".toList = some 9 := by decide +kernel
    refine (hdrive "BUFX4").1 9 ⟨["hcd: ICG CK GCK gate"], _, _, rfl,
      ⟨_, _, hlisted, by decide, hstrength⟩, ?_⟩
    rintro later hlater other ⟨number, rest, hline, hnumber, -⟩
    have hwords : RuleEntry.wordsUnder? "dc" later ∈
        [some ["r", "BUFX([0-9])"], none, none] := by
      have hmem := List.mem_map_of_mem (f := RuleEntry.wordsUnder? "dc") hlater
      rwa [List.map_cons, List.map_cons, List.map_singleton, hgiven, hfourth, hfifth] at hmem
    rw [hline] at hwords
    have hcell : "BUFX4" = "BUFX([0-9])" := by simp_all
    exact absurd hcell (by decide)
  · have hunlisted : ∀ line ∈ ["hcd: ICG CK GCK gate", "dc: 9 BUFX4", "dc: r BUFX([0-9])",
        "hcd: ICG CK GCK \"late gate\"", "hcd: ICG E GCK other"], ∀ strength,
        ¬ ListsDrive "BUFX8" line strength := by
      rintro line hmem strength ⟨number, rest, hline, -, -⟩
      have hwords : RuleEntry.wordsUnder? "dc" line ∈
          [none, some ["9", "BUFX4"], some ["r", "BUFX([0-9])"], none, none] := by
        rw [← hwords]
        exact List.mem_map_of_mem hmem
      rw [hline] at hwords
      simp at hwords
    obtain ⟨pattern, hpattern, height⟩ := exists_pattern_lookupRules
    rw [← height]
    refine ((hdrive "BUFX8").2 hunlisted).1 pattern
      ⟨["hcd: ICG CK GCK gate", "dc: 9 BUFX4"], _, _, rfl, ⟨_, _, hgiven, hpattern⟩, ?_⟩
    rintro later hlater other ⟨source, rest, hline, -⟩
    have hwords : RuleEntry.wordsUnder? "dc" later ∈ [none, none] := by
      have hmem := List.mem_map_of_mem (f := RuleEntry.wordsUnder? "dc") hlater
      rwa [List.map_cons, List.map_singleton, hfourth, hfifth] at hmem
    rw [hline] at hwords
    simp at hwords

end RuleSet

end PathTiming
