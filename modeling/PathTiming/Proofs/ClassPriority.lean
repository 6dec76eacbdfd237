import Mathlib.Data.List.Find
import PathTiming.Proofs.RuleTables

/-! Which class or type a rules file gives to a name. Among classes the first declaration decides on
the place and the last one on the pattern. Among types of clock cells the first line that matches
decides. -/
namespace PathTiming

namespace ClassTable

/-- A table answers as declarations say: it holds each class once, in the order of the first
declarations, with the pattern of its last one, and names the first class that matches. -/
structure DeclaredBy (table : ClassTable) (decls : List (String × Pattern)) : Prop where
  keys : table.keys = (decls.map (·.1)).eraseDups
  nodup : table.keys.Nodup
  pattern : ∀ tag, table.get? tag = Keyed.lastValue? decls tag
  firstMatch : ∀ text, table.firstMatch? text =
    (decls.map (·.1)).eraseDups.find? fun tag =>
      (Keyed.lastValue? decls tag).any (·.isFullMatch text)

/-- The first class that matches is found among the keys. -/
theorem firstMatch?_eq_find?_keys {table : ClassTable} (h : table.keys.Nodup) (text : String) :
    table.firstMatch? text =
      table.keys.find? fun tag => (table.get? tag).any (·.isFullMatch text) := by
  have hentry : ∀ entry ∈ table.entries, entry.2.isFullMatch text =
      (table.get? entry.1).any (·.isFullMatch text) := by
    intro entry hmem
    have hget : table.get? entry.1 = some entry.2 :=
      (Keyed.get?_eq_some_iff_mem h entry.1 entry.2).mpr hmem
    rw [hget, Option.any_some]
  rw [firstMatch?, List.find?_congr hentry, Keyed.keys, List.find?_map]
  rfl

theorem declaredBy_ofDeclarations (decls : List (String × Pattern)) :
    DeclaredBy (Keyed.ofDeclarations decls) decls := by
  have hnodup := Keyed.nodup_keys_ofDeclarations decls
  constructor
  · exact Keyed.keys_ofDeclarations decls
  · exact hnodup
  · exact Keyed.get?_ofDeclarations decls
  · intro text
    rw [firstMatch?_eq_find?_keys hnodup, Keyed.keys_ofDeclarations]
    simp only [Keyed.get?_ofDeclarations]

end ClassTable

namespace RuleEntry

/-- The class that two words declare: a name and a pattern. -/
def classOfWords? : List String → Option (String × Pattern)
  | [tag, source] => (Pattern.compile source).toOption.map (tag, ·)
  | _ => none

def classUnder? (key line : String) : Option (String × Pattern) :=
  (wordsUnder? key line).bind classOfWords?

def clockTypeWord? (word : String) : Option Bool :=
  if Unicode.toLower word = "y" then some true
  else if Unicode.toLower word = "n" then some false
  else none

/-- What two words say of the type of cells: yes or no, and a pattern. -/
def clockTypeOfWords? : List String → Option ClockTypeRule
  | [word, source] =>
    (clockTypeWord? word).bind fun isClock => (Pattern.compile source).toOption.map (⟨isClock, ·⟩)
  | _ => none

def clockTypeOf? (line : String) : Option ClockTypeRule :=
  (wordsUnder? "ckt" line).bind clockTypeOfWords?

def TypesCell (line : String) (isClock : Bool) (cell : String) : Prop :=
  ∃ rule, clockTypeOf? line = some rule ∧ rule.isClock = isClock ∧
    rule.pattern.isFullMatch cell = true

instance (line : String) (isClock : Bool) (cell : String) :
    Decidable (TypesCell line isClock cell) :=
  decidable_of_iff ((clockTypeOf? line).any fun rule =>
      rule.isClock = isClock && rule.pattern.isFullMatch cell) <| by
    simp [TypesCell, Option.any_eq_true]

def pathClass? : RuleEntry → Option (String × Pattern)
  | .pathClass tag pattern => some (tag, pattern)
  | _ => none

def cellClass? : RuleEntry → Option (String × Pattern)
  | .cellClass tag pattern => some (tag, pattern)
  | _ => none

def clockType? : RuleEntry → Option ClockTypeRule
  | .clockType rule => some rule
  | _ => none

theorem classUnder?_of_ne {key line : String} (h : keyOf? line ≠ some key) :
    classUnder? key line = none := by
  rw [classUnder?, wordsUnder?, valueUnder?_of_ne h]
  rfl

theorem clockTypeOf?_of_ne {line : String} (h : keyOf? line ≠ some "ckt") :
    clockTypeOf? line = none := by
  rw [clockTypeOf?, wordsUnder?, valueUnder?_of_ne h]
  rfl

theorem toOption_pattern (source : String) :
    (pattern source).toOption = (Pattern.compile source).toOption := by
  unfold pattern
  cases Pattern.compile source <;> rfl

/-- Whatever rule is made of a class, its words are those of the class. -/
theorem toOption_readClass {key : String} {make : String → Pattern → RuleEntry}
    {select : RuleEntry → Option (String × Pattern)}
    (hselect : ∀ tag pattern, select (make tag pattern) = some (tag, pattern))
    (words : List String) :
    (readClass key make words).toOption.bind select = classOfWords? words := by
  unfold readClass
  split
  · rename_i tag source
    rw [classOfWords?, ← toOption_pattern]
    cases pattern source with
    | error cause => rfl
    | ok p => exact hselect tag p
  · rename_i hshape
    unfold classOfWords?
    split
    · exact absurd rfl (hshape _ _)
    · rfl

theorem toOption_readClockType (words : List String) :
    (readClockType words).toOption.bind clockType? = clockTypeOfWords? words := by
  unfold readClockType
  split
  · rename_i word source
    rw [clockTypeOfWords?, ← toOption_pattern, clockTypeWord?]
    generalize Unicode.toLower word = lower
    cases pattern source with
    | error cause =>
      -- the pattern is read before the word is judged
      have hnone : ∀ isClock? : Option Bool, (isClock?.bind fun isClock =>
          (none : Option Pattern).map (ClockTypeRule.mk isClock)) = none := by
        intro isClock?
        cases isClock? <;> rfl
      exact (hnone _).symm
    | ok p =>
      dsimp only [bind, Except.bind]
      split
      · rfl
      · rfl
      · rename_i hyes hno
        rw [if_neg hyes, if_neg hno]
        rfl
  · rename_i hshape
    unfold clockTypeOfWords?
    split
    · exact absurd rfl (hshape _ _)
    · rfl

theorem bind_pathClass? (line : String) :
    (entryOf? line).bind pathClass? = classUnder? "pc" line := by
  apply bind_entryOf?_of_words
  · intro entry a h
    cases entry with
    | pathClass => rfl
    | _ => cases h
  · exact fun value => toOption_readClass (fun _ _ => rfl) _

theorem bind_cellClass? (line : String) :
    (entryOf? line).bind cellClass? = classUnder? "cc" line := by
  apply bind_entryOf?_of_words
  · intro entry a h
    cases entry with
    | cellClass => rfl
    | _ => cases h
  · exact fun value => toOption_readClass (fun _ _ => rfl) _

theorem bind_clockType? (line : String) : (entryOf? line).bind clockType? = clockTypeOf? line := by
  apply bind_entryOf?_of_words
  · intro entry a h
    cases entry with
    | clockType => rfl
    | _ => cases h
  · exact fun value => toOption_readClockType _

end RuleEntry

namespace RuleSet
open RuleEntry (keyOf? classUnder? clockTypeOf? TypesCell)

section
variable {f : SourceFile} {rules : RuleSet} {warnings : List Diagnostic}

theorem pathClasses_of_ofFile (h : ofFile f = .ok (rules, warnings)) :
    rules.pathClasses = Keyed.ofDeclarations (f.lines.filterMap (classUnder? "pc")) := by
  have hpart := part_of_ofFile (·.pathClasses) RuleEntry.pathClass?
    (fun table decl => table.insert decl.1 decl.2)
    (fun r entry => by cases entry <;> rfl) (fun _ _ => rfl) h
  simp only [RuleEntry.bind_pathClass?] at hpart
  exact hpart

theorem cellClasses_of_ofFile (h : ofFile f = .ok (rules, warnings)) :
    rules.cellClasses = Keyed.ofDeclarations (f.lines.filterMap (classUnder? "cc")) := by
  have hpart := part_of_ofFile (·.cellClasses) RuleEntry.cellClass?
    (fun table decl => table.insert decl.1 decl.2)
    (fun r entry => by cases entry <;> rfl) (fun _ _ => rfl) h
  simp only [RuleEntry.bind_cellClass?] at hpart
  exact hpart

/-- The rules for types of clock cells stand in the order of their lines. -/
theorem clockTypes_of_ofFile (h : ofFile f = .ok (rules, warnings)) :
    rules.clockTypes = f.lines.filterMap clockTypeOf? := by
  have hpart := part_of_ofFile (·.clockTypes) RuleEntry.clockType?
    (fun types rule => types ++ [rule])
    (fun r entry => by cases entry <;> rfl) (fun _ _ => rfl) h
  simp only [RuleEntry.bind_clockType?] at hpart
  have hconcat : ∀ (added types : List ClockTypeRule),
      added.foldl (fun types rule => types ++ [rule]) types = types ++ added := by
    intro added
    induction added with
    | nil => simp
    | cons rule added ih =>
      intro types
      rw [List.foldl_cons, ih, List.append_assoc, List.singleton_append]
  rw [hpart, hconcat]
  rfl

theorem clockType?_eq_some_iff (h : ofFile f = .ok (rules, warnings)) (cell : String)
    (isClock : Bool) : rules.clockType? cell = some isClock ↔
      ∃ before line after, f.lines = before ++ line :: after ∧ TypesCell line isClock cell ∧
        ∀ earlier ∈ before, ∀ other, ¬ TypesCell earlier other cell := by
  have hany : ∀ line, (clockTypeOf? line).any (·.pattern.isFullMatch cell) = true ↔
      ∃ other, TypesCell line other cell := by
    intro line
    rw [Option.any_eq_true]
    constructor
    · rintro ⟨rule, hrule, hmatch⟩
      exact ⟨rule.isClock, rule, hrule, rfl, hmatch⟩
    · rintro ⟨_, rule, hrule, rfl, hmatch⟩
      exact ⟨rule, hrule, hmatch⟩
  rw [clockType?, clockTypes_of_ofFile h, List.find?_filterMap, Option.map_eq_some_iff]
  constructor
  · rintro ⟨rule, hrule, rfl⟩
    obtain ⟨line, hfind, hrule⟩ := Option.bind_eq_some_iff.mp hrule
    obtain ⟨hmatch, before, after, hlines, hbefore⟩ := List.find?_eq_some_iff_append.mp hfind
    refine ⟨before, line, after, hlines, ⟨rule, hrule, rfl, ?_⟩, ?_⟩
    · rw [hrule] at hmatch
      simpa using hmatch
    · intro earlier hearlier other htypes
      have hno := hbefore earlier hearlier
      rw [(hany earlier).mpr ⟨other, htypes⟩] at hno
      cases hno
  · rintro ⟨before, line, after, hlines, htypes, hbefore⟩
    have hmatch := (hany line).mpr ⟨isClock, htypes⟩
    obtain ⟨rule, hrule, rfl, -⟩ := htypes
    refine ⟨rule, Option.bind_eq_some_iff.mpr ⟨line, ?_, hrule⟩, rfl⟩
    refine List.find?_eq_some_iff_append.mpr ⟨hmatch, before, after, hlines, ?_⟩
    intro earlier hearlier
    rw [Bool.not_eq_true', ← Bool.not_eq_true, hany]
    rintro ⟨other, htypes⟩
    exact hbefore earlier hearlier other htypes

theorem clockType?_eq_none_iff (h : ofFile f = .ok (rules, warnings)) (cell : String) :
    rules.clockType? cell = none ↔ ∀ line ∈ f.lines, ∀ isClock, ¬ TypesCell line isClock cell := by
  rw [clockType?, clockTypes_of_ofFile h, Option.map_eq_none_iff, List.find?_eq_none]
  constructor
  · rintro hnone line hline _ ⟨rule, hrule, rfl, hmatch⟩
    exact hnone rule (List.mem_filterMap.mpr ⟨line, hline, hrule⟩) hmatch
  · intro hnone rule hrule hmatch
    obtain ⟨line, hline, hrule⟩ := List.mem_filterMap.mp hrule
    exact hnone line hline rule.isClock ⟨rule, hrule, rfl, hmatch⟩

end

def linesUnder (key : String) (f : SourceFile) : List String :=
  f.lines.filter (keyOf? · = some key)

/-- A table of classes holds each class once, where it is declared first, with the pattern that is
declared last, and names the first class that matches. The type of a cell is decided by the first
line that matches it. Neither depends on lines with other keys, wherever they stand. -/
theorem ofFile_class_priority {f : SourceFile} {rules : RuleSet} {warnings : List Diagnostic}
    (h : ofFile f = .ok (rules, warnings)) :
    rules.pathClasses.DeclaredBy (f.lines.filterMap (classUnder? "pc")) ∧
      rules.cellClasses.DeclaredBy (f.lines.filterMap (classUnder? "cc")) ∧
      (∀ cell isClock, rules.clockType? cell = some isClock ↔
        ∃ before line after, f.lines = before ++ line :: after ∧ TypesCell line isClock cell ∧
          ∀ earlier ∈ before, ∀ other, ¬ TypesCell earlier other cell) ∧
      (∀ cell, rules.clockType? cell = none ↔
        ∀ line ∈ f.lines, ∀ isClock, ¬ TypesCell line isClock cell) ∧
      ∀ g rules' warnings', ofFile g = .ok (rules', warnings') →
        (linesUnder "pc" g = linesUnder "pc" f → rules'.pathClasses = rules.pathClasses) ∧
        (linesUnder "cc" g = linesUnder "cc" f → rules'.cellClasses = rules.cellClasses) ∧
        (linesUnder "ckt" g = linesUnder "ckt" f → rules'.clockTypes = rules.clockTypes) := by
  have hclass : ∀ key (file : SourceFile), (linesUnder key file).filterMap (classUnder? key) =
      file.lines.filterMap (classUnder? key) :=
    fun key file => filterMap_filter_keyOf? (fun _ => RuleEntry.classUnder?_of_ne) file.lines
  have htype : ∀ file : SourceFile, (linesUnder "ckt" file).filterMap clockTypeOf? =
      file.lines.filterMap clockTypeOf? :=
    fun file => filterMap_filter_keyOf? (fun _ => RuleEntry.clockTypeOf?_of_ne) file.lines
  refine ⟨?_, ?_, clockType?_eq_some_iff h, clockType?_eq_none_iff h, ?_⟩
  · rw [pathClasses_of_ofFile h]
    exact ClassTable.declaredBy_ofDeclarations _
  · rw [cellClasses_of_ofFile h]
    exact ClassTable.declaredBy_ofDeclarations _
  · intro g rules' warnings' hg
    refine ⟨fun hsame => ?_, fun hsame => ?_, fun hsame => ?_⟩
    · rw [pathClasses_of_ofFile h, pathClasses_of_ofFile hg, ← hclass, hsame, hclass]
    · rw [cellClasses_of_ofFile h, cellClasses_of_ofFile hg, ← hclass, hsame, hclass]
    · rw [clockTypes_of_ofFile h, clockTypes_of_ofFile hg, ← htype, hsame, htype]

/-- Rules with a class that is declared twice, the second time behind another one. -/
def redeclaredRules : SourceFile := firstRules "pc: A a\npc: B [ab]\ncc: A c\npc: A b\n"

theorem ofFile_class_priority_redeclared :
    ∃ rules, ofFile redeclaredRules = .ok (rules, []) ∧ rules.pathClasses.keys = ["A", "B"] ∧
      rules.pathClasses.firstMatch? "a" = some "B" ∧
      rules.pathClasses.firstMatch? "b" = some "A" ∧
      rules.cellClasses.firstMatch? "c" = some "A" ∧ rules.clockType? "a" = none := by
  have hsilent : (ofFile redeclaredRules).toOption.map (·.2) = some [] := by decide +kernel
  obtain ⟨⟨rules, warnings⟩, hf, rfl⟩ := ok_of_toOption_map hsilent
  obtain ⟨hpath, hcell, -, hnone, -⟩ := ofFile_class_priority hf
  refine ⟨rules, hf, ?_, ?_, ?_, ?_, ?_⟩
  · rw [hpath.keys]
    decide +kernel
  · rw [hpath.firstMatch]
    decide +kernel
  · rw [hpath.firstMatch]
    decide +kernel
  · rw [hcell.firstMatch]
    decide +kernel
  · rw [hnone]
    decide +kernel

end RuleSet

end PathTiming
