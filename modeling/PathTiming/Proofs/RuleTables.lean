import PathTiming.Proofs.DefaultClass
import PathTiming.Proofs.StickyTags

/-! The tables of a rules file. Each of them is filled line by line, and only by the lines with its
own key. -/
namespace PathTiming

namespace Keyed
variable {κ α : Type} [DecidableEq κ]

def lastValue? (decls : List (κ × α)) (key : κ) : Option α :=
  (decls.filter (·.1 = key)).getLast?.map (·.2)

theorem lastValue?_concat (decls : List (κ × α)) (decl : κ × α) (key : κ) :
    lastValue? (decls ++ [decl]) key =
      if decl.1 = key then some decl.2 else lastValue? decls key := by
  unfold lastValue?
  rw [List.filter_append]
  by_cases hkey : decl.1 = key <;> simp [hkey]

theorem bind_key_eq_some_iff {decl? : Option (κ × α)} {key : κ} {value : α} :
    (decl?.bind fun decl => if decl.1 = key then some decl.2 else none) = some value ↔
      decl? = some (key, value) := by
  rw [Option.bind_eq_some_iff]
  constructor
  · rintro ⟨⟨other, value'⟩, rfl, h⟩
    split_ifs at h with hkey
    cases hkey
    cases h
    rfl
  · rintro rfl
    exact ⟨_, rfl, if_pos rfl⟩

/-- Among declarations that lines make, the last line with the key decides. -/
theorem lastValue?_filterMap (f : String → Option (κ × α)) (lines : List String) (key : κ) :
    lastValue? (lines.filterMap f) key =
      (lines.filterMap fun line => (f line).bind fun decl =>
        if decl.1 = key then some decl.2 else none).getLast? := by
  unfold lastValue?
  rw [List.filter_filterMap, ← List.getLast?_map, List.map_filterMap]
  congr 2
  funext line
  cases f line with
  | none => rfl
  | some decl => by_cases hkey : decl.1 = key <;> simp [hkey, Option.filter]

/-- The table that declarations fill one after another. -/
def ofDeclarations (decls : List (κ × α)) : Keyed κ α :=
  decls.foldl (fun table decl => table.insert decl.1 decl.2) {}

theorem ofDeclarations_concat (decls : List (κ × α)) (decl : κ × α) :
    ofDeclarations (decls ++ [decl]) = (ofDeclarations decls).insert decl.1 decl.2 := by
  rw [ofDeclarations, List.foldl_append, List.foldl_cons, List.foldl_nil]
  rfl

/-- A key has the value that is declared last. -/
theorem get?_ofDeclarations (decls : List (κ × α)) (key : κ) :
    (ofDeclarations decls).get? key = lastValue? decls key := by
  induction decls using List.reverseRecOn with
  | nil => rfl
  | append_singleton decls decl ih =>
    rw [ofDeclarations_concat, get?_insert, lastValue?_concat, ih]

/-- A key stands where it is declared first. -/
theorem keys_ofDeclarations (decls : List (κ × α)) :
    (ofDeclarations decls).keys = (decls.map (·.1)).eraseDups := by
  induction decls using List.reverseRecOn with
  | nil => rfl
  | append_singleton decls decl ih =>
    rw [ofDeclarations_concat, keys_insert, ih, List.map_append, List.map_singleton,
      eraseDups_concat]

theorem nodup_keys_ofDeclarations (decls : List (κ × α)) : (ofDeclarations decls).keys.Nodup := by
  induction decls using List.reverseRecOn with
  | nil => exact List.nodup_nil
  | append_singleton decls decl ih =>
    rw [ofDeclarations_concat]
    exact nodup_keys_insert ih decl.1 decl.2

end Keyed

/-- Some line gives `a`, and no line behind it gives anything. -/
def LastGives {α : Type} (gives : String → α → Prop) (lines : List String) (a : α) : Prop :=
  ∃ before line after, lines = before ++ line :: after ∧ gives line a ∧
    ∀ later ∈ after, ∀ other, ¬ gives later other

section
variable {α : Type} {f : String → Option α} {gives : String → α → Prop} {lines : List String}

theorem getLast?_filterMap_eq_some_iff (h : ∀ line a, f line = some a ↔ gives line a) (a : α) :
    (lines.filterMap f).getLast? = some a ↔ LastGives gives lines a := by
  have hnone : ∀ line, f line = none ↔ ∀ other, ¬ gives line other := by
    intro line
    simp only [← h, Option.eq_none_iff_forall_not_mem, Option.mem_def]
  simp only [getLast?_filterMap_eq_some, h, hnone, LastGives]

theorem getLast?_filterMap_eq_none_iff (h : ∀ line a, f line = some a ↔ gives line a) :
    (lines.filterMap f).getLast? = none ↔ ∀ line ∈ lines, ∀ other, ¬ gives line other := by
  rw [List.getLast?_eq_none_iff, List.filterMap_eq_nil_iff]
  simp only [← h, Option.eq_none_iff_forall_not_mem, Option.mem_def]

end

/-! ### What single lines say -/

namespace RuleEntry

/-- What stands behind the key of a line, if it is this key. -/
def valueUnder? (key line : String) : Option String :=
  if keyOf? line = some key then valueOf? line else none

/-- The words behind the key of a line, if it is this key. -/
def wordsUnder? (key line : String) : Option (List String) :=
  (valueUnder? key line).map fun value => (Text.words value.toList).map String.ofList

theorem valueUnder?_of_ne {key line : String} (h : keyOf? line ≠ some key) :
    valueUnder? key line = none := if_neg h

/-- What is selected from the rules with one key is found in the values behind this key. -/
theorem bind_entryOf? {α : Type} {key : String} {select : RuleEntry → Option α}
    (hselect : ∀ entry a, select entry = some a → entry.key = key) (line : String) :
    (entryOf? line).bind select = (valueUnder? key line).bind fun value =>
      (ofKeyValue key value.toList).toOption.bind select := by
  unfold valueUnder?
  by_cases hkey : keyOf? line = some key
  · obtain ⟨value, hvalue⟩ := exists_valueOf? hkey
    rw [if_pos hkey, hvalue, Option.bind_some, entryOf?, ofLine?_of_keyOf? hkey hvalue]
    cases ofKeyValue key value.toList <;> rfl
  · rw [if_neg hkey, Option.bind_none, Option.bind_eq_none_iff]
    intro entry hentry
    cases hselected : select entry with
    | none => rfl
    | some a =>
      have hline := keyOf?_of_ofLine? (entryOf?_eq_some_iff.mp hentry)
      rw [hselect entry a hselected] at hline
      exact absurd hline hkey

/-- What a rule selects under its key is what the words of the line say. -/
theorem bind_entryOf?_of_words {α : Type} {key : String} {select : RuleEntry → Option α}
    {ofWords : List String → Option α} {line : String}
    (hselect : ∀ entry a, select entry = some a → entry.key = key)
    (hwords : ∀ value : String, (ofKeyValue key value.toList).toOption.bind select =
      ofWords ((Text.words value.toList).map String.ofList)) :
    (entryOf? line).bind select = (wordsUnder? key line).bind ofWords := by
  rw [bind_entryOf? hselect, wordsUnder?]
  cases valueUnder? key line with
  | none => rfl
  | some value => exact hwords value

end RuleEntry

/-! ### What all lines say -/

/-- Where every value takes the place of the one before, the last one is left. -/
theorem foldl_last {α β : Type} (f : α → β) (xs : List α) (first : β) :
    xs.foldl (fun _ x => f x) first = (xs.getLast?.map f).getD first := by
  induction xs generalizing first with
  | nil => rfl
  | cons x xs ih =>
    rw [List.foldl_cons, ih, List.getLast?_cons]
    cases xs.getLast? <;> rfl

namespace RuleSet
open RuleEntry (entryOf? keyOf?)

section
variable {β γ : Type} (part : RuleSet → β) (select : RuleEntry → Option γ) (step : β → γ → β)

/-- A part of the rules that one kind of rules changes is made by the rules of this kind. -/
theorem part_foldl_add
    (hadd : ∀ r entry, part (r.add entry) = match select entry with
      | some x => step (part r) x
      | none => part r)
    (entries : List RuleEntry) (r : RuleSet) :
    part (entries.foldl add r) = (entries.filterMap select).foldl step (part r) := by
  rw [List.foldl_filterMap]
  induction entries generalizing r with
  | nil => rfl
  | cons entry entries ih =>
    rw [List.foldl_cons, List.foldl_cons, ih, hadd]
    rfl

theorem part_of_ofFile
    (hadd : ∀ r entry, part (r.add entry) = match select entry with
      | some x => step (part r) x
      | none => part r)
    (hdefault : ∀ (r : RuleSet) (tag : Option String),
      part { r with defaultClass := tag } = part r)
    {f : SourceFile} {rules : RuleSet} {warnings : List Diagnostic}
    (h : ofFile f = .ok (rules, warnings)) :
    part rules =
      (f.lines.filterMap fun line => (entryOf? line).bind select).foldl step (part {}) := by
  have hentries : part (ofEntries f.id ((numbered 1 f.lines).filterMap entryAt?)).1 =
      part (((numbered 1 f.lines).filterMap entryAt?).map (·.2) |>.foldl add {}) := by
    unfold ofEntries
    dsimp only
    split
    · rfl
    · split
      · exact hdefault _ _
      · rfl
  rw [ofEntries_of_ofFile h, map_snd_filterMap_entryAt?, part_foldl_add part select step hadd,
    List.filterMap_filterMap] at hentries
  exact hentries

end

/-- Lines of which nothing can be said do not count. -/
theorem filterMap_filter_keyOf? {α : Type} {key : String} {f : String → Option α}
    (hf : ∀ line, keyOf? line ≠ some key → f line = none) (lines : List String) :
    (lines.filter (keyOf? · = some key)).filterMap f = lines.filterMap f := by
  apply filterMap_filter_of_none
  intro line _ hline
  exact hf line (by simpa using hline)

end RuleSet

end PathTiming
