import PathTiming.Proofs.SwitchLines

/-! How the rules for the clock network act on it when they are added to a file. Rules that claim pins
only add clock pins, rules that override cells and rules for types of cells only remove some, and the
switch that spares cells gives some of them back. -/
namespace PathTiming

theorem insertName_mem_iff (name other : String) (names : List String) :
    other ∈ insertName name names ↔ other = name ∨ other ∈ names := by
  induction names with
  | nil => simp [insertName]
  | cons first rest ih =>
    unfold insertName
    split_ifs with heq hlt
    · subst heq
      simp
    · simp
    · rw [List.mem_cons, ih, List.mem_cons]
      exact or_left_comm

theorem contains_foldl_insertName (name : String) (added names : List String) :
    (added.foldl (fun set n => insertName n set) names).contains name =
      (names.contains name || added.contains name) := by
  rw [Bool.eq_iff_iff, Bool.or_eq_true, List.contains_iff_mem, List.contains_iff_mem,
    List.contains_iff_mem]
  induction added generalizing names with
  | nil => simp
  | cons first added ih =>
    rw [List.foldl_cons, ih, insertName_mem_iff, List.mem_cons, or_comm (a := name = first),
      or_assoc]

/-- Lists that are related element by element have such elements together. -/
theorem exists_mem_iff_of_forall₂ {α β : Type} {R : α → β → Prop} {P : α → Prop} {Q : β → Prop}
    {xs : List α} {ys : List β} (h : List.Forall₂ R xs ys) (hR : ∀ x y, R x y → (P x ↔ Q y)) :
    (∃ x ∈ xs, P x) ↔ ∃ y ∈ ys, Q y := by
  induction h with
  | nil => simp
  | cons hhead _ ih => rw [List.exists_mem_cons_iff, List.exists_mem_cons_iff, ih, hR _ _ hhead]

namespace RuleEntry

def PatternMatches (source name : String) : Prop :=
  ∃ p, Pattern.compile source = .ok p ∧ p.isFullMatch name = true

/-- Words claim a pin for the clock network, by its cell, its instance or its name. -/
def WordsClaim (pin cell : String) : List String → Prop
  | "c" :: names => cell ∈ names
  | "i" :: names => PinName.instanceOf pin ∈ names
  | "r" :: sources => ∃ source ∈ sources, PatternMatches source pin
  | _ => False

def ClaimsPin (pin cell line : String) : Prop :=
  ∃ words, wordsUnder? "ckp" line = some words ∧ WordsClaim pin cell words

/-- A line overrides a cell: the first pattern in it matches, and further words do not count. -/
def OverridesCell (cell line : String) : Prop :=
  ∃ source rest, wordsUnder? "ckm" line = some (source :: rest) ∧ PatternMatches source cell

def claims (pin cell : String) : RuleEntry → Bool
  | .clockCells names => names.contains cell
  | .clockInstances names => names.contains (PinName.instanceOf pin)
  | .clockPatterns patterns => patterns.any (·.isFullMatch pin)
  | _ => false

def overrides (cell : String) : RuleEntry → Bool
  | .clockOverride pattern => pattern.isFullMatch cell
  | _ => false

def typed? (cell : String) (entry : RuleEntry) : Option Bool :=
  (entry.clockType?.filter (·.pattern.isFullMatch cell)).map (·.isClock)

section
variable {key line pin cell : String} {entry : RuleEntry}

theorem pattern_eq_ok_iff {source : String} {p : Pattern} :
    pattern source = .ok p ↔ Pattern.compile source = .ok p := by
  unfold pattern
  cases Pattern.compile source <;> simp [Except.mapError]

/-- The rule of a line with a key is what stands behind the key. -/
theorem entryOf?_eq_some_iff_value (hkey : entry.key = key) :
    entryOf? line = some entry ↔
      ∃ value, valueUnder? key line = some value ∧ ofKeyValue key value.toList = .ok entry := by
  simp only [valueUnder?_eq_some_iff]
  rw [entryOf?_eq_some_iff]
  constructor
  · intro h
    have hline : keyOf? line = some key := by rw [keyOf?_of_ofLine? h, hkey]
    obtain ⟨value, hvalue⟩ := exists_valueOf? hline
    rw [ofLine?_of_keyOf? hline hvalue] at h
    obtain ⟨read, hread, hentry⟩ := ok_of_map h
    cases hentry
    exact ⟨value, ⟨hline, hvalue⟩, hread⟩
  · rintro ⟨value, ⟨hline, hvalue⟩, hread⟩
    rw [ofLine?_of_keyOf? hline hvalue, hread]
    rfl

/-- The rule of a line with a key is made of the words behind the key. -/
theorem entryOf?_eq_some_iff_words {read : List String → Except RuleFault RuleEntry}
    (hread : ∀ value : String,
      ofKeyValue key value.toList = read ((Text.words value.toList).map String.ofList))
    (hkey : entry.key = key) :
    entryOf? line = some entry ↔
      ∃ words, wordsUnder? key line = some words ∧ read words = .ok entry := by
  rw [entryOf?_eq_some_iff_value hkey]
  unfold wordsUnder?
  constructor
  · rintro ⟨value, hvalue, h⟩
    exact ⟨_, by rw [hvalue]; rfl, by rw [← hread, h]⟩
  · rintro ⟨words, hwords, h⟩
    obtain ⟨value, hvalue, rfl⟩ := Option.map_eq_some_iff.mp hwords
    exact ⟨value, hvalue, by rw [hread, h]⟩

theorem keyOf?_of_wordsUnder? {words : List String} (h : wordsUnder? key line = some words) :
    keyOf? line = some key := by
  obtain ⟨value, hvalue, -⟩ := Option.map_eq_some_iff.mp h
  exact ((valueUnder?_eq_some_iff line value).mp hvalue).1

theorem key_of_entryOf? (h : entryOf? line = some entry) (hkey : keyOf? line = some key) :
    entry.key = key := by
  rw [keyOf?_of_ofLine? (entryOf?_eq_some_iff.mp h)] at hkey
  exact Option.some.inj hkey

/-- The three shapes of a rule that claims pins. -/
theorem readClockPins_cases {words : List String} (h : readClockPins words = .ok entry) :
    (∃ names, words = "c" :: names ∧ entry = .clockCells names) ∨
      (∃ names, words = "i" :: names ∧ entry = .clockInstances names) ∨
      ∃ sources patterns, words = "r" :: sources ∧
        List.Forall₂ (fun source p => Pattern.compile source = .ok p) sources patterns ∧
        entry = .clockPatterns patterns := by
  unfold readClockPins at h
  split at h
  · cases h
  · cases h
    exact .inl ⟨_, rfl, rfl⟩
  · cases h
    exact .inr (.inl ⟨_, rfl, rfl⟩)
  · obtain ⟨patterns, hpatterns, h⟩ := ok_of_bind h
    cases h
    simp only [mapM_eq_ok_iff, pattern_eq_ok_iff] at hpatterns
    exact .inr (.inr ⟨_, patterns, rfl, hpatterns, rfl⟩)
  · cases h

theorem clockPins_cases (h : entryOf? line = some entry) (hkey : keyOf? line = some "ckp") :
    (∃ names, wordsUnder? "ckp" line = some ("c" :: names) ∧ entry = .clockCells names) ∨
      (∃ names, wordsUnder? "ckp" line = some ("i" :: names) ∧ entry = .clockInstances names) ∨
      ∃ sources patterns, wordsUnder? "ckp" line = some ("r" :: sources) ∧
        List.Forall₂ (fun source p => Pattern.compile source = .ok p) sources patterns ∧
        entry = .clockPatterns patterns := by
  have hvalue : ∀ value : String, ofKeyValue "ckp" value.toList =
      readClockPins ((Text.words value.toList).map String.ofList) := fun _ => rfl
  obtain ⟨words, hwords, hread⟩ :=
    (entryOf?_eq_some_iff_words hvalue (key_of_entryOf? h hkey)).mp h
  rw [hwords]
  obtain ⟨names, rfl, rfl⟩ | ⟨names, rfl, rfl⟩ | ⟨sources, patterns, rfl, hsources, rfl⟩ :=
    readClockPins_cases hread
  · exact .inl ⟨names, rfl, rfl⟩
  · exact .inr (.inl ⟨names, rfl, rfl⟩)
  · exact .inr (.inr ⟨sources, patterns, rfl, hsources, rfl⟩)

theorem clockOverride_of_key (h : entryOf? line = some entry) (hkey : keyOf? line = some "ckm") :
    ∃ source rest p, wordsUnder? "ckm" line = some (source :: rest) ∧
      Pattern.compile source = .ok p ∧ entry = .clockOverride p := by
  obtain ⟨value, hvalue, hread⟩ :=
    (entryOf?_eq_some_iff_value (key_of_entryOf? h hkey)).mp h
  cases hwords : (Text.words value.toList).map String.ofList with
  | nil =>
    have hfault : ofKeyValue "ckm" value.toList = .error .missingOverride := by
      unfold ofKeyValue
      rw [hwords]
      rfl
    rw [hfault] at hread
    cases hread
  | cons source rest =>
    have hrule : ofKeyValue "ckm" value.toList = (pattern source).map .clockOverride := by
      unfold ofKeyValue
      rw [hwords]
      rfl
    rw [hrule] at hread
    obtain ⟨p, hpattern, rfl⟩ := ok_of_map hread
    exact ⟨source, rest, p, by rw [wordsUnder?, hvalue, Option.map_some, hwords],
      pattern_eq_ok_iff.mp hpattern, rfl⟩

theorem clockType_of_key (h : entryOf? line = some entry) (hkey : keyOf? line = some "ckt") :
    ∃ rule, entry = .clockType rule := by
  have hvalue : ∀ value : String, ofKeyValue "ckt" value.toList =
      readClockType ((Text.words value.toList).map String.ofList) := fun _ => rfl
  obtain ⟨words, -, hread⟩ :=
    (entryOf?_eq_some_iff_words hvalue (key_of_entryOf? h hkey)).mp h
  unfold readClockType at hread
  split at hread
  · obtain ⟨p, -, hread⟩ := ok_of_bind hread
    split at hread <;> cases hread <;> exact ⟨_, rfl⟩
  · cases hread

theorem toggle_of_hasValue {t : Toggle} {value : String} (h : entryOf? line = some entry)
    (hvalue : HasValue t.key line value) : entry = .toggle t (t.resolve value) := by
  rw [entryOf?_eq_some_iff, ofLine?_of_keyOf? hvalue.1 hvalue.2, ofKeyValue, Toggle.ofKey?_key,
    String.ofList_toList] at h
  exact (Option.some.inj (Except.ok.inj h)).symm

theorem patternMatches_iff {source name : String} {p : Pattern}
    (h : Pattern.compile source = .ok p) :
    PatternMatches source name ↔ p.isFullMatch name = true := by
  unfold PatternMatches
  rw [h]
  simp

theorem claimsPin_iff {words : List String} (h : wordsUnder? "ckp" line = some words) :
    ClaimsPin pin cell line ↔ WordsClaim pin cell words := by
  unfold ClaimsPin
  rw [h]
  simp

theorem claims_iff (h : entryOf? line = some entry) :
    entry.claims pin cell = true ↔ ClaimsPin pin cell line := by
  by_cases hkey : keyOf? line = some "ckp"
  · obtain ⟨names, hwords, rfl⟩ | ⟨names, hwords, rfl⟩ | ⟨sources, patterns, hwords, hsources, rfl⟩ :=
      clockPins_cases h hkey
    · rw [claimsPin_iff hwords]
      exact List.contains_iff_mem
    · rw [claimsPin_iff hwords]
      exact List.contains_iff_mem
    · rw [claimsPin_iff hwords]
      change patterns.any (·.isFullMatch pin) = true ↔ ∃ source ∈ sources, PatternMatches source pin
      rw [exists_mem_iff_of_forall₂ hsources fun _ _ => patternMatches_iff]
      exact List.any_eq_true
  · constructor
    · intro hclaims
      rw [keyOf?_of_ofLine? (entryOf?_eq_some_iff.mp h)] at hkey
      cases entry with
      | clockCells | clockInstances | clockPatterns => exact absurd rfl hkey
      | _ => cases hclaims
    · rintro ⟨words, hwords, -⟩
      exact absurd (keyOf?_of_wordsUnder? hwords) hkey

theorem overrides_iff (h : entryOf? line = some entry) :
    entry.overrides cell = true ↔ OverridesCell cell line := by
  constructor
  · intro hoverrides
    have hkey : keyOf? line = some "ckm" := by
      rw [keyOf?_of_ofLine? (entryOf?_eq_some_iff.mp h)]
      cases entry with
      | clockOverride => rfl
      | _ => cases hoverrides
    obtain ⟨source, rest, p, hwords, hcompile, rfl⟩ := clockOverride_of_key h hkey
    exact ⟨source, rest, hwords, (patternMatches_iff hcompile).mpr hoverrides⟩
  · rintro ⟨source, rest, hwords, hmatch⟩
    obtain ⟨source', rest', p, hwords', hcompile, rfl⟩ :=
      clockOverride_of_key h (keyOf?_of_wordsUnder? hwords)
    rw [hwords] at hwords'
    cases hwords'
    exact (patternMatches_iff hcompile).mp hmatch

end

end RuleEntry

namespace RuleSet
open RuleEntry (entryOf? keyOf? HasValue ClaimsPin OverridesCell TypesCell)

/-! ### One rule more -/

section
variable (r : RuleSet) (entry : RuleEntry) (pin cell : String)

theorem claims_add : (r.add entry).clockPins.claims pin cell =
    (r.clockPins.claims pin cell || entry.claims pin cell) := by
  cases entry with
  | clockCells names =>
    simp only [add, ClockPinRules.claims, RuleEntry.claims, contains_foldl_insertName]
    ac_rfl
  | clockInstances names =>
    simp only [add, ClockPinRules.claims, RuleEntry.claims, contains_foldl_insertName]
    ac_rfl
  | clockPatterns patterns =>
    simp only [add, ClockPinRules.claims, RuleEntry.claims, List.any_append]
    ac_rfl
  | _ => exact (Bool.or_false _).symm

theorem overrides_add : (r.add entry).overrides cell =
    (r.overrides cell || entry.overrides cell) := by
  cases entry with
  | clockOverride pattern => simp [add, overrides, RuleEntry.overrides]
  | _ => exact (Bool.or_false _).symm

/-- A cell that has a type keeps it. -/
theorem clockType?_add : (r.add entry).clockType? cell =
    (r.clockType? cell).or (entry.typed? cell) := by
  cases entry with
  | clockType rule =>
    simp only [add, clockType?, RuleEntry.typed?, RuleEntry.clockType?, List.find?_append]
    rw [Option.map_or, List.find?_singleton]
    by_cases hmatch : rule.pattern.isFullMatch cell = true
    · simp [hmatch, Option.filter]
    · simp [hmatch, Option.filter]
  | _ => exact (Option.or_none).symm

end

theorem isClockPin_iff (r : RuleSet) (pin cell : String) : r.isClockPin pin cell = true ↔
    r.clockPins.claims pin cell = true ∧
      (r.overrides cell = true →
        r.toggle .ckmWithNonClockCell = true ∧ r.clockType? cell ≠ some true) := by
  unfold isClockPin
  cases r.overrides cell <;> simp

section
variable {r : RuleSet} {entry : RuleEntry} {line pin cell : String}

theorem isClockPin_add_of_claims (hentry : entryOf? line = some entry)
    (hkey : keyOf? line = some "ckp") (h : r.isClockPin pin cell = true) :
    (r.add entry).isClockPin pin cell = true := by
  obtain ⟨hoverrides, htoggle, htype⟩ :
      (r.add entry).overrides cell = r.overrides cell ∧
      (r.add entry).toggle .ckmWithNonClockCell = r.toggle .ckmWithNonClockCell ∧
      (r.add entry).clockType? cell = r.clockType? cell := by
    obtain ⟨_, -, rfl⟩ | ⟨_, -, rfl⟩ | ⟨_, _, -, -, rfl⟩ :=
      RuleEntry.clockPins_cases hentry hkey <;> exact ⟨rfl, rfl, rfl⟩
  obtain ⟨hclaims, hspared⟩ := (isClockPin_iff r pin cell).mp h
  rw [isClockPin_iff, claims_add, hclaims, hoverrides, htoggle, htype]
  exact ⟨Bool.true_or _, hspared⟩

theorem isClockPin_of_add_override (hentry : entryOf? line = some entry)
    (hkey : keyOf? line = some "ckm") (h : (r.add entry).isClockPin pin cell = true) :
    r.isClockPin pin cell = true := by
  obtain ⟨_, _, p, -, -, rfl⟩ := RuleEntry.clockOverride_of_key hentry hkey
  obtain ⟨hclaims, hspared⟩ := (isClockPin_iff _ pin cell).mp h
  refine (isClockPin_iff r pin cell).mpr ⟨hclaims, fun hover => hspared ?_⟩
  rw [overrides_add, hover, Bool.true_or]

/-- The switch that spares cells changes nothing else of the rules for clock pins. -/
theorem isClockPin_add_switch_iff {value : String} (hentry : entryOf? line = some entry)
    (hvalue : HasValue Toggle.ckmWithNonClockCell.key line value)
    (hword : Unicode.toLower value = "true") : (r.add entry).isClockPin pin cell = true ↔
      r.clockPins.claims pin cell = true ∧
        (r.overrides cell = true → r.clockType? cell ≠ some true) := by
  have hon : (r.add entry).toggle .ckmWithNonClockCell = true := by
    rw [RuleEntry.toggle_of_hasValue hentry hvalue, toggle_add,
      (Toggle.resolve_eq_not_default_iff .ckmWithNonClockCell value).mpr hword]
    rfl
  rw [isClockPin_iff, hon, RuleEntry.toggle_of_hasValue hentry hvalue]
  simp only [true_and]
  rfl

theorem clockType?_add_type_of_eq_some (hentry : entryOf? line = some entry)
    (hkey : keyOf? line = some "ckt") {isClock : Bool} (h : r.clockType? cell = some isClock) :
    (r.add entry).clockType? cell = some isClock := by
  obtain ⟨rule, rfl⟩ := RuleEntry.clockType_of_key hentry hkey
  rw [clockType?_add, h]
  rfl

theorem isClockPin_of_add_type (hentry : entryOf? line = some entry)
    (hkey : keyOf? line = some "ckt") (h : (r.add entry).isClockPin pin cell = true) :
    r.isClockPin pin cell = true := by
  have hkept := fun htype : r.clockType? cell = some true =>
    clockType?_add_type_of_eq_some hentry hkey htype
  obtain ⟨rule, rfl⟩ := RuleEntry.clockType_of_key hentry hkey
  obtain ⟨hclaims, hspared⟩ := (isClockPin_iff _ pin cell).mp h
  exact (isClockPin_iff r pin cell).mpr ⟨hclaims, fun hover =>
    ⟨(hspared hover).1, fun htype => (hspared hover).2 (hkept htype)⟩⟩

/-- Only cells that had no type lose pins when a type of cells is added. -/
theorem clockType?_eq_none_of_add_type (hentry : entryOf? line = some entry)
    (hkey : keyOf? line = some "ckt") (h : r.isClockPin pin cell = true)
    (hnot : ¬ (r.add entry).isClockPin pin cell = true) : r.clockType? cell = none := by
  cases htype : r.clockType? cell with
  | none => rfl
  | some isClock =>
    have hkept := clockType?_add_type_of_eq_some hentry hkey htype
    obtain ⟨rule, rfl⟩ := RuleEntry.clockType_of_key hentry hkey
    obtain ⟨hclaims, hspared⟩ := (isClockPin_iff r pin cell).mp h
    refine absurd ((isClockPin_iff (r.add (.clockType rule)) pin cell).mpr
      ⟨hclaims, fun hover => ?_⟩) hnot
    rw [hkept, ← htype]
    exact hspared hover

end

/-! ### All rules of a file -/

/-- A flag that rules can only set is set by some rule, if it is not set from the beginning. -/
theorem flag_foldl_add (flag : RuleSet → Bool) (sets : RuleEntry → Bool)
    (hadd : ∀ r entry, flag (r.add entry) = (flag r || sets entry)) (entries : List RuleEntry)
    (r : RuleSet) : flag (entries.foldl add r) = (flag r || entries.any sets) := by
  induction entries generalizing r with
  | nil => simp
  | cons entry entries ih => rw [List.foldl_cons, ih, hadd, List.any_cons, Bool.or_assoc]

/-- The lines of a file that have a key. In a file without faults all others are blank, or remarks. -/
def ruleLines (f : SourceFile) : List String := f.lines.filter fun line => (keyOf? line).isSome

section
variable {f : SourceFile} {rules : RuleSet} {warnings : List Diagnostic}

/-- But for the default class, the rules of a file are added one after another. -/
theorem exists_foldl_of_ofFile (h : ofFile f = .ok (rules, warnings)) :
    ∃ tag?, rules = { (f.lines.filterMap entryOf?).foldl add {} with defaultClass := tag? } := by
  have hentries := ofEntries_of_ofFile h
  unfold ofEntries at hentries
  rw [map_snd_filterMap_entryAt?] at hentries
  dsimp only at hentries
  split at hentries
  · cases hentries
    exact ⟨_, rfl⟩
  · split at hentries <;> cases hentries <;> exact ⟨_, rfl⟩

/-- In a file without faults every line with a key gives a rule. -/
theorem exists_entryOf? {line key : String} (h : ofFile f = .ok (rules, warnings))
    (hline : line ∈ f.lines) (hkey : keyOf? line = some key) :
    ∃ entry, entryOf? line = some entry := by
  obtain ⟨value, hvalue⟩ := RuleEntry.exists_valueOf? hkey
  have hfault := faultOf?_of_ofFile h line hline
  have hread := RuleEntry.ofLine?_of_keyOf? hkey hvalue
  cases hentry : RuleEntry.ofKeyValue key value.toList with
  | error cause =>
    rw [hentry] at hread
    rw [RuleEntry.faultOf?, hread] at hfault
    cases hfault
  | ok entry =>
    rw [hentry] at hread
    exact ⟨entry, RuleEntry.entryOf?_eq_some_iff.mpr hread⟩

/-- A flag that single rules set is set in a file by the lines that say so. -/
theorem flag_of_ofFile (flag : RuleSet → Bool) {sets : RuleEntry → Bool} {Says : String → Prop}
    (hadd : ∀ r entry, flag (r.add entry) = (flag r || sets entry))
    (hdefault : ∀ (r : RuleSet) tag?, flag { r with defaultClass := tag? } = flag r)
    (hempty : flag {} = false)
    (hsets : ∀ {line entry}, entryOf? line = some entry → (sets entry = true ↔ Says line))
    (hkeyed : ∀ {line}, Says line → ∃ key, keyOf? line = some key)
    (h : ofFile f = .ok (rules, warnings)) :
    flag rules = true ↔ ∃ line ∈ f.lines, Says line := by
  obtain ⟨tag?, hrules⟩ := exists_foldl_of_ofFile h
  rw [hrules, hdefault, flag_foldl_add flag sets hadd, hempty, Bool.false_or, List.any_eq_true]
  constructor
  · rintro ⟨entry, hentry, hset⟩
    obtain ⟨line, hline, hentry⟩ := List.mem_filterMap.mp hentry
    exact ⟨line, hline, (hsets hentry).mp hset⟩
  · rintro ⟨line, hline, hsaid⟩
    obtain ⟨key, hkey⟩ := hkeyed hsaid
    obtain ⟨entry, hentry⟩ := exists_entryOf? h hline hkey
    exact ⟨entry, List.mem_filterMap.mpr ⟨line, hline, hentry⟩, (hsets hentry).mpr hsaid⟩

theorem claims_of_ofFile (h : ofFile f = .ok (rules, warnings)) (pin cell : String) :
    rules.clockPins.claims pin cell = true ↔ ∃ line ∈ f.lines, ClaimsPin pin cell line := by
  refine flag_of_ofFile (·.clockPins.claims pin cell) (fun r entry => r.claims_add entry pin cell)
    (fun _ _ => rfl) rfl RuleEntry.claims_iff ?_ h
  rintro line ⟨words, hwords, -⟩
  exact ⟨"ckp", RuleEntry.keyOf?_of_wordsUnder? hwords⟩

theorem overrides_of_ofFile (h : ofFile f = .ok (rules, warnings)) (cell : String) :
    rules.overrides cell = true ↔ ∃ line ∈ f.lines, OverridesCell cell line := by
  refine flag_of_ofFile (·.overrides cell) (fun r entry => r.overrides_add entry cell)
    (fun _ _ => rfl) rfl RuleEntry.overrides_iff ?_ h
  rintro line ⟨source, rest, hwords, -⟩
  exact ⟨"ckm", RuleEntry.keyOf?_of_wordsUnder? hwords⟩

/-- The rules of a file with one line more are those of the file and the rule of this line, but for
the default class. -/
theorem exists_add_of_ruleLines {g : SourceFile} {line : String} {rules' : RuleSet}
    {warnings' : List Diagnostic} (h : ofFile f = .ok (rules, warnings))
    (hg : ofFile g = .ok (rules', warnings')) (hlines : ruleLines g = ruleLines f ++ [line]) :
    ∃ entry tag?, entryOf? line = some entry ∧
      rules' = { rules.add entry with defaultClass := tag? } := by
  have hread : ∀ file : SourceFile,
      (ruleLines file).filterMap entryOf? = file.lines.filterMap entryOf? := by
    intro file
    apply filterMap_filter_of_none
    intro l _ hkey
    cases hentry : entryOf? l with
    | none => rfl
    | some entry =>
      rw [RuleEntry.keyOf?_of_ofLine? (RuleEntry.entryOf?_eq_some_iff.mp hentry)] at hkey
      cases hkey
  have hmem : line ∈ ruleLines g := by
    rw [hlines]
    simp
  obtain ⟨hline, hkeyed⟩ := List.mem_filter.mp hmem
  obtain ⟨key, hkey⟩ := Option.isSome_iff_exists.mp hkeyed
  obtain ⟨entry, hentry⟩ := exists_entryOf? hg hline hkey
  obtain ⟨_, hrules⟩ := exists_foldl_of_ofFile h
  obtain ⟨tag?, hrules'⟩ := exists_foldl_of_ofFile hg
  refine ⟨entry, tag?, hentry, ?_⟩
  rw [hrules', ← hread, hlines, List.filterMap_append, hread, List.foldl_append, hrules]
  simp only [List.filterMap_cons, hentry, List.filterMap_nil, List.foldl_cons, List.foldl_nil]
  cases entry <;> rfl

end

/-- The first of some lines that types a cell says whether it is a clock cell. -/
def FirstTypes (lines : List String) (isClock : Bool) (cell : String) : Prop :=
  ∃ before line after, lines = before ++ line :: after ∧ TypesCell line isClock cell ∧
    ∀ earlier ∈ before, ∀ other, ¬ TypesCell earlier other cell

/-- A line behind all others changes the clock network in one direction only. One that claims pins
removes none from it, and one that overrides cells adds none. The switch that spares cells adds pins
that are claimed and overridden, and whose cell is not typed as a clock cell first. A type of cells
removes pins of cells that had no type. -/
theorem ofFile_clock_monotone {f g : SourceFile} {line : String} {rules rules' : RuleSet}
    {warnings warnings' : List Diagnostic} (hf : ofFile f = .ok (rules, warnings))
    (hg : ofFile g = .ok (rules', warnings')) (hlines : ruleLines g = ruleLines f ++ [line])
    (pin cell : String) :
    (keyOf? line = some "ckp" → rules.isClockPin pin cell = true →
      rules'.isClockPin pin cell = true) ∧
    (keyOf? line = some "ckm" → rules'.isClockPin pin cell = true →
      rules.isClockPin pin cell = true) ∧
    (∀ value, HasValue Toggle.ckmWithNonClockCell.key line value →
      Unicode.toLower value = "true" →
      (rules.isClockPin pin cell = true → rules'.isClockPin pin cell = true) ∧
      (rules'.isClockPin pin cell = true → rules.isClockPin pin cell = false →
        (∃ l ∈ f.lines, ClaimsPin pin cell l) ∧ (∃ l ∈ f.lines, OverridesCell cell l) ∧
          ¬ FirstTypes f.lines true cell)) ∧
    (keyOf? line = some "ckt" →
      (rules'.isClockPin pin cell = true → rules.isClockPin pin cell = true) ∧
      (rules.isClockPin pin cell = true → rules'.isClockPin pin cell = false →
        ∀ l ∈ f.lines, ∀ isClock, ¬ TypesCell l isClock cell)) := by
  obtain ⟨entry, tag?, hentry, hrules'⟩ := exists_add_of_ruleLines hf hg hlines
  have hadd : rules'.isClockPin pin cell = (rules.add entry).isClockPin pin cell := by
    rw [hrules']
    rfl
  rw [hadd]
  refine ⟨isClockPin_add_of_claims hentry, isClockPin_of_add_override hentry,
    fun value hvalue hword => ?_, fun hkey => ⟨isClockPin_of_add_type hentry hkey, ?_⟩⟩
  · rw [isClockPin_add_switch_iff hentry hvalue hword]
    refine ⟨fun h => ?_, ?_⟩
    · obtain ⟨hclaims, hspared⟩ := (isClockPin_iff rules pin cell).mp h
      exact ⟨hclaims, fun hover => (hspared hover).2⟩
    · rintro ⟨hclaims, hspared⟩ hnot
      have hover : rules.overrides cell = true := by
        by_contra hover
        have hclock := (isClockPin_iff rules pin cell).mpr ⟨hclaims, fun ho => absurd ho hover⟩
        exact Bool.false_ne_true (hnot.symm.trans hclock)
      refine ⟨(claims_of_ofFile hf pin cell).mp hclaims, (overrides_of_ofFile hf cell).mp hover,
        fun hfirst => hspared hover ?_⟩
      exact (clockType?_eq_some_iff hf cell true).mpr hfirst
  · intro h hnot
    exact (clockType?_eq_none_iff hf cell).mp
      (clockType?_eq_none_of_add_type hentry hkey h (Bool.eq_false_iff.mp hnot))

/-- Rules that claim pins of two cells, and override one of them. -/
def overriddenRules : SourceFile := firstRules "ckp: c CKBUF MUX\nckm: MUX\n"

/-- The same rules with a switch that spares the cell, which has no type. -/
def sparedRules : SourceFile :=
  firstRules "ckp: c CKBUF MUX\nckm: MUX\n\nckm_with_non_clock_cell: True # all\n"

theorem ofFile_clock_monotone_sparedCell :
    ∃ rules rules', ofFile overriddenRules = .ok (rules, []) ∧
      ofFile sparedRules = .ok (rules', []) ∧
      rules.isClockPin "u1/Z" "CKBUF" = true ∧ rules'.isClockPin "u1/Z" "CKBUF" = true ∧
      rules.isClockPin "u2/Z" "MUX" = false ∧ rules'.isClockPin "u2/Z" "MUX" = true ∧
      ∃ l ∈ overriddenRules.lines, OverridesCell "MUX" l := by
  obtain ⟨hbefore, hsilent, hlines, hvalues⟩ :
      (ofFile overriddenRules).toOption.map (fun outcome => (outcome.2,
        outcome.1.isClockPin "u1/Z" "CKBUF", outcome.1.isClockPin "u2/Z" "MUX")) =
        some ([], true, false) ∧
      (ofFile sparedRules).toOption.map (fun outcome => (outcome.2,
        outcome.1.clockPins.claims "u2/Z" "MUX", outcome.1.clockType? "MUX")) =
        some ([], true, none) ∧
      ruleLines sparedRules =
        ruleLines overriddenRules ++ ["ckm_with_non_clock_cell: True # all"] ∧
      (sparedRules.lines.filterMap
        (RuleEntry.valueUnder? Toggle.ckmWithNonClockCell.key)).getLast? = some "True" := by
    rw [overriddenRules, sparedRules, firstRules, firstRules, SourceFile.ofText_literal rfl,
      SourceFile.ofText_literal rfl]
    decide +kernel
  have hvalue : HasValue Toggle.ckmWithNonClockCell.key "ckm_with_non_clock_cell: True # all"
      "True" := ⟨by decide +kernel, by decide +kernel⟩
  have hword : Unicode.toLower "True" = "true" := by
    rw [Unicode.toLower_of_lt (by decide +kernel)]
    decide +kernel
  obtain ⟨⟨rules, warnings⟩, hf, hbefore⟩ := ok_of_toOption_map hbefore
  obtain ⟨⟨rules', warnings'⟩, hg, hsilent⟩ := ok_of_toOption_map hsilent
  obtain ⟨rfl, hpins⟩ := Prod.mk.inj hbefore
  obtain ⟨hbuffer, hmux⟩ := Prod.mk.inj hpins
  obtain ⟨rfl, hparts⟩ := Prod.mk.inj hsilent
  obtain ⟨hclaims, htype⟩ := Prod.mk.inj hparts
  have hon : rules'.toggle .ckmWithNonClockCell = true := by
    rw [toggle_of_ofFile hg, hvalues, Option.map_some, Option.getD_some,
      (Toggle.resolve_eq_not_default_iff .ckmWithNonClockCell "True").mpr hword]
    rfl
  have hspared : rules'.isClockPin "u2/Z" "MUX" = true := by
    refine (isClockPin_iff rules' "u2/Z" "MUX").mpr ⟨hclaims, fun _ => ⟨hon, ?_⟩⟩
    dsimp only at htype
    simp [htype]
  obtain ⟨-, -, hswitch, -⟩ := ofFile_clock_monotone hf hg hlines "u1/Z" "CKBUF"
  obtain ⟨-, -, hspare, -⟩ := ofFile_clock_monotone hf hg hlines "u2/Z" "MUX"
  obtain ⟨-, hover, -⟩ := (hspare "True" hvalue hword).2 hspared hmux
  exact ⟨rules, rules', hf, hg, hbuffer, (hswitch "True" hvalue hword).1 hbuffer, hmux, hspared,
    hover⟩

end RuleSet

end PathTiming
