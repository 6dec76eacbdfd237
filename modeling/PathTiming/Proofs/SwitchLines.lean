import PathTiming.Proofs.ClassPriority

/-! The switches of a rules file. The last line with the key of a switch decides on it, and only the
word for the opposite of the default turns it. -/
namespace PathTiming

namespace Unicode

/-- The case mapping of the standard sends the capital letters of ASCII to the small ones, and keeps
all other characters of ASCII. -/
theorem lowerMap_apply_of_lt :
    ∀ n < 128, lowerMap.apply n = if 65 ≤ n ∧ n ≤ 90 then n + 32 else n := by
  unfold lowerMap CaseMap.decode
  -- the kernel does not get through the text of the mapping before it is a list of characters
  rw [String.toList_ofList]
  decide +kernel

theorem lowerChar_of_lt (before : List Char) {c : Char} (h : c.toNat < 128) (after : List Char) :
    lowerChar before c after = [c.toLower] := by
  have hsigma : c ≠ 'Σ' := by
    rintro rfl
    exact absurd h (by decide)
  have hdotted : c ≠ 'İ' := by
    rintro rfl
    exact absurd h (by decide)
  have hsmall : ∀ n < 128, Char.ofNat (if 65 ≤ n ∧ n ≤ 90 then n + 32 else n) =
      (Char.ofNat n).toLower := by
    decide
  rw [lowerChar, if_neg hsigma, if_neg hdotted, lowerMap_apply_of_lt _ h, hsmall _ h,
    Char.ofNat_toNat]

theorem lowerFrom_of_lt {cs : List Char} (h : ∀ c ∈ cs, c.toNat < 128) (before : List Char) :
    lowerFrom before cs = cs.map Char.toLower := by
  induction cs generalizing before with
  | nil => rfl
  | cons c cs ih =>
    rw [lowerFrom, lowerChar_of_lt before (h c List.mem_cons_self),
      ih fun c hc => h c (List.mem_cons_of_mem _ hc)]
    rfl

/-- In ASCII the lower case of a text is that of its letters. -/
theorem toLower_of_lt {s : String} (h : s.toList.all (·.toNat < 128) = true) :
    toLower s = String.ofList (s.toList.map Char.toLower) := by
  have hlt : ∀ c ∈ s.toList, c.toNat < 128 := by simpa using h
  rw [toLower, lowerFrom_of_lt hlt]

end Unicode

namespace Toggle

theorem ofKey?_key (t : Toggle) : ofKey? t.key = some t := by
  cases t <;> decide +kernel

theorem resolve_eq_not_default_iff (t : Toggle) (text : String) :
    t.resolve text = !t.default ↔ Unicode.toLower text = spelling (!t.default) := by
  unfold resolve
  by_cases hword : Unicode.toLower text = spelling (!t.default)
  · simp [hword]
  · simp [hword]

theorem resolve_of_ne {t : Toggle} {text : String}
    (h : Unicode.toLower text ≠ spelling (!t.default)) : t.resolve text = t.default := if_neg h

end Toggle

namespace RuleEntry

def HasValue (key line value : String) : Prop := keyOf? line = some key ∧ valueOf? line = some value

theorem valueUnder?_eq_some_iff {key : String} (line value : String) :
    valueUnder? key line = some value ↔ HasValue key line value := by
  unfold valueUnder? HasValue
  by_cases hkey : keyOf? line = some key
  · simp [hkey]
  · simp [hkey]

theorem exists_hasValue_iff (key line : String) :
    (∃ value, HasValue key line value) ↔ keyOf? line = some key := by
  constructor
  · rintro ⟨value, hkey, -⟩
    exact hkey
  · intro hkey
    obtain ⟨value, hvalue⟩ := exists_valueOf? hkey
    exact ⟨value, hkey, hvalue⟩

def toggled? (t : Toggle) : RuleEntry → Option Bool
  | .toggle which value => if which = t then some value else none
  | _ => none

/-- A line sets a switch exactly if it has the key of the switch, whatever the value spells. -/
theorem bind_toggled? (t : Toggle) (line : String) :
    (entryOf? line).bind (toggled? t) = (valueUnder? t.key line).map t.resolve := by
  have hkey : ∀ entry a, toggled? t entry = some a → entry.key = t.key := by
    intro entry a h
    cases entry with
    | toggle which value =>
      dsimp only [toggled?] at h
      split_ifs at h with hwhich
      exact congrArg Toggle.key hwhich
    | _ => cases h
  rw [bind_entryOf? hkey]
  cases valueUnder? t.key line with
  | none => rfl
  | some value =>
    have hread : ofKeyValue t.key value.toList = .ok (.toggle t (t.resolve value)) := by
      rw [ofKeyValue, Toggle.ofKey?_key, String.ofList_toList]
    rw [Option.bind_some, hread]
    exact if_pos rfl

end RuleEntry

namespace RuleSet
open RuleEntry (keyOf? valueUnder? HasValue)

section
variable {f : SourceFile} {rules : RuleSet} {warnings : List Diagnostic}

theorem toggle_add (r : RuleSet) (entry : RuleEntry) (t : Toggle) :
    (r.add entry).toggle t = (entry.toggled? t).getD (r.toggle t) := by
  cases entry with
  | toggle which value =>
    by_cases hwhich : which = t
    · subst hwhich
      simp [add, toggle, Toggles.set, RuleEntry.toggled?]
    · simp [add, toggle, Toggles.set, RuleEntry.toggled?, hwhich, Ne.symm hwhich]
  | _ => rfl

/-- A switch has the value that the last line with its key gives it. -/
theorem toggle_of_ofFile (h : ofFile f = .ok (rules, warnings)) (t : Toggle) :
    rules.toggle t =
      ((f.lines.filterMap (valueUnder? t.key)).getLast?.map t.resolve).getD t.default := by
  have hpart := part_of_ofFile (·.toggle t) (RuleEntry.toggled? t) (fun _ value => value)
    (fun r entry => by rw [toggle_add]; cases entry.toggled? t <;> rfl) (fun _ _ => rfl) h
  simp only [RuleEntry.bind_toggled?, foldl_last, Option.map_id_fun'] at hpart
  rw [hpart, ← List.getLast?_map, List.map_filterMap]
  rfl

theorem getLast?_valueUnder?_eq_some_iff {key value : String} {lines : List String} :
    (lines.filterMap (valueUnder? key)).getLast? = some value ↔
      LastGives (HasValue key) lines value :=
  getLast?_filterMap_eq_some_iff RuleEntry.valueUnder?_eq_some_iff value

theorem toggle_of_lastGives {t : Toggle} {value : String} (h : ofFile f = .ok (rules, warnings))
    (hgives : LastGives (HasValue t.key) f.lines value) : rules.toggle t = t.resolve value := by
  rw [toggle_of_ofFile h, getLast?_valueUnder?_eq_some_iff.mpr hgives]
  rfl

theorem toggle_of_forall_ne {t : Toggle} (h : ofFile f = .ok (rules, warnings))
    (hnone : ∀ line ∈ f.lines, keyOf? line ≠ some t.key) : rules.toggle t = t.default := by
  have hgiven : (f.lines.filterMap (valueUnder? t.key)).getLast? = none := by
    refine (getLast?_filterMap_eq_none_iff RuleEntry.valueUnder?_eq_some_iff).mpr ?_
    intro line hline value hvalue
    exact hnone line hline ((RuleEntry.exists_hasValue_iff t.key line).mp ⟨value, hvalue⟩)
  rw [toggle_of_ofFile h, hgiven]
  rfl

/-- A switch is turned exactly if the last line with its key has the word for the opposite of its
default. It has its default if no line has its key, and also if the last one has any other value,
whatever the lines before it say. Lines with other keys do not matter. -/
theorem ofFile_toggle_last_line (h : ofFile f = .ok (rules, warnings)) (t : Toggle) :
    (rules.toggle t = !t.default ↔ ∃ value, LastGives (HasValue t.key) f.lines value ∧
      Unicode.toLower value = Toggle.spelling (!t.default)) ∧
    ((∀ line ∈ f.lines, keyOf? line ≠ some t.key) → rules.toggle t = t.default) ∧
    (∀ value, LastGives (HasValue t.key) f.lines value →
      Unicode.toLower value ≠ Toggle.spelling (!t.default) → rules.toggle t = t.default) ∧
    ∀ g rules' warnings', ofFile g = .ok (rules', warnings') →
      linesUnder t.key g = linesUnder t.key f → rules'.toggle t = rules.toggle t := by
  have hturned : t.default ≠ !t.default := by simp
  refine ⟨⟨fun hvalue => ?_, ?_⟩, toggle_of_forall_ne h, fun value hgives hother => ?_, ?_⟩
  · cases hgiven : (f.lines.filterMap (valueUnder? t.key)).getLast? with
    | none =>
      rw [toggle_of_ofFile h, hgiven] at hvalue
      exact absurd hvalue hturned
    | some value =>
      have hgives := getLast?_valueUnder?_eq_some_iff.mp hgiven
      rw [toggle_of_lastGives h hgives] at hvalue
      exact ⟨value, hgives, (t.resolve_eq_not_default_iff value).mp hvalue⟩
  · rintro ⟨value, hgives, hword⟩
    rw [toggle_of_lastGives h hgives]
    exact (t.resolve_eq_not_default_iff value).mpr hword
  · rw [toggle_of_lastGives h hgives]
    exact Toggle.resolve_of_ne hother
  · intro g rules' warnings' hg hsame
    have hvalues : ∀ file : SourceFile, (linesUnder t.key file).filterMap (valueUnder? t.key) =
        file.lines.filterMap (valueUnder? t.key) :=
      fun file => filterMap_filter_keyOf? (fun _ => RuleEntry.valueUnder?_of_ne) file.lines
    rw [toggle_of_ofFile h, toggle_of_ofFile hg, ← hvalues, hsame, hvalues]

/-- Rules that turn one switch and back, and another one behind a line that does nothing. -/
def switchRules : SourceFile :=
  firstRules ("delta_sum_enable: true\nslack_on_report: no\ndelta_sum_enable: enabled\n" ++
    "slack_on_report: False\n")

theorem ofFile_toggle_last_line_turnedBack :
    ∃ rules, ofFile switchRules = .ok (rules, []) ∧ rules.toggle .deltaSumEnable = false ∧
      rules.toggle .slackOnReport = false ∧ rules.toggle .clockSkewOnReport = true := by
  obtain ⟨hsilent, hlines⟩ : (ofFile switchRules).toOption.map (·.2) = some [] ∧
      switchRules.lines = ["delta_sum_enable: true", "slack_on_report: no",
        "delta_sum_enable: enabled", "slack_on_report: False"] := by
    rw [switchRules, firstRules, SourceFile.ofText_append rfl rfl]
    decide +kernel
  obtain ⟨⟨rules, warnings⟩, hf, rfl⟩ := ok_of_toOption_map hsilent
  refine ⟨rules, hf, ?_, ?_, ?_⟩
  · obtain ⟨-, -, hother, -⟩ := ofFile_toggle_last_line hf .deltaSumEnable
    refine hother "enabled" ⟨["delta_sum_enable: true", "slack_on_report: no"], _,
      ["slack_on_report: False"], hlines, ?_, ?_⟩ ?_
    · exact ⟨by decide +kernel, by decide +kernel⟩
    · rintro later hlater other ⟨hkey, -⟩
      rw [List.mem_singleton.mp hlater] at hkey
      exact absurd hkey (by decide +kernel)
    · rw [Unicode.toLower_of_lt (by decide +kernel)]
      decide +kernel
  · obtain ⟨hturned, -⟩ := ofFile_toggle_last_line hf .slackOnReport
    refine hturned.mpr ⟨"False", ⟨["delta_sum_enable: true", "slack_on_report: no",
      "delta_sum_enable: enabled"], _, [], hlines, ?_, ?_⟩, ?_⟩
    · exact ⟨by decide +kernel, by decide +kernel⟩
    · exact fun later hlater => absurd hlater List.not_mem_nil
    · rw [Unicode.toLower_of_lt (by decide +kernel)]
      decide +kernel
  · obtain ⟨-, hdefault, -⟩ := ofFile_toggle_last_line hf .clockSkewOnReport
    refine hdefault ?_
    rw [hlines]
    decide +kernel

end

end RuleSet

end PathTiming
