import PathTiming.Proofs.ChartShape

/-! Which charts a request asks for. They are told by the codes that have a meaning, wherever these
stand and however often; each word without a meaning gives one warning. -/
namespace PathTiming

/-- A sublist of a list without repetitions is told by its members. -/
theorem filter_mem_of_sublist {α : Type} [DecidableEq α] {as bs : List α} (h : as.Sublist bs)
    (hbs : bs.Nodup) : bs.filter (· ∈ as) = as := by
  induction h with
  | slnil => rfl
  | @cons as bs b hsub ih =>
    obtain ⟨hb, hbs⟩ := List.nodup_cons.mp hbs
    have hnot : b ∉ as := fun hmem => hb (hsub.subset hmem)
    rw [List.filter_cons_of_neg (by simpa using hnot), ih hbs]
  | @cons_cons as bs b hsub ih =>
    obtain ⟨hb, hbs⟩ := List.nodup_cons.mp hbs
    have hrest : bs.filter (· ∈ b :: as) = bs.filter (· ∈ as) := by
      apply List.filter_congr
      intro a ha
      have hne : a ≠ b := fun heq => hb (heq ▸ ha)
      simp [hne]
    rw [List.filter_cons_of_pos (by simp), hrest, ih hbs]

theorem EnumSet.eq_of_ordered {α : Type} [Listed α] [DecidableEq α] {s t : EnumSet α}
    (hall : (Listed.all : List α).Nodup) (hs : s.Ordered) (ht : t.Ordered)
    (h : ∀ a, s.contains a = true ↔ t.contains a = true) : s = t := by
  have hmem : ∀ a, a ∈ s.toList ↔ a ∈ t.toList := by
    intro a
    rw [← List.contains_iff_mem, ← List.contains_iff_mem]
    exact h a
  have hlist : s.toList = t.toList := by
    rw [← filter_mem_of_sublist hs hall, ← filter_mem_of_sublist ht hall]
    apply List.filter_congr
    intro a _
    rw [decide_eq_decide]
    exact hmem a
  cases s
  cases t
  exact congrArg EnumSet.mk hlist

theorem BarData.ofCode?_eq_some_iff {text : String} {d : BarData} :
    ofCode? text = some d ↔ d.code = text := by
  constructor
  · intro h
    have hcode : decide (d.code = text) = true :=
      List.find?_some (p := fun d : BarData => decide (d.code = text)) h
    exact of_decide_eq_true hcode
  · rintro rfl
    cases d <;> rfl

theorem BarData.ofCode?_eq_none_iff {text : String} :
    ofCode? text = none ↔ text ∉ (Listed.all : List BarData).map code := by
  simp [ofCode?]

theorem BarPart.ofCode?_eq_some_iff {text : String} {p : BarPart} :
    ofCode? text = some p ↔ p.code = text := by
  constructor
  · intro h
    have hcode : decide (p.code = text) = true :=
      List.find?_some (p := fun p : BarPart => decide (p.code = text)) h
    exact of_decide_eq_true hcode
  · rintro rfl
    cases p <;> rfl

theorem BarPart.ofCode?_eq_none_iff {text : String} :
    ofCode? text = none ↔ text ∉ (Listed.all : List BarPart).map code := by
  simp [ofCode?]

namespace BarRequest

/-! ### What a request is told by -/

/-- The words that are the code of no value, in order and as often as they come. -/
def unknownWords {α : Type} [Listed α] (code : α → String) (words : List String) : List String :=
  words.filter (· ∉ (Listed.all : List α).map code)

def unknownDataWarning (code : String) : Diagnostic :=
  ignored s!"unknown bar data type '{code}', ignored"

def unknownPartWarning (code : String) : Diagnostic :=
  ignored s!"unknown bar path type '{code}', ignored"

def undefinedGroupWarning (tag : String) : Diagnostic :=
  ignored s!"bar dataset '{tag}' is not defined in the rules, ignored"

/-- Some codes ask for a kind of data. The chart by cell type asks for the delays as well. -/
def AsksFor (codes : List String) (d : BarData) : Prop :=
  d.code ∈ codes ∨ d = .incr ∧ BarData.cellType.code ∈ codes

/-- The codes of groups, each in the rules that it is looked up in. An undefined group has none. -/
def groupCodes (groups : List (RuleSet × String)) : List String :=
  groups.flatMap fun (rules, tag) => (rules.barSet? tag).getD []

/-- The warnings about a group: one if it is not defined, or one for each unknown code of it. -/
def groupWarnings (rules : RuleSet) (tag : String) : List Diagnostic :=
  match rules.barSet? tag with
  | none => [undefinedGroupWarning tag]
  | some codes => (unknownWords BarData.code codes).map unknownDataWarning

/-- Adds the data of one group after another. -/
def addGroups (r : BarRequest) : List (RuleSet × String) → BarRequest × List Diagnostic
  | [] => (r, [])
  | (rules, tag) :: groups =>
    let (r, warnings) := r.addBarSet rules tag
    let (r, more) := r.addGroups groups
    (r, warnings ++ more)

/-- The request of some codes, with the data of some groups. -/
def ofGroups (data parts : List String) (groups : List (RuleSet × String)) :
    BarRequest × List Diagnostic :=
  let (r, warnings) := ofCodes data parts
  let (r, more) := r.addGroups groups
  (r, warnings ++ more)

theorem AsksFor.congr {codes codes' : List String}
    (h : ∀ d : BarData, d.code ∈ codes ↔ d.code ∈ codes') (d : BarData) :
    AsksFor codes d ↔ AsksFor codes' d := by
  unfold AsksFor
  rw [h d, h .cellType]

theorem asksFor_append {codes codes' : List String} {d : BarData} :
    AsksFor (codes ++ codes') d ↔ AsksFor codes d ∨ AsksFor codes' d := by
  unfold AsksFor
  rw [List.mem_append, List.mem_append, and_or_left]
  exact or_or_or_comm

/-! ### Codes one by one -/

section
variable {add : BarRequest → String → BarRequest × List Diagnostic} {r : BarRequest}
  {codes : List String}

/-- What each code may add, some codes add when one of them does. -/
theorem addAll_iff (has : BarRequest → Prop) (adds : String → Prop)
    (hadd : ∀ r code, has (add r code).1 ↔ has r ∨ adds code) :
    has (addAll add r codes).1 ↔ has r ∨ ∃ code ∈ codes, adds code := by
  induction codes generalizing r with
  | nil => simp [addAll]
  | cons code codes ih =>
    have hrest : has (addAll add r (code :: codes)).1 ↔
        has (add r code).1 ∨ ∃ code ∈ codes, adds code := ih
    rw [hrest, hadd, or_assoc, List.exists_mem_cons_iff]

theorem addAll_frame {α : Type} {f : BarRequest → α} (hadd : ∀ r code, f (add r code).1 = f r) :
    f (addAll add r codes).1 = f r := by
  induction codes generalizing r with
  | nil => rfl
  | cons code codes ih =>
    have hrest : f (addAll add r (code :: codes)).1 = f (add r code).1 := ih
    rw [hrest, hadd]

/-- Each word without a meaning is warned of in its turn. -/
theorem addAll_warnings {α : Type} [Listed α] {code : α → String} {warning : String → Diagnostic}
    (hadd : ∀ r word, (add r word).2 =
      if word ∈ (Listed.all : List α).map code then [] else [warning word]) :
    (addAll add r codes).2 = (unknownWords code codes).map warning := by
  induction codes generalizing r with
  | nil => rfl
  | cons word codes ih =>
    have hrest : (addAll add r (word :: codes)).2 =
        (add r word).2 ++ (addAll add (add r word).1 codes).2 := rfl
    rw [hrest, hadd, ih, unknownWords, unknownWords, List.filter_cons]
    by_cases hword : word ∈ (Listed.all : List α).map code <;> simp [hword]

end

theorem contains_data_addData (r : BarRequest) (code : String) (d : BarData) :
    (r.addData code).1.data.contains d = true ↔ r.data.contains d = true ∨ AsksFor [code] d := by
  unfold AsksFor
  rw [List.mem_singleton, List.mem_singleton]
  unfold addData
  cases hcode : BarData.ofCode? code with
  | none =>
    have hno : ∀ d : BarData, d.code ≠ code := by
      intro d hd
      rw [BarData.ofCode?_eq_some_iff.mpr hd] at hcode
      cases hcode
    simp [hno]
  | some d' =>
    obtain rfl := BarData.ofCode?_eq_some_iff.mp hcode
    cases d' <;> cases d <;> simp [BarData.code]

theorem warnings_addData (r : BarRequest) (code : String) : (r.addData code).2 =
    if code ∈ (Listed.all : List BarData).map BarData.code then []
    else [unknownDataWarning code] := by
  unfold addData
  cases hcode : BarData.ofCode? code with
  | none =>
    rw [if_neg (BarData.ofCode?_eq_none_iff.mp hcode)]
    rfl
  | some d =>
    obtain rfl := BarData.ofCode?_eq_some_iff.mp hcode
    rw [if_pos (List.mem_map_of_mem (Listed.mem_all d))]
    cases d <;> rfl

theorem parts_addData (r : BarRequest) (code : String) : (r.addData code).1.parts = r.parts := by
  unfold addData
  split <;> rfl

theorem contains_parts_addPart (r : BarRequest) (code : String) (p : BarPart) :
    (r.addPart code).1.parts.contains p = true ↔ r.parts.contains p = true ∨ p.code = code := by
  unfold addPart
  cases hcode : BarPart.ofCode? code with
  | none =>
    have hno : ∀ p : BarPart, p.code ≠ code := by
      intro p hp
      rw [BarPart.ofCode?_eq_some_iff.mpr hp] at hcode
      cases hcode
    simp [hno]
  | some p' =>
    obtain rfl := BarPart.ofCode?_eq_some_iff.mp hcode
    cases p' <;> cases p <;> simp [BarPart.code]

theorem warnings_addPart (r : BarRequest) (code : String) : (r.addPart code).2 =
    if code ∈ (Listed.all : List BarPart).map BarPart.code then []
    else [unknownPartWarning code] := by
  unfold addPart
  cases hcode : BarPart.ofCode? code with
  | none =>
    rw [if_neg (BarPart.ofCode?_eq_none_iff.mp hcode)]
    rfl
  | some p =>
    obtain rfl := BarPart.ofCode?_eq_some_iff.mp hcode
    rw [if_pos (List.mem_map_of_mem (Listed.mem_all p))]

theorem data_addPart (r : BarRequest) (code : String) : (r.addPart code).1.data = r.data := by
  unfold addPart
  split <;> rfl

theorem contains_data_addAll (r : BarRequest) (codes : List String) (d : BarData) :
    (addAll addData r codes).1.data.contains d = true ↔
      r.data.contains d = true ∨ AsksFor codes d := by
  rw [addAll_iff (·.data.contains d = true) (AsksFor [·] d)
    fun r code => contains_data_addData r code d]
  apply or_congr_right
  unfold AsksFor
  simp only [List.mem_singleton]
  constructor
  · rintro ⟨code, hcode, rfl | ⟨hd, rfl⟩⟩
    · exact .inl hcode
    · exact .inr ⟨hd, hcode⟩
  · rintro (hcode | ⟨hd, hcode⟩)
    · exact ⟨_, hcode, .inl rfl⟩
    · exact ⟨_, hcode, .inr ⟨hd, rfl⟩⟩

theorem contains_parts_addAll (r : BarRequest) (codes : List String) (p : BarPart) :
    (addAll addPart r codes).1.parts.contains p = true ↔
      r.parts.contains p = true ∨ p.code ∈ codes := by
  rw [addAll_iff (·.parts.contains p = true) (p.code = ·)
    fun r code => contains_parts_addPart r code p]
  simp

/-! ### Requests of codes -/

section
variable (data parts : List String)

/-- A request of codes is made in three steps: the data, the parts, and the full path in place of
the data path. -/
theorem ofCodes_eq : ofCodes data parts =
    let r := (addAll addPart (addAll addData {} data).1 parts).1
    (if r.parts.contains .full then { r with parts := r.parts.erase .data } else r,
      (addAll addData {} data).2 ++ (addAll addPart (addAll addData {} data).1 parts).2) := rfl

theorem contains_data_ofCodes (d : BarData) :
    (ofCodes data parts).1.data.contains d = true ↔ AsksFor data d := by
  have hdata : (ofCodes data parts).1.data = (addAll addData {} data).1.data := by
    have hparts : (addAll addPart (addAll addData {} data).1 parts).1.data =
        (addAll addData {} data).1.data := addAll_frame data_addPart
    rw [ofCodes_eq]
    dsimp only
    split_ifs
    · exact hparts
    · exact hparts
  rw [hdata, contains_data_addAll]
  apply or_iff_right
  simp

theorem contains_parts_ofCodes (p : BarPart) :
    (ofCodes data parts).1.parts.contains p = true ↔
      p.code ∈ parts ∧ ¬ (p = .data ∧ BarPart.full.code ∈ parts) := by
  have hparts : ∀ p : BarPart,
      (addAll addPart (addAll addData {} data).1 parts).1.parts.contains p = true ↔
        p.code ∈ parts := by
    intro p
    have hnone : (addAll addData {} data).1.parts = EnumSet.empty := addAll_frame parts_addData
    rw [contains_parts_addAll, hnone]
    apply or_iff_right
    simp
  rw [ofCodes_eq]
  dsimp only
  split_ifs with hfull
  · rw [hparts] at hfull
    rw [EnumSet.contains_erase, Bool.and_eq_true, hparts, bne_iff_ne]
    tauto
  · rw [hparts] at hfull
    rw [hparts]
    tauto

theorem warnings_ofCodes : (ofCodes data parts).2 =
    (unknownWords BarData.code data).map unknownDataWarning ++
      (unknownWords BarPart.code parts).map unknownPartWarning := by
  rw [ofCodes_eq]
  dsimp only
  rw [addAll_warnings warnings_addData, addAll_warnings warnings_addPart]

theorem kind_of_ofCodes :
    ∀ d ∈ (ofCodes data parts).2, d.severity = .warning ∧ d.code = ⟨.analysis, 203⟩ := by
  intro d hd
  rw [warnings_ofCodes] at hd
  rcases List.mem_append.mp hd with hd | hd
  · obtain ⟨code, -, rfl⟩ := List.mem_map.mp hd
    exact ⟨rfl, rfl⟩
  · obtain ⟨code, -, rfl⟩ := List.mem_map.mp hd
    exact ⟨rfl, rfl⟩

end

/-! ### Groups -/

section
variable (r : BarRequest)

theorem parts_addBarSet (rules : RuleSet) (tag : String) :
    (r.addBarSet rules tag).1.parts = r.parts := by
  unfold addBarSet
  split
  · rfl
  · exact addAll_frame parts_addData

theorem contains_data_addBarSet (rules : RuleSet) (tag : String) (d : BarData) :
    (r.addBarSet rules tag).1.data.contains d = true ↔
      r.data.contains d = true ∨ AsksFor ((rules.barSet? tag).getD []) d := by
  unfold addBarSet
  cases rules.barSet? tag with
  | none => simp [AsksFor]
  | some codes => exact contains_data_addAll r codes d

theorem warnings_addBarSet (rules : RuleSet) (tag : String) :
    (r.addBarSet rules tag).2 = groupWarnings rules tag := by
  unfold addBarSet groupWarnings
  cases rules.barSet? tag with
  | none => rfl
  | some codes => exact addAll_warnings warnings_addData

theorem kind_of_groupWarnings (rules : RuleSet) (tag : String) :
    ∀ d ∈ groupWarnings rules tag, d.severity = .warning ∧ d.code = ⟨.analysis, 203⟩ := by
  intro d hd
  unfold groupWarnings at hd
  split at hd
  · rw [List.mem_singleton.mp hd]
    exact ⟨rfl, rfl⟩
  · obtain ⟨code, -, rfl⟩ := List.mem_map.mp hd
    exact ⟨rfl, rfl⟩

theorem kind_of_addBarSet (rules : RuleSet) (tag : String) :
    ∀ d ∈ (r.addBarSet rules tag).2, d.severity = .warning ∧ d.code = ⟨.analysis, 203⟩ := by
  rw [warnings_addBarSet]
  exact kind_of_groupWarnings rules tag

theorem addGroups_cons (rules : RuleSet) (tag : String) (groups : List (RuleSet × String)) :
    r.addGroups ((rules, tag) :: groups) =
      (((r.addBarSet rules tag).1.addGroups groups).1,
        (r.addBarSet rules tag).2 ++ ((r.addBarSet rules tag).1.addGroups groups).2) := rfl

/-- What groups add to a request, in any order and number: data, and no parts. -/
theorem addGroups_law (groups : List (RuleSet × String)) :
    (r.addGroups groups).1.parts = r.parts ∧
    (∀ d, (r.addGroups groups).1.data.contains d = true ↔
      r.data.contains d = true ∨ AsksFor (groupCodes groups) d) ∧
    (r.addGroups groups).2 = groups.flatMap fun (rules, tag) => groupWarnings rules tag := by
  induction groups generalizing r with
  | nil => exact ⟨rfl, fun d => by simp [addGroups, groupCodes, AsksFor], rfl⟩
  | cons group groups ih =>
    obtain ⟨rules, tag⟩ := group
    obtain ⟨hparts, hdata, hwarnings⟩ := ih (r.addBarSet rules tag).1
    rw [addGroups_cons]
    refine ⟨hparts.trans (r.parts_addBarSet rules tag), fun d => ?_, ?_⟩
    · have hcodes : groupCodes ((rules, tag) :: groups) =
          (rules.barSet? tag).getD [] ++ groupCodes groups := rfl
      rw [hdata, contains_data_addBarSet, hcodes, asksFor_append, or_assoc]
    · rw [hwarnings, warnings_addBarSet]
      rfl

theorem ordered_addGroups {r : BarRequest} (h : r.Ordered) (groups : List (RuleSet × String)) :
    (r.addGroups groups).1.Ordered := by
  induction groups generalizing r with
  | nil => exact h
  | cons group groups ih => exact ih (ordered_addBarSet h group.1 group.2)

end

/-- Requests in order that ask for the same charts are the same. -/
theorem eq_of_ordered {r r' : BarRequest} (hr : r.Ordered) (hr' : r'.Ordered)
    (hdata : ∀ d, r.data.contains d = true ↔ r'.data.contains d = true)
    (hparts : ∀ p, r.parts.contains p = true ↔ r'.parts.contains p = true) : r = r' := by
  have hd : r.data = r'.data := EnumSet.eq_of_ordered (by decide) hr.1 hr'.1 hdata
  have hp : r.parts = r'.parts := EnumSet.eq_of_ordered (by decide) hr.2 hr'.2 hparts
  cases r
  cases r'
  cases hd
  cases hp
  rfl

/-- A request of codes and groups asks for the data that their codes name, with the delays where
cell types are asked for, and for the parts that the codes of parts name, without the data path
where the full path is asked for; no group changes its parts. Neither order nor repetition of codes
and groups matters. Each unknown code and each undefined group gives one warning of the same kind, in
order. -/
theorem ofGroups_closed (data parts : List String) (groups : List (RuleSet × String)) :
    (∀ d, (ofGroups data parts groups).1.data.contains d = true ↔
      d.code ∈ data ++ groupCodes groups ∨
        d = .incr ∧ BarData.cellType.code ∈ data ++ groupCodes groups) ∧
    (∀ p, (ofGroups data parts groups).1.parts.contains p = true ↔
      p.code ∈ parts ∧ ¬ (p = .data ∧ BarPart.full.code ∈ parts)) ∧
    (∀ (r : BarRequest) (rules : RuleSet) (tag : String),
      (r.addBarSet rules tag).1.parts = r.parts ∧
        ∀ d, (r.addBarSet rules tag).1.data.contains d = true ↔ r.data.contains d = true ∨
          (ofCodes ((rules.barSet? tag).getD []) []).1.data.contains d = true) ∧
    (∀ data' parts' groups',
      (∀ d : BarData, d.code ∈ data' ++ groupCodes groups' ↔ d.code ∈ data ++ groupCodes groups) →
      (∀ p : BarPart, p.code ∈ parts' ↔ p.code ∈ parts) →
        (ofGroups data' parts' groups').1 = (ofGroups data parts groups).1) ∧
    (ofGroups data parts groups).2 =
      (unknownWords BarData.code data).map unknownDataWarning ++
        (unknownWords BarPart.code parts).map unknownPartWarning ++
        groups.flatMap (fun (rules, tag) => groupWarnings rules tag) ∧
    ∀ d ∈ (ofGroups data parts groups).2, d.severity = .warning ∧ d.code = ⟨.analysis, 203⟩ := by
  have hdata : ∀ data parts groups d, (ofGroups data parts groups).1.data.contains d = true ↔
      AsksFor (data ++ groupCodes groups) d := by
    intro data parts groups d
    have hgroups := ((ofCodes data parts).1.addGroups_law groups).2.1 d
    rw [contains_data_ofCodes, ← asksFor_append] at hgroups
    exact hgroups
  have hparts : ∀ data parts groups p, (ofGroups data parts groups).1.parts.contains p = true ↔
      p.code ∈ parts ∧ ¬ (p = .data ∧ BarPart.full.code ∈ parts) := by
    intro data parts groups p
    have hgroups : (ofGroups data parts groups).1.parts = (ofCodes data parts).1.parts :=
      ((ofCodes data parts).1.addGroups_law groups).1
    rw [hgroups, contains_parts_ofCodes]
  have hordered : ∀ data parts groups, (ofGroups data parts groups).1.Ordered :=
    fun data parts groups => ordered_addGroups (ordered_ofCodes data parts) groups
  have hwarnings : (ofGroups data parts groups).2 =
      (ofCodes data parts).2 ++ groups.flatMap fun (rules, tag) => groupWarnings rules tag :=
    congrArg ((ofCodes data parts).2 ++ ·) ((ofCodes data parts).1.addGroups_law groups).2.2
  refine ⟨hdata data parts groups, hparts data parts groups, ?_, ?_, ?_, ?_⟩
  · intro r rules tag
    refine ⟨r.parts_addBarSet rules tag, fun d => ?_⟩
    rw [contains_data_addBarSet, contains_data_ofCodes]
  · intro data' parts' groups' hd hp
    apply eq_of_ordered (hordered data' parts' groups') (hordered data parts groups)
    · intro d
      rw [hdata, hdata]
      exact AsksFor.congr hd d
    · intro p
      rw [hparts, hparts, hp, hp]
  · rw [hwarnings, warnings_ofCodes]
  · intro d hd
    rw [hwarnings] at hd
    rcases List.mem_append.mp hd with hd | hd
    · exact kind_of_ofCodes data parts d hd
    · obtain ⟨⟨rules, tag⟩, -, hd⟩ := List.mem_flatMap.mp hd
      exact kind_of_groupWarnings rules tag d hd

/-- Rules with one group of codes. -/
def groupRules : RuleSet := { barSets := ⟨[("drv", ["ct", "p"])]⟩ }

theorem ofGroups_closed_reordered :
    (ofGroups ["zz", "p", "p"] ["d", "f", "f"]
        [(groupRules, "nope"), (groupRules, "drv"), (groupRules, "drv")]).1 =
      (ofGroups ["ct"] ["f", "d"] [(groupRules, "drv")]).1 ∧
    (ofGroups ["zz", "p", "p"] ["d", "f", "f"]
        [(groupRules, "nope"), (groupRules, "drv"), (groupRules, "drv")]).2 =
      [unknownDataWarning "zz", undefinedGroupWarning "nope"] := by
  obtain ⟨-, -, -, hsame, -⟩ := ofGroups_closed ["ct"] ["f", "d"] [(groupRules, "drv")]
  obtain ⟨-, -, -, -, hwarnings, -⟩ := ofGroups_closed ["zz", "p", "p"] ["d", "f", "f"]
    [(groupRules, "nope"), (groupRules, "drv"), (groupRules, "drv")]
  refine ⟨hsame _ _ _ (fun d => ?_) fun p => ?_, hwarnings.trans (by decide)⟩
  · cases d <;> decide
  · cases p <;> decide

end BarRequest

end PathTiming
