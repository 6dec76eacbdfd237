import Mathlib.Data.Nat.Find
import Mathlib.Order.Bounds.Basic
import PathTiming.Analysis.ClockCheck
import PathTiming.Rules.Compile

/-! What the comparison of two clock networks finds: the pins that both begin with, and the first of
these whose cells are not known to be of one type. -/
namespace PathTiming

namespace ClockCheck

/-- Some names are the first ones of both networks. -/
def CommonStart (launch capture : List Pin) (n : Nat) : Prop :=
  ∃ front : List String, front.length = n ∧ front <+: launch.map (·.name) ∧
    front <+: capture.map (·.name)

theorem CommonStart.symm {launch capture : List Pin} {n : Nat} (h : CommonStart launch capture n) :
    CommonStart capture launch n := by
  obtain ⟨front, hlen, hlaunch, hcapture⟩ := h
  exact ⟨front, hlen, hcapture, hlaunch⟩

theorem CommonStart.le_length {launch capture : List Pin} {n : Nat}
    (h : CommonStart launch capture n) : n ≤ launch.length := by
  obtain ⟨front, rfl, hlaunch, -⟩ := h
  simpa using hlaunch.length_le

theorem commonStart_sharedLength (launch capture : List Pin) :
    CommonStart launch capture (sharedLength launch capture) := by
  fun_induction sharedLength launch capture with
  | case1 l launch c capture hname ih =>
    obtain ⟨front, hlen, hlaunch, hcapture⟩ := ih
    refine ⟨l.name :: front, by rw [List.length_cons, hlen], ?_, ?_⟩
    · rw [List.map_cons]
      exact List.cons_prefix_cons.mpr ⟨rfl, hlaunch⟩
    · rw [List.map_cons]
      exact List.cons_prefix_cons.mpr ⟨hname, hcapture⟩
  | case2 => exact ⟨[], rfl, List.nil_prefix, List.nil_prefix⟩
  | case3 => exact ⟨[], rfl, List.nil_prefix, List.nil_prefix⟩

theorem CommonStart.le_sharedLength {launch capture : List Pin} {n : Nat}
    (h : CommonStart launch capture n) : n ≤ sharedLength launch capture := by
  obtain ⟨front, rfl, hlaunch, hcapture⟩ := h
  induction front generalizing launch capture with
  | nil => exact Nat.zero_le _
  | cons name front ih =>
    cases launch with
    | nil => simp at hlaunch
    | cons l launch =>
      cases capture with
      | nil => simp at hcapture
      | cons c capture =>
        rw [List.map_cons, List.cons_prefix_cons] at hlaunch hcapture
        have hname : l.name = c.name := hlaunch.1.symm.trans hcapture.1
        rw [sharedLength, if_pos hname, List.length_cons]
        exact Nat.succ_le_succ (ih hlaunch.2 hcapture.2)

/-- The pins that are counted as common are the longest beginning that the networks share. -/
theorem isGreatest_sharedLength (launch capture : List Pin) :
    IsGreatest {n | CommonStart launch capture n} (sharedLength launch capture) :=
  ⟨commonStart_sharedLength launch capture, fun _ h => CommonStart.le_sharedLength h⟩

theorem sharedLength_comm (launch capture : List Pin) :
    sharedLength capture launch = sharedLength launch capture := by
  apply Nat.le_antisymm
  · exact (commonStart_sharedLength capture launch).symm.le_sharedLength
  · exact (commonStart_sharedLength launch capture).symm.le_sharedLength

theorem sharedLength_le (launch capture : List Pin) :
    sharedLength launch capture ≤ min launch.length capture.length := by
  have h := commonStart_sharedLength launch capture
  exact Nat.le_min.mpr ⟨h.le_length, h.symm.le_length⟩

/-- All names of the shorter network are common exactly if it is the beginning of the longer one. -/
theorem sharedLength_eq_min_iff (launch capture : List Pin) :
    sharedLength launch capture = min launch.length capture.length ↔
      launch.map (·.name) <+: capture.map (·.name) ∨
        capture.map (·.name) <+: launch.map (·.name) := by
  constructor
  · intro h
    obtain ⟨front, hlen, hlaunch, hcapture⟩ := commonStart_sharedLength launch capture
    rcases Nat.le_total launch.length capture.length with hle | hle
    · have hfront : front = launch.map (·.name) := hlaunch.eq_of_length (by simp; omega)
      exact .inl (hfront ▸ hcapture)
    · have hfront : front = capture.map (·.name) := hcapture.eq_of_length (by simp; omega)
      exact .inr (hfront ▸ hlaunch)
  · intro h
    apply Nat.le_antisymm (sharedLength_le launch capture)
    rcases h with h | h
    · have hstart : CommonStart launch capture launch.length :=
        ⟨_, List.length_map _, List.prefix_refl _, h⟩
      exact (Nat.min_le_left _ _).trans hstart.le_sharedLength
    · have hstart : CommonStart launch capture capture.length :=
        ⟨_, List.length_map _, h, List.prefix_refl _⟩
      exact (Nat.min_le_right _ _).trans hstart.le_sharedLength

/-- At the place `i` stand two library pins whose cells are not known to be of one type. The first
place is on the level `level`. -/
def ConflictAt (rules : RuleSet) (level : Nat) (launch capture : List Pin) (i : Nat)
    (f : TypeConflict) : Prop :=
  ∃ l c, launch[i]? = some l ∧ capture[i]? = some c ∧ l.isPort = false ∧ c.isPort = false ∧
    (rules.clockType? l.cell = none ∨ rules.clockType? c.cell = none ∨
      rules.clockType? l.cell ≠ rules.clockType? c.cell) ∧
    f = ⟨level + i, l.line, c.line, rules.clockType? l.cell, rules.clockType? c.cell⟩

theorem isReal_iff (f : TypeConflict) : f.isReal = true ↔
    f.launchType = none ∨ f.captureType = none ∨ f.launchType ≠ f.captureType := by
  simp [TypeConflict.isReal, TypeConflict.isUnknown, or_assoc]

def levelOf (rules : RuleSet) (level : Nat) (l c : Pin) : TypeConflict :=
  ⟨level, l.line, c.line, rules.clockType? l.cell, rules.clockType? c.cell⟩

section
variable (rules : RuleSet) (level : Nat) (l c : Pin) (launch capture : List Pin) (f : TypeConflict)

theorem compareTypes?_eq : compareTypes? rules level l c =
    if l.isPort || c.isPort then none
    else if (levelOf rules level l c).isReal then some (levelOf rules level l c) else none := rfl

theorem compareTypes?_eq_some_iff : compareTypes? rules level l c = some f ↔
    l.isPort = false ∧ c.isPort = false ∧ (levelOf rules level l c).isReal = true ∧
      f = levelOf rules level l c := by
  rw [compareTypes?_eq]
  by_cases hport : (l.isPort || c.isPort) = true
  · rw [if_pos hport]
    rcases Bool.or_eq_true_iff.mp hport with hport | hport <;> simp [hport]
  · rw [if_neg hport]
    obtain ⟨hl, hc⟩ : l.isPort = false ∧ c.isPort = false := by simpa using hport
    by_cases hreal : (levelOf rules level l c).isReal = true
    · simp [hl, hc, hreal, @eq_comm _ f]
    · simp [hreal]

theorem conflictAt_zero : ConflictAt rules level (l :: launch) (c :: capture) 0 f ↔
    compareTypes? rules level l c = some f := by
  rw [compareTypes?_eq_some_iff, isReal_iff]
  simp [ConflictAt, levelOf]

theorem conflictAt_succ (i : Nat) :
    ConflictAt rules level (l :: launch) (c :: capture) (i + 1) f ↔
      ConflictAt rules (level + 1) launch capture i f := by
  have hlevel : level + (i + 1) = level + 1 + i := by omega
  simp only [ConflictAt, List.getElem?_cons_succ, hlevel]

/-- What is found is the first conflict before the networks part. -/
theorem conflictFrom?_eq_some_iff : conflictFrom? rules level launch capture = some f ↔
    ∃ i < sharedLength launch capture, ConflictAt rules level launch capture i f ∧
      ∀ j < i, ∀ g, ¬ ConflictAt rules level launch capture j g := by
  induction launch generalizing level capture with
  | nil => simp [conflictFrom?, sharedLength]
  | cons l launch ih =>
    cases capture with
    | nil => simp [conflictFrom?, sharedLength]
    | cons c capture =>
      rw [conflictFrom?, sharedLength]
      by_cases hname : l.name = c.name
      · rw [if_pos hname, if_pos hname, Nat.exists_lt_succ_left]
        simp only [Nat.forall_lt_succ_left, conflictAt_zero, conflictAt_succ]
        cases hfirst : compareTypes? rules level l c with
        | some g => simp
        | none => simp [ih]
      · simp [hname]

/-- Something is found exactly if there is a conflict before the networks part. -/
theorem isSome_conflictFrom?_iff : (conflictFrom? rules level launch capture).isSome = true ↔
    ∃ i < sharedLength launch capture, ∃ g, ConflictAt rules level launch capture i g := by
  classical
  simp only [Option.isSome_iff_exists, conflictFrom?_eq_some_iff]
  constructor
  · rintro ⟨g, i, hi, hg, -⟩
    exact ⟨i, hi, g, hg⟩
  · intro hex
    obtain ⟨hi, g, hg⟩ := Nat.find_spec hex
    have hmin : ∀ j < Nat.find hex, ∀ g', ¬ ConflictAt rules level launch capture j g' :=
      fun j hj g' hg' => Nat.find_min hex hj ⟨hj.trans hi, g', hg'⟩
    exact ⟨g, _, hi, hg, hmin⟩

end

end ClockCheck

/-! ### The comparison in the other direction -/

def TypeConflict.mirror (f : TypeConflict) : TypeConflict :=
  ⟨f.level, f.captureLine, f.launchLine, f.captureType, f.launchType⟩

def TraceRow.mirror (row : TraceRow) : TraceRow := ⟨row.level, row.capture, row.launch, row.shared⟩

/-- The comparison with the sides exchanged: lengths, lines and types change sides, and all else
stays. -/
def ClockCheck.mirror (c : ClockCheck) : ClockCheck where
  source := ⟨c.source.verdict, c.source.captureLength, c.source.launchLength, c.source.mismatch⟩
  fork := ⟨c.fork.level, c.fork.captureLine, c.fork.launchLine⟩
  conflict := c.conflict.map (·.mirror)
  trace := c.trace.map (·.map (·.mirror))

namespace ClockCheck

theorem isReal_mirror (f : TypeConflict) : f.mirror.isReal = f.isReal := by
  rw [Bool.eq_iff_iff, isReal_iff, isReal_iff]
  dsimp only [TypeConflict.mirror]
  tauto

theorem compareTypes?_mirror (rules : RuleSet) (level : Nat) (l c : Pin) :
    compareTypes? rules level c l = (compareTypes? rules level l c).map (·.mirror) := by
  have hlevel : levelOf rules level c l = (levelOf rules level l c).mirror := rfl
  rw [compareTypes?_eq, compareTypes?_eq, Bool.or_comm, hlevel, isReal_mirror]
  split_ifs <;> rfl

theorem conflictFrom?_mirror (rules : RuleSet) (level : Nat) (launch capture : List Pin) :
    conflictFrom? rules level capture launch =
      (conflictFrom? rules level launch capture).map (·.mirror) := by
  induction launch generalizing level capture with
  | nil => cases capture <;> rfl
  | cons l launch ih =>
    cases capture with
    | nil => rfl
    | cons c capture =>
      rw [conflictFrom?, conflictFrom?]
      by_cases hname : l.name = c.name
      · rw [if_pos hname, if_pos hname.symm, compareTypes?_mirror, ih]
        cases compareTypes? rules level l c <;> rfl
      · rw [if_neg hname, if_neg (Ne.symm hname)]
        rfl

theorem traceFrom_mirror (rules : RuleSet) (level : Nat) (launch capture : List Pin) :
    traceFrom rules level capture launch =
      (traceFrom rules level launch capture).map (·.mirror) := by
  fun_induction traceFrom rules level launch capture with
  | case1 => simp [traceFrom]
  | case2 level l launch ih =>
    rw [traceFrom, ih]
    rfl
  | case3 level c capture ih =>
    rw [traceFrom, ih]
    rfl
  | case4 level l launch c capture ih =>
    rw [traceFrom, ih, Bool.beq_comm]
    rfl

theorem ofNetworks_mirror (launch capture : List Pin) (rules : RuleSet) (traced : Bool) :
    ofNetworks capture launch rules traced = (ofNetworks launch capture rules traced).mirror := by
  unfold ofNetworks mirror
  dsimp only
  rw [sharedLength_comm, Nat.min_comm, conflictFrom?_mirror, traceFrom_mirror]
  cases traced <;> rfl

theorem ofFinding_eq_fail_iff {α : Type} (finding : Option α) :
    Verdict.ofFinding finding = .fail ↔ finding.isSome = true := by
  cases finding <;> simp [Verdict.ofFinding]

theorem typeVerdict_mirror (c : ClockCheck) : c.mirror.typeVerdict = c.typeVerdict := by
  rw [typeVerdict, typeVerdict, mirror, Verdict.ofFinding, Option.isSome_map]
  rfl

section
variable (launch capture : List Pin) (rules : RuleSet) (traced : Bool)

theorem verdict_ofNetworks :
    ((ofNetworks launch capture rules traced).source.verdict = .pass ∧
        (ofNetworks launch capture rules traced).source.mismatch = none ∧
        sharedLength launch capture = min launch.length capture.length) ∨
      ((ofNetworks launch capture rules traced).source.verdict = .fail ∧
        (ofNetworks launch capture rules traced).source.mismatch =
          some (sharedLength launch capture + 1) ∧
        sharedLength launch capture ≠ min launch.length capture.length) := by
  have hle := sharedLength_le launch capture
  unfold ofNetworks Verdict.ofFinding
  dsimp only
  split_ifs with hlt hsome hsome
  · exact .inr ⟨rfl, rfl, by omega⟩
  · exact absurd rfl hsome
  · cases hsome
  · exact .inl ⟨rfl, rfl, by omega⟩

theorem fork_ofNetworks :
    (sharedLength launch capture = 0 ∧
        (ofNetworks launch capture rules traced).fork = ⟨0, none, none⟩) ∨
      ∃ n l c, sharedLength launch capture = n + 1 ∧ launch[n]? = some l ∧ capture[n]? = some c ∧
        (ofNetworks launch capture rules traced).fork = ⟨n + 1, some l.line, some c.line⟩ := by
  have hle := sharedLength_le launch capture
  unfold ofNetworks
  dsimp only
  cases hn : sharedLength launch capture with
  | zero => exact .inl ⟨rfl, rfl⟩
  | succ n =>
    have hl := List.getElem?_eq_getElem (l := launch) (i := n) (by omega)
    have hc := List.getElem?_eq_getElem (l := capture) (i := n) (by omega)
    refine .inr ⟨n, _, _, rfl, hl, hc, ?_⟩
    rw [if_neg (Nat.succ_ne_zero n), if_neg (Nat.succ_ne_zero n), Nat.add_sub_cancel, hl, hc]
    rfl

end

/-- The comparison of two networks in terms of the number `p` of names that both begin with. -/
theorem ofNetworks_exact (launch capture : List Pin) (rules : RuleSet) (traced : Bool) :
    let check := ofNetworks launch capture rules traced
    ∃ p, IsGreatest {n | CommonStart launch capture n} p ∧
      (check.source.verdict = .pass ↔ launch.map (·.name) <+: capture.map (·.name) ∨
        capture.map (·.name) <+: launch.map (·.name)) ∧
      (check.source.mismatch = some (p + 1) ↔ check.source.verdict = .fail) ∧
      (check.source.mismatch = none ↔ check.source.verdict = .pass) ∧
      check.source.launchLength = launch.length ∧ check.source.captureLength = capture.length ∧
      ((p = 0 ∧ check.fork = ⟨0, none, none⟩) ∨
        ∃ n l c, p = n + 1 ∧ launch[n]? = some l ∧ capture[n]? = some c ∧
          check.fork = ⟨p, some l.line, some c.line⟩) ∧
      (∀ f, check.conflict = some f ↔ ∃ i < p, ConflictAt rules 1 launch capture i f ∧
        ∀ j < i, ∀ g, ¬ ConflictAt rules 1 launch capture j g) ∧
      (check.typeVerdict = .fail ↔ ∃ i < p, ∃ f, ConflictAt rules 1 launch capture i f) ∧
      ofNetworks capture launch rules traced = check.mirror ∧
      (ofNetworks capture launch rules traced).typeVerdict = check.typeVerdict := by
  dsimp only
  have hverdict := verdict_ofNetworks launch capture rules traced
  have hmirror := ofNetworks_mirror launch capture rules traced
  refine ⟨_, isGreatest_sharedLength launch capture, ?_, ?_, ?_, rfl, rfl, ?_, ?_, ?_, hmirror, ?_⟩
  · rw [← sharedLength_eq_min_iff]
    obtain ⟨hv, -, hp⟩ | ⟨hv, -, hp⟩ := hverdict <;> simp [hv, hp]
  · obtain ⟨hv, hm, -⟩ | ⟨hv, hm, -⟩ := hverdict <;> simp [hv, hm]
  · obtain ⟨hv, hm, -⟩ | ⟨hv, hm, -⟩ := hverdict <;> simp [hv, hm]
  · obtain h | ⟨n, l, c, hp, hl, hc, h⟩ := fork_ofNetworks launch capture rules traced
    · exact .inl h
    · exact .inr ⟨n, l, c, hp, hl, hc, hp ▸ h⟩
  · exact conflictFrom?_eq_some_iff rules 1 launch capture
  · rw [typeVerdict, ofFinding_eq_fail_iff, ← isSome_conflictFrom?_iff]
    rfl
  · rw [hmirror, typeVerdict_mirror]

/-- Two networks that part behind their second pin. No rule gives a type to its capture cell. -/
def twoNetworks : List Pin × List Pin :=
  ([{ name := "clk", line := 10 }, { name := "b1/Z", cell := "CKBUF", line := 11 },
      { name := "b2/Z", cell := "CKBUF", line := 12 }],
    [{ name := "clk", line := 30 }, { name := "b1/Z", cell := "AND2", line := 31 },
      { name := "b3/Z", cell := "CKBUF", line := 32 }])

theorem ofNetworks_exact_twoNetworks :
    ∃ pattern, (Pattern.compile "CK.*").toOption = some pattern ∧
      IsGreatest {n | CommonStart twoNetworks.1 twoNetworks.2 n} 2 ∧
      (ofNetworks twoNetworks.1 twoNetworks.2 { clockTypes := [⟨true, pattern⟩] } false).source =
        ⟨.fail, 3, 3, some 3⟩ ∧
      ∃ i < 2, ConflictAt { clockTypes := [⟨true, pattern⟩] } 1 twoNetworks.1 twoNetworks.2 i
        ⟨2, 11, 31, some true, none⟩ := by
  have hcheck : ((Pattern.compile "CK.*").toOption.map fun pattern =>
      ofNetworks twoNetworks.1 twoNetworks.2 { clockTypes := [⟨true, pattern⟩] } false) =
      some ⟨⟨.fail, 3, 3, some 3⟩, ⟨2, some 11, some 31⟩,
        some ⟨2, 11, 31, some true, none⟩, none⟩ := by
    decide +kernel
  obtain ⟨pattern, hpattern, hcheck⟩ := Option.map_eq_some_iff.mp hcheck
  obtain ⟨p, hp, -, hmismatch, -, -, -, -, hconflict, -⟩ :=
    ofNetworks_exact twoNetworks.1 twoNetworks.2 { clockTypes := [⟨true, pattern⟩] } false
  rw [hcheck] at hmismatch hconflict
  obtain rfl : p = 2 := by simpa using hmismatch.mpr rfl
  obtain ⟨i, hi, hat, -⟩ := (hconflict _).mp rfl
  exact ⟨pattern, hpattern, hp, by rw [hcheck], i, hi, hat⟩

end ClockCheck

end PathTiming
