import PathTiming.Proofs.NetworkComparison

/-! The trace of a comparison shows both networks in full, and it is enough to repeat the
comparison. -/
namespace PathTiming

namespace TraceRow

/-- Both networks have a pin on this level, but not the same. -/
def parts (row : TraceRow) : Bool := row.launch.isSome && row.capture.isSome && !row.shared

/-- The conflict that a level shows: two library cells that are not known to be of one type. -/
def conflict? (row : TraceRow) : Option TypeConflict :=
  match row.launch, row.capture with
  | some l, some c =>
    if l.cell = "" ∨ c.cell = "" then none
    else if l.clockType.isSome ∧ l.clockType = c.clockType then none
    else some ⟨row.level, l.line, c.line, l.clockType, c.clockType⟩
  | _, _ => none

end TraceRow

namespace ClockCheck

/-- The comparison as its trace alone tells it. -/
def ofTrace (rows : List TraceRow) : ClockCheck :=
  let level := (rows.takeWhile (·.shared)).length
  let mismatch := (rows.find? (·.parts)).map (·.level)
  let last := rows.find? (·.level = level)
  { source := {
      verdict := if mismatch = none then .pass else .fail
      launchLength := (rows.filterMap (·.launch)).length
      captureLength := (rows.filterMap (·.capture)).length
      mismatch }
    fork := {
      level
      launchLine := (last.bind (·.launch)).map (·.line)
      captureLine := (last.bind (·.capture)).map (·.line) }
    conflict := (rows.filter (·.level ≤ level)).findSome? (·.conflict?)
    trace := some rows }

section
variable (rules : RuleSet) (level : Nat) (launch capture : List Pin)

theorem map_level_traceFrom : (traceFrom rules level launch capture).map (·.level) =
    List.range' level (max launch.length capture.length) := by
  fun_induction traceFrom rules level launch capture with
  | case1 => rfl
  | case2 level l launch ih => simpa [List.range'_succ] using ih
  | case3 level c capture ih => simpa [List.range'_succ] using ih
  | case4 level l launch c capture ih =>
    rw [List.map_cons, ih, List.length_cons, List.length_cons, Nat.succ_max_succ,
      List.range'_succ]

theorem le_level_of_mem_traceFrom {row : TraceRow}
    (h : row ∈ traceFrom rules level launch capture) : level ≤ row.level := by
  have hlevel := List.mem_map_of_mem (f := (·.level)) h
  rw [map_level_traceFrom, List.mem_range'_1] at hlevel
  exact hlevel.1

theorem filter_level_lt_traceFrom :
    (traceFrom rules level launch capture).filter (·.level < level) = [] := by
  refine List.filter_eq_nil_iff.mpr fun row hrow => ?_
  have hle := le_level_of_mem_traceFrom rules level launch capture hrow
  simpa using hle

/-- The launch sides that a trace shows are the launch pins. -/
theorem filterMap_launch_traceFrom : (traceFrom rules level launch capture).filterMap (·.launch) =
    launch.map (tracePin rules) := by
  fun_induction traceFrom rules level launch capture with
  | case1 => rfl
  | case2 level l launch ih => simp [ih]
  | case3 level c capture ih => simpa using ih
  | case4 level l launch c capture ih => simp [ih]

theorem filterMap_capture_traceFrom :
    (traceFrom rules level launch capture).filterMap (·.capture) =
      capture.map (tracePin rules) := by
  have hmirror : ((traceFrom rules level capture launch).map (·.mirror)).filterMap (·.capture) =
      (traceFrom rules level capture launch).filterMap (·.launch) := by
    rw [List.filterMap_map]
    rfl
  rw [traceFrom_mirror rules level capture launch, hmirror, filterMap_launch_traceFrom]

/-- The level `level + i` shows the pins at the place `i`. -/
theorem find?_level_traceFrom (i : Nat) :
    ((traceFrom rules level launch capture).find? (·.level = level + i)).bind (·.launch) =
        launch[i]?.map (tracePin rules) ∧
      ((traceFrom rules level launch capture).find? (·.level = level + i)).bind (·.capture) =
        capture[i]?.map (tracePin rules) := by
  fun_induction traceFrom rules level launch capture generalizing i with
  | case1 => simp
  | case2 level l launch ih =>
    cases i with
    | zero => simp
    | succ i => simpa [Nat.add_assoc, Nat.add_comm 1 i] using ih i
  | case3 level c capture ih =>
    cases i with
    | zero => simp
    | succ i => simpa [Nat.add_assoc, Nat.add_comm 1 i] using ih i
  | case4 level l launch c capture ih =>
    cases i with
    | zero => simp
    | succ i => simpa [Nat.add_assoc, Nat.add_comm 1 i] using ih i

/-- The levels before the networks part are those that come before the first one that is not
shared. Names that are the same again behind it do not count. -/
theorem takeWhile_shared_traceFrom :
    ((traceFrom rules level launch capture).takeWhile (·.shared)).length =
      sharedLength launch capture := by
  fun_induction traceFrom rules level launch capture with
  | case1 => rfl
  | case2 level l launch ih => simp [sharedLength]
  | case3 level c capture ih => simp [sharedLength]
  | case4 level l launch c capture ih =>
    by_cases hname : l.name = c.name
    · simp [sharedLength, hname, ih]
    · simp [sharedLength, hname]

theorem find?_parts_traceFrom :
    ((traceFrom rules level launch capture).find? (·.parts)).map (·.level) =
      if sharedLength launch capture < min launch.length capture.length
      then some (level + sharedLength launch capture) else none := by
  fun_induction traceFrom rules level launch capture with
  | case1 => rfl
  | case2 level l launch ih => simpa [TraceRow.parts, sharedLength] using ih
  | case3 level c capture ih => simpa [TraceRow.parts, sharedLength] using ih
  | case4 level l launch c capture ih =>
    by_cases hname : l.name = c.name
    · have hshared : TraceRow.parts ⟨level, some (tracePin rules l), some (tracePin rules c),
          l.name == c.name⟩ = false := by simp [TraceRow.parts, hname]
      rw [List.find?_cons, hshared, ih, sharedLength, if_pos hname, List.length_cons,
        List.length_cons, Nat.succ_min_succ, Nat.add_right_comm, Nat.add_assoc]
      simp only [Nat.succ_lt_succ_iff]
    · simp [TraceRow.parts, sharedLength, hname]

theorem conflict?_eq_compareTypes? (l c : Pin) (shared : Bool) :
    TraceRow.conflict? ⟨level, some (tracePin rules l), some (tracePin rules c), shared⟩ =
      compareTypes? rules level l c := by
  have hport : (l.cell = "" ∨ c.cell = "") ↔ (l.isPort || c.isPort) = true := by
    simp [Pin.isPort]
  have hreal : (levelOf rules level l c).isReal = true ↔
      ¬ ((rules.clockType? l.cell).isSome = true ∧
        rules.clockType? l.cell = rules.clockType? c.cell) := by
    rw [isReal_iff]
    cases hl : rules.clockType? l.cell <;> cases hc : rules.clockType? c.cell <;>
      simp [levelOf, hl, hc]
  rw [compareTypes?_eq]
  unfold TraceRow.conflict? tracePin
  simp only [hport, hreal, ite_not]
  rfl

/-- The first conflict on the shared levels is the one that the comparison finds. -/
theorem findSome?_conflict?_traceFrom :
    ((traceFrom rules level launch capture).filter
        (·.level < level + sharedLength launch capture)).findSome? (·.conflict?) =
      conflictFrom? rules level launch capture := by
  fun_induction conflictFrom? rules level launch capture with
  | case1 level l launch c capture hname ih =>
    have hlevel : level + (sharedLength launch capture + 1) =
        level + 1 + sharedLength launch capture := by omega
    have hfirst : level < level + 1 + sharedLength launch capture := by omega
    rw [traceFrom, sharedLength, if_pos hname, hlevel,
      List.filter_cons_of_pos (by simpa using hfirst), List.findSome?_cons,
      conflict?_eq_compareTypes?, ih]
    cases compareTypes? rules level l c <;> rfl
  | case2 level l launch c capture hname =>
    rw [sharedLength, if_neg hname, Nat.add_zero, filter_level_lt_traceFrom]
    rfl
  | case3 launch level capture hcons =>
    have hzero : sharedLength launch capture = 0 := by
      cases launch with
      | nil => simp [sharedLength]
      | cons l launch =>
        cases capture with
        | nil => simp [sharedLength]
        | cons c capture => exact absurd rfl (hcons l launch c capture rfl)
    rw [hzero, Nat.add_zero, filter_level_lt_traceFrom]
    rfl

end

section
variable (launch capture : List Pin) (rules : RuleSet)

theorem mismatch_ofTrace : (ofTrace (traceFrom rules 1 launch capture)).source.mismatch =
    (ofNetworks launch capture rules true).source.mismatch := by
  unfold ofTrace ofNetworks
  dsimp only
  rw [find?_parts_traceFrom, Nat.add_comm]

theorem source_ofTrace : (ofTrace (traceFrom rules 1 launch capture)).source =
    (ofNetworks launch capture rules true).source := by
  have hmismatch := mismatch_ofTrace launch capture rules
  have hlaunch := congrArg List.length (filterMap_launch_traceFrom rules 1 launch capture)
  have hcapture := congrArg List.length (filterMap_capture_traceFrom rules 1 launch capture)
  rw [List.length_map] at hlaunch hcapture
  unfold ofTrace ofNetworks Verdict.ofFinding at hmismatch ⊢
  dsimp only at hmismatch ⊢
  rw [hmismatch, hlaunch, hcapture]
  split_ifs <;> simp_all

/-- The last level before the networks part shows the lines of the fork. -/
theorem fork_ofTrace : (ofTrace (traceFrom rules 1 launch capture)).fork =
    (ofNetworks launch capture rules true).fork := by
  unfold ofTrace ofNetworks
  dsimp only
  rw [takeWhile_shared_traceFrom]
  cases sharedLength launch capture with
  | zero =>
    have hnone : (traceFrom rules 1 launch capture).find? (·.level = 0) = none := by
      refine List.find?_eq_none.mpr fun row hrow => ?_
      have hle := le_level_of_mem_traceFrom rules 1 launch capture hrow
      simp only [decide_eq_true_eq]
      omega
    rw [hnone]
    rfl
  | succ n =>
    obtain ⟨hlaunch, hcapture⟩ := find?_level_traceFrom rules 1 launch capture n
    rw [Nat.add_comm n 1, hlaunch, hcapture, if_neg (by omega), if_neg (by omega),
      Nat.add_sub_cancel_left, Option.map_map, Option.map_map]
    rfl

theorem conflict_ofTrace : (ofTrace (traceFrom rules 1 launch capture)).conflict =
    (ofNetworks launch capture rules true).conflict := by
  unfold ofTrace ofNetworks
  dsimp only
  rw [takeWhile_shared_traceFrom, ← findSome?_conflict?_traceFrom]
  simp only [Nat.lt_iff_add_one_le, Nat.add_comm 1, Nat.add_le_add_iff_right]

theorem ofTrace_traceFrom : ofTrace (traceFrom rules 1 launch capture) =
    ofNetworks launch capture rules true := by
  have hsource := source_ofTrace launch capture rules
  have hfork := fork_ofTrace launch capture rules
  have hconflict := conflict_ofTrace launch capture rules
  calc ofTrace (traceFrom rules 1 launch capture)
      = ⟨(ofTrace (traceFrom rules 1 launch capture)).source,
          (ofTrace (traceFrom rules 1 launch capture)).fork,
          (ofTrace (traceFrom rules 1 launch capture)).conflict,
          some (traceFrom rules 1 launch capture)⟩ := rfl
    _ = ofNetworks launch capture rules true := by
      rw [hsource, hfork, hconflict]
      rfl

/-- A traced comparison shows the pins of both networks on the levels from 1 on, and repeating the
comparison on what is shown gives the same verdicts. Without a trace the verdicts are the same. -/
theorem ofNetworks_trace_faithful :
    ∃ rows, (ofNetworks launch capture rules true).trace = some rows ∧
      rows.map (·.level) = List.range' 1 (max launch.length capture.length) ∧
      rows.filterMap (·.launch) =
        launch.map (fun p => ⟨p.name, p.cell, p.line, rules.clockType? p.cell⟩) ∧
      rows.filterMap (·.capture) =
        capture.map (fun p => ⟨p.name, p.cell, p.line, rules.clockType? p.cell⟩) ∧
      ofTrace rows = ofNetworks launch capture rules true ∧
      ofNetworks launch capture rules false =
        { ofNetworks launch capture rules true with trace := none } := by
  refine ⟨traceFrom rules 1 launch capture, rfl, ?_, ?_, ?_, ?_, rfl⟩
  · exact map_level_traceFrom rules 1 launch capture
  · exact filterMap_launch_traceFrom rules 1 launch capture
  · exact filterMap_capture_traceFrom rules 1 launch capture
  · exact ofTrace_traceFrom launch capture rules

end

end ClockCheck

end PathTiming
