import Mathlib.Data.List.Forall2
import Mathlib.Tactic.SplitIfs
import PathTiming.Analysis.Trace
import PathTiming.Summary.Summary

/-! What a run shows of a path: its summary, and its section among the traces. -/
namespace PathTiming

/-! ### Traces -/

def typeLetters : List (Option Bool × String) := [(some true, "Y"), (some false, "N"), (none, "?")]

/-- One side of a level: a dash behind the end of the network, and else a pin with its cell, its type
and its line. A pin without a cell is a port. -/
inductive SpellsSide : Option TracePin → String → Prop
  | ended : SpellsSide none "-"
  | port {p : TracePin} {letter : String} (hcell : p.cell = "")
      (hletter : (p.clockType, letter) ∈ typeLetters) :
      SpellsSide (some p) (p.name ++ " (port) [" ++ letter ++ "] ln:" ++ toString p.line)
  | cell {p : TracePin} {letter : String} (hcell : p.cell ≠ "")
      (hletter : (p.clockType, letter) ∈ typeLetters) :
      SpellsSide (some p)
        (p.name ++ " (" ++ p.cell ++ ") [" ++ letter ++ "] ln:" ++ toString p.line)

def blanks (n : Nat) : String := String.ofList (List.replicate n ' ')

/-- A level: its number in four places, a star if both sides are the same pin, and the two sides. The
capture sides of all levels stand in one column. -/
def SpellsRow (width : Nat) (row : TraceRow) (text : String) : Prop :=
  ∃ launch capture, SpellsSide row.launch launch ∧ SpellsSide row.capture capture ∧
    text = blanks (4 - (toString row.level).length) ++ toString row.level ++
      (if row.shared then " * " else "   ") ++ launch ++ blanks (width - launch.length) ++ " | " ++
      capture

/-- The lines of a section: a heading with the number of the path, counted from 1, the verdicts, the
levels and an empty line. -/
def SpellsSection (index : Nat) (p : TimingPath) (check : ClockCheck) (lines : List String) : Prop :=
  ∃ levels rows width, check.trace = some levels ∧ List.Forall₂ (SpellsRow width) levels rows ∧
    lines =
      ("### path " ++ toString (index + 1) ++ " (ln:" ++ toString p.line ++ ") " ++ p.startpoint ++
        " -> " ++ p.endpoint) ::
      ("# source: " ++ (if check.source.verdict = .pass then "pass" else "fail") ++
        "  fork level: " ++ toString check.fork.level ++
        "  cell type: " ++ (if check.conflict.isNone then "pass" else "fail")) ::
      rows ++ [""]

theorem spellsSide_describe (side : Option TracePin) : SpellsSide side (TracePin.describe side) := by
  cases side with
  | none => exact .ended
  | some p =>
    have hletter : (p.clockType, TracePin.typeMark p.clockType) ∈ typeLetters := by
      unfold TracePin.typeMark typeLetters
      split <;> simp_all
    unfold TracePin.describe
    dsimp only
    split_ifs with hcell
    · simpa [toString, String.append_assoc] using
        SpellsSide.port (String.isEmpty_iff.mp hcell) hletter
    · simpa [toString, String.append_assoc] using
        SpellsSide.cell (fun h => hcell (String.isEmpty_iff.mpr h)) hletter

theorem spellsRow_describe (width : Nat) (row : TraceRow) :
    SpellsRow width row (row.describe width) := by
  refine ⟨_, _, spellsSide_describe row.launch, spellsSide_describe row.capture, ?_⟩
  unfold TraceRow.describe Text.padLeft Text.padRight blanks
  cases row.shared <;> simp [String.append_assoc]

theorem spellsSection_traceLines {check : ClockCheck} {levels : List TraceRow}
    (h : check.trace = some levels) (index : Nat) (p : TimingPath) :
    SpellsSection index p check (check.traceLines index p) := by
  have hsource : check.source.verdict.label =
      if check.source.verdict = .pass then "pass" else "fail" := by
    cases check.source.verdict <;> rfl
  have htypes : check.typeVerdict.label = if check.conflict.isNone then "pass" else "fail" := by
    unfold ClockCheck.typeVerdict Verdict.ofFinding
    cases check.conflict <;> rfl
  let width := (levels.map fun row => Text.byteLength (TracePin.describe row.launch)).foldl max 0
  refine ⟨levels, levels.map (TraceRow.describe width), width, h, ?_, ?_⟩
  · exact List.forall₂_map_right_iff.mpr
      (List.forall₂_same.mpr fun row _ => spellsRow_describe width row)
  · unfold ClockCheck.traceLines
    rw [h, hsource, htypes]
    simp only [toString, String.append_assoc, Option.getD_some, List.cons_append, List.nil_append]
    rfl

/-! ### Summaries -/

/-- The lines of a summary: between two rulers the names of both ends, the group and whatever else is
shown, and an empty line at the end. -/
structure IsSummaryOf (p : TimingPath) (lines : List String) : Prop where
  rule : lines.head? = some (" " ++ String.ofList (List.replicate 60 '='))
  startpoint : ∃ line ∈ lines, (" Startpoint: " ++ p.startName).toList <+: line.toList
  endpoint : ∃ line ∈ lines, (" Endpoint:   " ++ p.endName).toList <+: line.toList
  group : " Path group: " ++ p.group ∈ lines
  last : lines.getLast? = some ""

theorem Summary.startpoint_mem_endLines (p : TimingPath) :
    ∃ line ∈ endLines p, (" Startpoint: " ++ p.startName).toList <+: line.toList := by
  unfold endLines
  dsimp only
  split_ifs
  · exact ⟨_, List.mem_cons_self, by simp [toString]⟩
  · exact ⟨_, List.mem_cons_self, by simp [toString]⟩
  · refine ⟨_, List.mem_cons_self, ?_⟩
    simp [toString, Text.padRight]

theorem Summary.endpoint_mem_endLines (p : TimingPath) :
    ∃ line ∈ endLines p, (" Endpoint:   " ++ p.endName).toList <+: line.toList := by
  unfold endLines
  dsimp only
  split_ifs
  · exact ⟨_, List.mem_cons_of_mem _ List.mem_cons_self, by simp [toString]⟩
  · exact ⟨_, List.mem_cons_of_mem _ (List.mem_cons_of_mem _ List.mem_cons_self), by simp [toString]⟩
  · refine ⟨_, List.mem_cons_of_mem _ List.mem_cons_self, ?_⟩
    simp [toString, Text.padRight]

theorem isSummaryOf_of_summary {r : Report} {o : SummaryOptions} {index : Nat} {p : TimingPath}
    {s : Summary} (hp : r.paths[index]? = some p) (h : r.summary o index = .ok s) :
    IsSummaryOf p s.lines := by
  have hpath : r.path index = .ok p := by rw [Report.path, hp]
  unfold Report.summary at h
  rw [hpath] at h
  cases hclock : Summary.clock r index p (o.clockCheck || r.rules.toggle .clockCheckEnable) o.trace with
  | error e => simp [hclock, bind, Except.bind] at h
  | ok block =>
    simp only [hclock, bind, Except.bind, pure, Except.pure, Except.ok.injEq] at h
    subst h
    obtain ⟨startLine, hstart, hstartName⟩ := Summary.startpoint_mem_endLines p
    obtain ⟨endLine, hend, hendName⟩ := Summary.endpoint_mem_endLines p
    constructor
    · rfl
    · exact ⟨startLine, by simp [Summary.banner, hstart], hstartName⟩
    · exact ⟨endLine, by simp [Summary.banner, hend], hendName⟩
    · simp [Summary.banner, toString]
    · simp

end PathTiming
