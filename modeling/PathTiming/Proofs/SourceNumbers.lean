import Mathlib.Data.List.Induction
import Mathlib.Tactic.Common
import PathTiming.Source.Sources

/-! A text keeps the number under which it was loaded, whatever is loaded after it. -/
namespace PathTiming

inductive SourceCall where
  | add (name content : String)
  | load (disk : Disk) (path : String)

/-- Name and content of the text that a call adds, or why it adds none. -/
def SourceCall.text : SourceCall → Except FileError (String × String)
  | add name content => .ok (name, content)
  | load disk path => (disk.readText path).map (path, ·)

namespace Sources

/-- What a call does. It answers with the number of the text. -/
def call (s : Sources) : SourceCall → Sources × Except FileError FileId
  | .add name content =>
    let (later, file) := s.add name content
    (later, .ok file.id)
  | .load disk path =>
    match s.load disk path with
    | .ok (later, file) => (later, .ok file.id)
    | .error cause => (s, .error cause)

def after (calls : List SourceCall) : Sources := calls.foldl (fun s c => (s.call c).1) {}

def loaded (calls : List SourceCall) : List (String × String) :=
  calls.filterMap (·.text.toOption)

section
variable {s : Sources} {c : SourceCall}

theorem call_of_ok {name content : String} (h : c.text = .ok (name, content)) :
    s.call c = ((s.add name content).1, .ok s.nextId) := by
  cases c with
  | add name' content' =>
    cases h
    rfl
  | load disk path =>
    cases hread : disk.readText path with
    | error cause =>
      rw [SourceCall.text, hread] at h
      cases h
    | ok content' =>
      rw [SourceCall.text, hread] at h
      cases h
      simp only [call, load, hread]
      rfl

theorem call_of_error {cause : FileError} (h : c.text = .error cause) :
    s.call c = (s, .error cause) := by
  cases c with
  | add name content => cases h
  | load disk path =>
    cases hread : disk.readText path with
    | ok content =>
      rw [SourceCall.text, hread] at h
      cases h
    | error cause' =>
      rw [SourceCall.text, hread] at h
      cases h
      simp only [call, load, hread]
      rfl

end

theorem after_concat (calls : List SourceCall) (c : SourceCall) :
    after (calls ++ [c]) = ((after calls).call c).1 := by
  unfold after
  rw [List.foldl_append]
  rfl

theorem loaded_append (calls later : List SourceCall) :
    loaded (calls ++ later) = loaded calls ++ loaded later :=
  List.filterMap_append

theorem loaded_concat_of_ok (calls : List SourceCall) {c : SourceCall} {name content : String}
    (h : c.text = .ok (name, content)) :
    loaded (calls ++ [c]) = loaded calls ++ [(name, content)] := by
  rw [loaded_append, loaded, loaded, List.filterMap_cons, h]
  rfl

theorem loaded_concat_of_error (calls : List SourceCall) {c : SourceCall} {cause : FileError}
    (h : c.text = .error cause) : loaded (calls ++ [c]) = loaded calls := by
  rw [loaded_append, loaded, loaded, List.filterMap_cons, h]
  exact List.append_nil _

theorem size_after (calls : List SourceCall) :
    (after calls).files.size = (loaded calls).length := by
  induction calls using List.reverseRecOn with
  | nil => rfl
  | append_singleton calls c ih =>
    rw [after_concat]
    cases htext : c.text with
    | error cause =>
      rw [call_of_error htext, loaded_concat_of_error calls htext]
      exact ih
    | ok t =>
      rw [call_of_ok htext, loaded_concat_of_ok calls htext, List.length_append, ← ih]
      exact Array.size_push _

/-- As long as there are numbers left, a number stands for the text that was loaded in its place. -/
theorem get?_after {calls : List SourceCall} (h : (loaded calls).length < Nat.pow 2 32)
    (id : FileId) :
    (after calls).get? id =
      (loaded calls)[id.index]?.map fun t => SourceFile.ofText id t.1 t.2 := by
  induction calls using List.reverseRecOn with
  | nil => rfl
  | append_singleton calls c ih =>
    rw [after_concat]
    cases htext : c.text with
    | error cause =>
      rw [loaded_concat_of_error calls htext] at h ⊢
      rw [call_of_error htext]
      exact ih h
    | ok t =>
      rw [loaded_concat_of_ok calls htext, List.length_append, List.length_singleton] at h
      have hbefore : (loaded calls).length < Nat.pow 2 32 := Nat.lt_of_succ_lt h
      have hsize : (after calls).files.size < Nat.pow 2 32 := by rwa [size_after]
      rw [call_of_ok htext, get?_add hsize, loaded_concat_of_ok calls htext, ih hbefore]
      have hnext : (after calls).nextId = ⟨(loaded calls).length⟩ := by
        rw [nextId_eq hsize, size_after]
      by_cases hid : id = (after calls).nextId
      · rw [if_pos hid, hid]
        simp [add, hnext]
      · have hne : id.index ≠ (loaded calls).length :=
          fun he => hid (by rw [hnext]; exact congrArg FileId.mk he)
        rw [if_neg hid]
        rcases Nat.lt_or_gt_of_ne hne with hlt | hgt
        · rw [List.getElem?_append_left hlt]
        · rw [List.getElem?_eq_none (Nat.le_of_lt hgt), List.getElem?_eq_none]
          rw [List.length_append, List.length_singleton]
          exact hgt

/-- A number that no text has yet tells nothing. -/
theorem get?_after_of_le {calls : List SourceCall} (h : (loaded calls).length < Nat.pow 2 32)
    {id : FileId} (hid : (loaded calls).length ≤ id.index) : (after calls).get? id = none := by
  rw [get?_after h, List.getElem?_eq_none hid]
  rfl

/-- As long as there are numbers left, each text gets the next one, and a call that fails changes
nothing. From then on all answers about this number come from this text. A number without a text
has no answers; the number of no text is one of them. -/
theorem after_keeps_numbers {calls : List SourceCall}
    (hfew : (loaded calls).length < Nat.pow 2 32) :
    (∀ before c later, calls = before ++ c :: later →
      (∀ cause, c.text = .error cause → (after before).call c = (after before, .error cause)) ∧
      ∀ name content, c.text = .ok (name, content) →
        ((after before).call c).2 = .ok ⟨(loaded before).length⟩ ∧
        ∃ file, (after calls).get? ⟨(loaded before).length⟩ = some file ∧
          file.id = ⟨(loaded before).length⟩ ∧ file.name = name ∧ file.content = content ∧
          ∀ line,
            (after calls).describe? ⟨⟨(loaded before).length⟩, line⟩ =
              some (if line = 0 then name else s!"{name}:{line}") ∧
            (after calls).lineText? ⟨⟨(loaded before).length⟩, line⟩ = file.line? line) ∧
    (∀ id : FileId, (loaded calls).length ≤ id.index → (after calls).get? id = none ∧
      ∀ line, (after calls).describe? ⟨id, line⟩ = none ∧
        (after calls).lineText? ⟨id, line⟩ = none) ∧
    (loaded calls).length ≤ FileId.none.index := by
  refine ⟨?_, ?_, Nat.le_sub_one_of_lt hfew⟩
  · rintro before c later rfl
    refine ⟨fun cause hcause => call_of_error hcause, fun name content hc => ?_⟩
    have hloaded : loaded (before ++ c :: later) =
        loaded before ++ (name, content) :: loaded later := by
      rw [List.append_cons, loaded_append, loaded_concat_of_ok before hc, List.append_assoc]
      rfl
    have hbefore : (loaded before).length < Nat.pow 2 32 := by
      rw [hloaded, List.length_append] at hfew
      omega
    have hfile : (after (before ++ c :: later)).get? ⟨(loaded before).length⟩ =
        some (.ofText ⟨(loaded before).length⟩ name content) := by
      rw [get?_after hfew, hloaded]
      simp
    refine ⟨?_, _, hfile, rfl, rfl, ?_, fun line => ⟨?_, ?_⟩⟩
    · rw [call_of_ok hc, nextId_eq (by rwa [size_after]), size_after]
    · simp [SourceFile.content, SourceFile.ofText]
    · rw [describe?, hfile]
      rfl
    · rw [lineText?, hfile]
      rfl
  · intro id hid
    have hnone := get?_after_of_le hfew hid
    refine ⟨hnone, fun line => ⟨?_, ?_⟩⟩
    · rw [describe?, hnone]
      rfl
    · rw [lineText?, hnone]
      rfl

theorem after_keeps_numbers_failedLoad :
    let calls : List SourceCall :=
      [.add "rules.setup" "dpc: a", .load {} "", .add "timing.rpt" "x\ny\n"]
    loaded calls = [("rules.setup", "dpc: a"), ("timing.rpt", "x\ny\n")] ∧
      (after calls).describe? ⟨⟨1⟩, 2⟩ = some "timing.rpt:2" ∧
      (after calls).lineText? ⟨.none, 2⟩ = none := by
  intro calls
  have hloaded : loaded calls = [("rules.setup", "dpc: a"), ("timing.rpt", "x\ny\n")] := by
    decide +kernel
  have hfirst : loaded [.add "rules.setup" "dpc: a", .load {} ""] =
      [("rules.setup", "dpc: a")] := by
    decide +kernel
  have hfew : (loaded calls).length < Nat.pow 2 32 := by
    rw [hloaded]
    decide
  obtain ⟨hkept, hnone, hlimit⟩ := after_keeps_numbers hfew
  obtain ⟨-, file, -, -, -, -, hanswers⟩ :=
    (hkept [.add "rules.setup" "dpc: a", .load {} ""] _ [] rfl).2 "timing.rpt" "x\ny\n" rfl
  rw [hfirst] at hanswers
  exact ⟨hloaded, (hanswers 2).1, ((hnone .none hlimit).2 2).2⟩

end Sources

end PathTiming
