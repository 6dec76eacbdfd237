import Mathlib.Data.List.Basic
import Mathlib.Tactic.Common
import PathTiming.Diagnostic.Log

/-! What a log holds and counts, told by the calls that were made on it. -/
namespace PathTiming

inductive LogCall where
  | emit (d : Diagnostic)
  /-- Takes the messages that wait. -/
  | take
  /-- Copies the messages that wait. -/
  | peek
  | count (s : Severity)
  | hasErrors
deriving DecidableEq

inductive LogAnswer where
  | done
  | taken (messages : List Diagnostic)
  | waiting (messages : List Diagnostic)
  | number (n : Nat)
  | truth (b : Bool)
deriving DecidableEq

def LogCall.emitted : LogCall → List Diagnostic
  | emit d => [d]
  | take | peek | count _ | hasErrors => []

def LogCall.isQuestion : LogCall → Bool
  | emit _ | take => false
  | peek | count _ | hasErrors => true

def LogAnswer.takenAway : LogAnswer → List Diagnostic
  | taken messages => messages
  | done | waiting _ | number _ | truth _ => []

namespace Log

def call (l : Log) : LogCall → Log × LogAnswer
  | .emit d => (l.emit d, .done)
  | .take => (l.take.2, .taken l.take.1)
  | .peek => (l, .waiting l.queue)
  | .count s => (l, .number (l.count s))
  | .hasErrors => (l, .truth l.hasErrors)

def run (l : Log) : List LogCall → Log × List LogAnswer
  | [] => (l, [])
  | c :: rest =>
    let (later, answer) := l.call c
    let (last, answers) := later.run rest
    (last, answer :: answers)

def emitted (calls : List LogCall) : List Diagnostic := calls.flatMap LogCall.emitted

def takenAway (answers : List LogAnswer) : List Diagnostic := answers.flatMap LogAnswer.takenAway

/-- The answer that is due to a call when these messages were emitted before it and these of them
were taken away. -/
inductive Due (sent gone : List Diagnostic) : LogCall → LogAnswer → Prop
  | emit (d : Diagnostic) : Due sent gone (.emit d) .done
  | take {messages : List Diagnostic} (h : gone ++ messages = sent) :
      Due sent gone .take (.taken messages)
  | peek {messages : List Diagnostic} (h : gone ++ messages = sent) :
      Due sent gone .peek (.waiting messages)
  | count (s : Severity) : Due sent gone (.count s) (.number (sent.countP (·.severity = s)))
  | hasErrors : Due sent gone .hasErrors (.truth (sent.any (·.severity = .error)))

/-- A log accounts for all messages that were emitted: they were taken away or wait, and all are
counted. -/
structure Accounts (l : Log) (sent gone : List Diagnostic) : Prop where
  queue : gone ++ l.queue = sent
  count : ∀ s, l.count s = sent.countP (·.severity = s)

section
variable {l : Log} {sent gone : List Diagnostic}

theorem Accounts.hasErrors (h : l.Accounts sent gone) :
    l.hasErrors = sent.any (·.severity = .error) := by
  have hcount : l.errorCount = sent.countP (·.severity = .error) := h.count .error
  rw [Bool.eq_iff_iff, List.any_eq_true, Log.hasErrors, hcount, bne_iff_ne, Nat.ne_zero_iff_zero_lt,
    List.countP_pos_iff]

theorem Accounts.answer (h : l.Accounts sent gone) (c : LogCall) :
    Due sent gone c (l.call c).2 := by
  cases c with
  | emit d => exact .emit d
  | take => exact .take h.queue
  | peek => exact .peek h.queue
  | count s =>
    rw [call, h.count s]
    exact .count s
  | hasErrors =>
    rw [call, h.hasErrors]
    exact .hasErrors

theorem Accounts.emit (h : l.Accounts sent gone) (d : Diagnostic) :
    (l.emit d).Accounts (sent ++ [d]) gone := by
  constructor
  · rw [queue_emit, ← List.append_assoc, h.queue]
  · intro s
    rw [count_emit, h.count s, List.countP_append, List.countP_singleton]
    simp only [decide_eq_true_eq]

theorem count_take (l : Log) (s : Severity) : l.take.2.count s = l.count s := by
  cases s <;> rfl

theorem Accounts.call (h : l.Accounts sent gone) (c : LogCall) :
    (l.call c).1.Accounts (sent ++ c.emitted) (gone ++ (l.call c).2.takenAway) := by
  have hsame : l.Accounts (sent ++ []) (gone ++ []) := by
    rwa [List.append_nil, List.append_nil]
  cases c with
  | emit d =>
    have hd := h.emit d
    rwa [← List.append_nil gone] at hd
  | take =>
    constructor
    · change gone ++ l.queue ++ [] = sent ++ []
      rw [h.queue]
    · intro s
      rw [LogCall.emitted, List.append_nil]
      exact (l.count_take s).trans (h.count s)
  | peek => exact hsame
  | count s => exact hsame
  | hasErrors => exact hsame

theorem Accounts.run (h : l.Accounts sent gone) (calls : List LogCall) :
    (l.run calls).1.Accounts (sent ++ emitted calls) (gone ++ takenAway (l.run calls).2) := by
  induction calls generalizing l sent gone with
  | nil =>
    change l.Accounts (sent ++ []) (gone ++ [])
    rwa [List.append_nil, List.append_nil]
  | cons c rest ih =>
    have hrest := ih (h.call c)
    rwa [List.append_assoc, List.append_assoc] at hrest

end

theorem accounts_empty : ({} : Log).Accounts [] [] := by
  constructor
  · rfl
  · intro s
    cases s <;> rfl

theorem run_append (l : Log) (calls later : List LogCall) :
    l.run (calls ++ later) =
      (((l.run calls).1.run later).1, (l.run calls).2 ++ ((l.run calls).1.run later).2) := by
  induction calls generalizing l with
  | nil => rfl
  | cons c rest ih => simp only [List.cons_append, run, ih]

theorem call_of_isQuestion (l : Log) {c : LogCall} (h : c.isQuestion = true) :
    (l.call c).1 = l := by
  cases c with
  | emit d => cases h
  | take => cases h
  | peek => rfl
  | count s => rfl
  | hasErrors => rfl

theorem emitted_append (calls later : List LogCall) :
    emitted (calls ++ later) = emitted calls ++ emitted later :=
  List.flatMap_append

/-- A log loses no message and repeats none. Whatever calls are made on it, the messages that were
taken and those that wait are the emitted ones in order; each call gets the answer that is due to
the calls before it; questions change nothing; messages are counted when they are emitted, so that
taking them does not matter, and an error is never forgotten. -/
theorem run_accounts_for_messages (calls : List LogCall) :
    takenAway (({} : Log).run calls).2 ++ (({} : Log).run calls).1.queue = emitted calls ∧
    (∀ s, (({} : Log).run calls).1.count s = (emitted calls).countP (·.severity = s)) ∧
    (∀ before c later, calls = before ++ c :: later →
      (∃ answer answers, (({} : Log).run calls).2 = (({} : Log).run before).2 ++ answer :: answers ∧
        Due (emitted before) (takenAway (({} : Log).run before).2) c answer) ∧
      (c.isQuestion = true →
        (({} : Log).run calls).1 = (({} : Log).run (before ++ later)).1) ∧
      ∀ d, c = .emit d → d.severity = .error → (({} : Log).run calls).1.hasErrors = true) ∧
    ((∀ d ∈ emitted calls, d.severity ≠ .error) → (({} : Log).run calls).1.hasErrors = false) := by
  have hall : (({} : Log).run calls).1.Accounts (emitted calls)
      (takenAway (({} : Log).run calls).2) := accounts_empty.run calls
  refine ⟨hall.queue, hall.count, ?_, ?_⟩
  · rintro before c later rfl
    have hbefore : (({} : Log).run before).1.Accounts (emitted before)
        (takenAway (({} : Log).run before).2) := accounts_empty.run before
    refine ⟨?_, fun hc => ?_, ?_⟩
    · rw [run_append]
      exact ⟨_, _, rfl, hbefore.answer c⟩
    · rw [run_append, run_append]
      change ((Log.call _ c).1.run later).1 = _
      rw [call_of_isQuestion _ hc]
    · rintro d rfl hd
      rw [hall.hasErrors, List.any_eq_true]
      refine ⟨d, ?_, decide_eq_true hd⟩
      rw [emitted_append]
      exact List.mem_append_right _ List.mem_cons_self
  · intro hnone
    rw [hall.hasErrors, List.any_eq_false]
    intro d hd
    simpa using hnone d hd

theorem run_accounts_for_messages_takenError :
    let d : Diagnostic :=
      { severity := .error, code := ⟨.analysis, 301⟩, message := "bad path", location := .nowhere }
    let calls : List LogCall := [.emit d, .take, .peek, .count .error, .hasErrors]
    (({} : Log).run calls).2 = [.done, .taken [d], .waiting [], .number 1, .truth true] ∧
      takenAway (({} : Log).run calls).2 ++ (({} : Log).run calls).1.queue = [d] ∧
      (({} : Log).run calls).1.hasErrors = true := by
  intro d calls
  obtain ⟨hqueue, -, hcalls, -⟩ := run_accounts_for_messages calls
  exact ⟨by decide, hqueue, (hcalls [] (.emit d) _ rfl).2.2 d rfl rfl⟩

end Log

end PathTiming
