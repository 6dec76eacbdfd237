import PathTiming.Diagnostic.Basic

/-! The messages of a run in the order in which they came up. -/
namespace PathTiming

/-- Messages that wait to be shown, and the numbers of all that were ever emitted. -/
structure Log where
  queue : List Diagnostic := []
  noteCount : Nat := 0
  warningCount : Nat := 0
  errorCount : Nat := 0
deriving Repr, Inhabited

namespace Log

def count (l : Log) : Severity → Nat
  | .note => l.noteCount
  | .warning => l.warningCount
  | .error => l.errorCount

def emit (l : Log) (d : Diagnostic) : Log :=
  let l := { l with queue := l.queue ++ [d] }
  match d.severity with
  | .note => { l with noteCount := l.noteCount + 1 }
  | .warning => { l with warningCount := l.warningCount + 1 }
  | .error => { l with errorCount := l.errorCount + 1 }

@[simp]
theorem queue_emit (l : Log) (d : Diagnostic) : (l.emit d).queue = l.queue ++ [d] := by
  cases h : d.severity <;> simp [emit, h]

theorem count_emit (l : Log) (d : Diagnostic) (s : Severity) :
    (l.emit d).count s = l.count s + if d.severity = s then 1 else 0 := by
  cases h : d.severity <;> cases s <;> simp [emit, count, h]

def emitAll (l : Log) (ds : List Diagnostic) : Log := ds.foldl emit l

@[simp]
theorem queue_emitAll (l : Log) (ds : List Diagnostic) : (l.emitAll ds).queue = l.queue ++ ds := by
  induction ds generalizing l with
  | nil => simp [emitAll]
  | cons d ds ih =>
    have h := ih (l.emit d)
    simpa [emitAll] using h

def take (l : Log) : List Diagnostic × Log := (l.queue, { l with queue := [] })

def hasErrors (l : Log) : Bool := l.errorCount != 0

end Log

end PathTiming
