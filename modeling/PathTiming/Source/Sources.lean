import PathTiming.Source.File
import PathTiming.Source.Disk

/-! All texts that a run has loaded. -/
namespace PathTiming

structure Sources where
  files : Array SourceFile := #[]
deriving Inhabited

namespace Sources

/-- The number of the next text, of 32 bits. -/
def nextId (s : Sources) : FileId := ⟨s.files.size % Nat.pow 2 32⟩

def add (s : Sources) (name content : String) : Sources × SourceFile :=
  let file := SourceFile.ofText s.nextId name content
  (⟨s.files.push file⟩, file)

def load (s : Sources) (disk : Disk) (path : String) : Except FileError (Sources × SourceFile) := do
  return s.add path (← disk.readText path)

def get? (s : Sources) (id : FileId) : Option SourceFile := s.files[id.index]?

theorem nextId_eq {s : Sources} (h : s.files.size < Nat.pow 2 32) : s.nextId = ⟨s.files.size⟩ :=
  congrArg FileId.mk (Nat.mod_eq_of_lt h)

/-- As long as there are numbers left, a text is found under its own. -/
theorem get?_add {s : Sources} (hs : s.files.size < Nat.pow 2 32) (name content : String) (id : FileId) :
    (s.add name content).1.get? id =
      if id = s.nextId then some (s.add name content).2 else s.get? id := by
  rw [nextId_eq hs]
  by_cases h : id = ⟨s.files.size⟩
  · subst h
    simp [add, get?]
  · have hne : id.index ≠ s.files.size := fun he => h (congrArg FileId.mk he)
    simp [add, get?, h, Array.getElem?_push, hne]

def describe? (s : Sources) (l : Location) : Option String :=
  (s.get? l.file).map fun file =>
    if l.line = 0 then file.name else s!"{file.name}:{l.line}"

/-- A place in no text is not shown, as long as there are numbers left. -/
theorem describe?_of_isNowhere {s : Sources} (hs : s.files.size < Nat.pow 2 32) {l : Location}
    (h : l.isNowhere = true) : s.describe? l = none := by
  have hfile : l.file = .none := eq_of_beq h
  have hpast : s.files.size ≤ Nat.pow 2 32 - 1 := Nat.le_sub_one_of_lt hs
  simp [describe?, get?, hfile, FileId.none, hpast]

def lineText? (s : Sources) (l : Location) : Option String :=
  (s.get? l.file).bind fun file => file.line? l.line

end Sources

end PathTiming
