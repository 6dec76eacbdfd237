/-! Places in the texts of a run. -/
namespace PathTiming

/-- The number of a text in the order in which the texts were loaded. -/
structure FileId where
  index : Nat
deriving Repr, DecidableEq, Inhabited

def FileId.none : FileId := ⟨Nat.pow 2 32 - 1⟩

/-- A line of a text, counted from 1. Line 0 stands for the whole text. -/
structure Location where
  file : FileId
  line : Nat
deriving Repr, DecidableEq, Inhabited

def Location.nowhere : Location := ⟨.none, 0⟩

def Location.isNowhere (l : Location) : Bool := l.file == FileId.none

end PathTiming
