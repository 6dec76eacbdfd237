import PathTiming.Decimal.Reader
import PathTiming.Report.Scan
import PathTiming.Text.Words

/-! The text by which ranges of a report are asked for: entries `start[:end][+count]` between
commas. -/
namespace PathTiming.ScanRange

/-- The numbers that can be written in a range lie below this bound. -/
def numberBound : Nat := Nat.pow 2 64

def number? (cs : List Char) : Option Nat := (Decimal.natural? cs).filter (· < numberBound)

/-- A text before the first `mark`, and the number after it. Without the mark there is no number,
and the whole text stands before. -/
def splitNumber? (mark : Char) (cs : List Char) : Option (List Char × Option Nat) :=
  match Text.splitOnce [mark] cs with
  | none => some (cs, none)
  | some (before, after) => (number? after).map fun n => (before, some n)

def ofEntry? (entry : List Char) : Option ScanRange := do
  let (bounds, count) ← splitNumber? '+' (Text.trim entry)
  let (first, stop) ← splitNumber? ':' bounds
  return { start := ← number? first, stop, count }

/-- What is read when no range is asked for: the first path. -/
def firstPath : List ScanRange := [{ start := 0, count := some 1 }]

/-- The ranges of a text. Entries that are none are passed over. -/
def listOfText (text : String) : List ScanRange :=
  match (Text.splitOn ',' text.toList).filterMap ofEntry? with
  | [] => firstPath
  | ranges => ranges

end PathTiming.ScanRange
