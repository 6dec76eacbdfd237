import PathTiming.Source.Location

/-! Texts with an index of their lines. -/
namespace PathTiming

/-- Positions after the newlines of a text that starts at `offset`. -/
def newlineEnds (offset : Nat) : List Char → List Nat
  | [] => []
  | c :: cs =>
    if c = '\n' then (offset + 1) :: newlineEnds (offset + 1) cs else newlineEnds (offset + 1) cs

def lineStarts (chars : Array Char) : Array Nat := (0 :: newlineEnds 0 chars.toList).toArray

/-- A loaded text. Its line starts are kept, so that any line is found at once. -/
structure SourceFile where
  id : FileId
  name : String
  chars : Array Char
  starts : Array Nat := lineStarts chars
  starts_eq : starts = lineStarts chars := by rfl

namespace SourceFile

def ofText (id : FileId) (name content : String) : SourceFile :=
  { id, name, chars := content.toList.toArray }

instance : Inhabited SourceFile := ⟨ofText default "" ""⟩

def content (f : SourceFile) : String := String.ofList f.chars.toList

/-- The number of lines. A newline at the end opens no line of its own. -/
def lineCount (f : SourceFile) : Nat :=
  if f.starts.back? = some f.chars.size ∧ 1 < f.starts.size then f.starts.size - 1
  else f.starts.size

/-- A line without the carriage return that it may end with. -/
def withoutReturn (line : List Char) : List Char :=
  if line.getLast? = some '\r' then line.dropLast else line

def line? (f : SourceFile) (n : Nat) : Option String :=
  if n = 0 ∨ f.lineCount < n then none
  else
    let start := f.starts.getD (n - 1) 0
    let stop :=
      match f.starts[n]? with
      | some next => next - 1
      | none => f.chars.size
    some (String.ofList (withoutReturn (f.chars.extract start stop).toList))

def linesFrom (f : SourceFile) (first : Nat) : List (Nat × String) :=
  let first := max first 1
  (List.range' first (f.lineCount + 1 - first)).filterMap fun n => (f.line? n).map (n, ·)

def location (f : SourceFile) (line : Nat) : Location := ⟨f.id, line⟩

end SourceFile

end PathTiming
