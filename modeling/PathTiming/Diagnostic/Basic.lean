import PathTiming.Source.Location
import PathTiming.Text.Words

/-! Messages about the input that do not stop a run. -/
namespace PathTiming

inductive Severity where
  | note
  | warning
  | error
deriving Repr, DecidableEq, Inhabited

def Severity.label : Severity → String
  | note => "note"
  | warning => "warning"
  | error => "error"

inductive Area where
  | config
  | report
  | analysis
deriving Repr, DecidableEq, Inhabited

def Area.letter : Area → String
  | config => "C"
  | report => "R"
  | analysis => "A"

structure DiagnosticCode where
  area : Area
  number : Nat
deriving Repr, DecidableEq, Inhabited

/-- A code is shown as the letter of its area and at least three digits. -/
def DiagnosticCode.label (c : DiagnosticCode) : String :=
  c.area.letter ++ Text.padLeft '0' 3 (toString c.number)

structure Diagnostic where
  severity : Severity
  code : DiagnosticCode
  message : String
  location : Location
  notes : List String := []
  help : List String := []
deriving Repr, DecidableEq, Inhabited

end PathTiming
