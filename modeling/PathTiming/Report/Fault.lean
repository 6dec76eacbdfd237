import PathTiming.Source.Disk

/-! Failures to read a report. -/
namespace PathTiming

inductive RowFault where
  | badNumber (text : String)
  | missingValue (what : String)
  | noDelay (pin : String)
deriving Repr, DecidableEq, Inhabited

def RowFault.message : RowFault → String
  | badNumber text => s!"invalid number '{text}'"
  | missingValue what => s!"missing value for {what}"
  | noDelay pin => s!"pin '{pin}' has no delay value"

structure FormatError where
  line : Nat
  fault : RowFault
deriving Repr, DecidableEq, Inhabited

inductive ReportError where
  | unreadable (cause : FileError)
  | format (error : FormatError)
deriving Repr, DecidableEq, Inhabited

def ReportError.message : ReportError → String
  | unreadable cause => s!"failed to read report: {cause.message}"
  | format e => s!"report format error (ln:{e.line}): {e.fault.message}"

end PathTiming
