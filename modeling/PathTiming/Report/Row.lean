import PathTiming.Decimal.Reader
import PathTiming.Path.Column
import PathTiming.Path.TimingPath
import PathTiming.Report.Fault
import PathTiming.Text.Split
import PathTiming.Text.Words

/-! Rows of a pin table. -/
namespace PathTiming
open Unicode (isBlank)

inductive RowKind where
  | sourceLatency
  | networkDelay
  | inputDelay
  | outputDelay
  | crpr
  | uncertainty
  | library
  | constraint
  | pathMargin
  | arrival
  | required
  | slack
deriving Repr, DecidableEq, Inhabited

def rowLabels : List (String × RowKind) := [
  ("clock source latency", .sourceLatency),
  ("clock network delay", .networkDelay),
  ("clock reconvergence pessimism", .crpr),
  ("clock uncertainty", .uncertainty),
  ("inter-clock uncertainty", .uncertainty),
  ("input external delay", .inputDelay),
  ("output external delay", .outputDelay),
  ("library setup time", .library),
  ("library hold time", .library),
  ("max_delay", .constraint),
  ("min_delay", .constraint),
  ("path margin", .pathMargin),
  ("data arrival time", .arrival),
  ("data required time", .required),
  ("slack", .slack)]

/-- A row that is not the row of a pin, with the text after its label. -/
inductive Row where
  | labelled (kind : RowKind) (rest : List Char)
  | clockEdge (clock : String) (edge : ClockEdge) (rest : List Char)
deriving Repr, DecidableEq

/-- The text after a label, which must end there or be followed by a blank. -/
def afterLabel? (label : String) (line : List Char) : Option (List Char) :=
  match label.toList.isPrefixOf? line with
  | some [] => some []
  | some (c :: rest) => if isBlank c then some (c :: rest) else none
  | none => none

/-- The row of a clock edge: the clock, the edge in parentheses, and the rest. A rising edge is
looked for first. -/
def clockEdge? (line : List Char) : Option Row := do
  let rest ← "clock ".toList.isPrefixOf? line
  match Text.splitOnce "(rise edge)".toList rest with
  | some (clock, rest) => return .clockEdge (String.ofList (Text.trim clock)) .rise rest
  | none =>
    let (clock, rest) ← Text.splitOnce "(fall edge)".toList rest
    return .clockEdge (String.ofList (Text.trim clock)) .fall rest

def Row.ofText? (line : List Char) : Option Row :=
  (rowLabels.findSome? fun (label, kind) => (afterLabel? label line).map (.labelled kind)).or
    (clockEdge? line)

def looksNumeric : List Char → Bool
  | [] => false
  | c :: cs =>
    c.isDigit ||
      ((c == '-' || c == '+' || c == '.') &&
        match cs with
        | d :: _ => d.isDigit || d == '.'
        | [] => false)

/-- Marks that a tool may put behind a number. -/
def isAnnotation (c : Char) : Bool :=
  c == '&' || c == '*' || c == 'H' || c == '^' || c == '@' || c == '$'

def readNumber (line : Nat) (word : List Char) : Except FormatError Float :=
  match Decimal.float? (Text.dropEndWhile isAnnotation word) with
  | some x => .ok x
  | none => .error ⟨line, .badNumber (String.ofList word)⟩

/-- The text behind a remark in parentheses, if it begins with one. -/
def skipQualifier (rest : List Char) : List Char :=
  match Text.trimStart rest with
  | '(' :: inner => (inner.dropWhile (· != ')')).drop 1
  | text => text

def rowValues (line : Nat) (rest : List Char) : Except FormatError (List Float) :=
  ((Text.words (skipQualifier rest)).filter looksNumeric).mapM (readNumber line)

/-- The last two numbers of a row, the delay and the time. A single number is both. -/
def delayAndTime (line : Nat) (what : String) (rest : List Char) :
    Except FormatError (Float × Float) := do
  match (← rowValues line rest).reverse with
  | [] => .error ⟨line, .missingValue what⟩
  | [only] => return (only, only)
  | time :: delay :: _ => return (delay, time)

def delayOf (line : Nat) (what : String) (rest : List Char) : Except FormatError Float :=
  (delayAndTime line what rest).map (·.1)

def timeOf (line : Nat) (what : String) (rest : List Char) : Except FormatError Float :=
  (delayAndTime line what rest).map (·.2)

end PathTiming
