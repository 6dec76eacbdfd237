import PathTiming.Rules.RuleSet
import PathTiming.Text.Split
import PathTiming.Text.Words

/-! Single lines of a rules file. -/
namespace PathTiming

inductive RuleFault where
  | notKeyValue
  | unknownKey (key : String)
  | missingTag
  | clockTypeShape
  /-- A cell type that is neither yes nor no, in lower case. -/
  | clockTypeTag (tag : String)
  | missingClockPinKind
  | unknownClockPinKind (kind : String)
  | missingOverride
  | classShape (key : String)
  | driveShape
  | driveValue (text : String)
  | holdCheckShape
  | badPattern (source : String) (cause : Pattern.SyntaxError)
deriving Repr, DecidableEq, Inhabited

def RuleFault.message : RuleFault → String
  | notKeyValue => "expected `key: value` with a single ':'"
  | unknownKey key => s!"unknown key '{key}'"
  | missingTag => "bds needs a tag"
  | clockTypeShape => "ckt expects `y|n <pattern>`"
  | clockTypeTag tag => s!"ckt tag must be y or n, found '{tag}'"
  | missingClockPinKind => "ckp needs a type"
  | unknownClockPinKind kind => s!"unknown ckp type '{kind}'"
  | missingOverride => "ckm needs a pattern"
  | classShape key => s!"{key} expects `<tag> <pattern>`"
  | driveShape => "dc expects `r <pattern>` or `<value> <cell>`"
  | driveValue text => s!"invalid drive value '{text}'"
  | holdCheckShape => "hcd expects `<cell> <pin_in> <pin_out> <tag>`"
  | badPattern source _ => s!"invalid pattern '{source}'"

inductive RuleEntry where
  | toggle (which : Toggle) (value : Bool)
  | barSet (tag : String) (codes : List String)
  | clockType (rule : ClockTypeRule)
  | clockCells (names : List String)
  | clockInstances (names : List String)
  | clockPatterns (patterns : List Pattern)
  | clockOverride (pattern : Pattern)
  | defaultClass (tag : String)
  | pathClass (tag : String) (pattern : Pattern)
  | cellClass (tag : String) (pattern : Pattern)
  | drivePattern (pattern : Pattern)
  | driveCell (cell : String) (strength : Float)
  | holdCheck (arc : CellArc) (tag : String)
deriving Inhabited

namespace RuleEntry

def pattern (source : String) : Except RuleFault Pattern :=
  (Pattern.compile source).mapError (.badPattern source)

def readClockType : List String → Except RuleFault RuleEntry
  | [tag, source] => do
    let pattern ← pattern source
    match Unicode.toLower tag with
    | "y" => return .clockType ⟨true, pattern⟩
    | "n" => return .clockType ⟨false, pattern⟩
    | other => .error (.clockTypeTag other)
  | _ => .error .clockTypeShape

def readClockPins : List String → Except RuleFault RuleEntry
  | [] => .error .missingClockPinKind
  | "c" :: names => .ok (.clockCells names)
  | "i" :: names => .ok (.clockInstances names)
  | "r" :: sources => do return .clockPatterns (← sources.mapM pattern)
  | kind :: _ => .error (.unknownClockPinKind kind)

def readClass (key : String) (make : String → Pattern → RuleEntry) :
    List String → Except RuleFault RuleEntry
  | [tag, source] => do return make tag (← pattern source)
  | _ => .error (.classShape key)

def readDrive : List String → Except RuleFault RuleEntry
  | first :: second :: _ =>
    if first = "r" then do return .drivePattern (← pattern second)
    else
      match Decimal.float? first.toList with
      | some strength => .ok (.driveCell second strength)
      | none => .error (.driveValue first)
  | _ => .error .driveShape

/-- Reads a cell arc with its label, which is a word, or any text between quotes. -/
def readHoldCheck (value : List Char) : Except RuleFault RuleEntry :=
  match Text.splitOn '"' value with
  | [] => .error .holdCheckShape
  | head :: quoted =>
    match (Text.words head).map String.ofList, quoted with
    | [cell, pinIn, pinOut], tag :: _ =>
      .ok (.holdCheck ⟨cell, pinIn, pinOut⟩ (String.ofList tag))
    | [cell, pinIn, pinOut, tag], [] => .ok (.holdCheck ⟨cell, pinIn, pinOut⟩ tag)
    | _, _ => .error .holdCheckShape

def ofKeyValue (key : String) (value : List Char) : Except RuleFault RuleEntry :=
  match Toggle.ofKey? key with
  | some t => .ok (.toggle t (t.resolve (String.ofList value)))
  | none =>
    let words := (Text.words value).map String.ofList
    match key with
    | "bds" =>
      match words with
      | [] => .error .missingTag
      | tag :: codes => .ok (.barSet tag codes)
    | "ckt" => readClockType words
    | "ckp" => readClockPins words
    | "ckm" =>
      match words with
      | [] => .error .missingOverride
      | source :: _ => (pattern source).map .clockOverride
    | "dpc" => .ok (.defaultClass (String.ofList value))
    | "pc" => readClass key .pathClass words
    | "cc" => readClass key .cellClass words
    | "dc" => readDrive words
    | "hcd" => readHoldCheck value
    | key => .error (.unknownKey key)

/-- Reads a line. A hash begins a remark; a line with nothing else holds no rule. -/
def ofLine? (line : String) : Except RuleFault (Option RuleEntry) :=
  let text := Text.trim (line.toList.takeWhile (· != '#'))
  if text.isEmpty then .ok none
  else
    match Text.splitOn ':' text with
    | [key, value] => (ofKeyValue (String.ofList (Text.trim key)) (Text.trim value)).map some
    | _ => .error .notKeyValue

end RuleEntry

end PathTiming
