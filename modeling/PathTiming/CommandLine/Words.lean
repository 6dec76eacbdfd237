import PathTiming.CommandLine.Argument
import PathTiming.Text.Split

/-! Reading of the words of a command line. -/
namespace PathTiming

inductive UsageError where
  | unknownArgument (word : String)
  /-- A value is missing, or is none that the argument takes. -/
  | invalidValue (argument : Argument)
  /-- An argument was given twice. -/
  | conflict (argument : Argument)
  /-- A value was attached to an argument that takes none. -/
  | unexpectedValue (argument : Argument)
  | missing (argument : Argument)
  /-- The user asks for help. -/
  | help
  /-- The user asks for the version. -/
  | version
deriving Repr, DecidableEq, Inhabited

inductive WordShape where
  /-- Two dashes: all words after them are plain. -/
  | separator
  /-- A long name, with the value behind the first equals sign. -/
  | long (name : String) (value : Option String)
  /-- Letters behind one dash. -/
  | letters (cs : List Char)
  | plain
deriving Repr, DecidableEq, Inhabited

def WordShape.ofWord (word : String) : WordShape :=
  match word.toList with
  | ['-', '-'] => .separator
  | '-' :: '-' :: name =>
    match Text.splitOnce ['='] name with
    | some (name, value) => .long (String.ofList name) (some (String.ofList value))
    | none => .long (String.ofList name) none
  | '-' :: c :: cs => .letters (c :: cs)
  | _ => .plain

/-- The arguments that were read so far. An argument with its values waits until the next one
begins, and is judged only then. -/
structure CommandLine where
  given : List (Argument × List String) := []
  waiting : Option (Argument × List String) := none
  /-- Whether plain words are still values of the argument that waits. -/
  isOpen : Bool := false
  /-- Whether the separator was read. -/
  plainOnly : Bool := false
deriving Repr, DecidableEq, Inhabited

namespace CommandLine

def has (l : CommandLine) (a : Argument) : Bool := l.given.any (·.1 = a)

def valuesOf (l : CommandLine) (a : Argument) : List String :=
  (l.given.filter (·.1 = a)).flatMap (·.2)

/-- Adds an argument with its values. Too few values come before repetition, and repetition before
values that are not accepted. -/
def give (l : CommandLine) (a : Argument) (values : List String) :
    Except UsageError CommandLine := do
  let least :=
    match a.arity with
    | .none => 0
    | .one => 1
    | .many least => least
  if values.length < least then .error (.invalidValue a)
  if l.has a && !a.repeats then .error (.conflict a)
  if !values.all a.values.accepts then .error (.invalidValue a)
  return { l with given := l.given ++ [(a, values)] }

def settle (l : CommandLine) : Except UsageError CommandLine :=
  match l.waiting with
  | none => .ok l
  | some (a, values) => give { l with waiting := none, isOpen := false } a values

/-- Reads an argument with the value attached to it. -/
def attach (l : CommandLine) (a : Argument) (value : String) : Except UsageError CommandLine := do
  (← l.settle).give a [value]

/-- Begins an argument without an attached value. One that takes none is complete. -/
def start (l : CommandLine) (a : Argument) : Except UsageError CommandLine := do
  let l ← l.settle
  match a with
  | .help => .error .help
  | .version => .error .version
  | a =>
    if a.arity = .none then l.give a []
    else return { l with waiting := some (a, []), isOpen := true }

/-- Reads a long name. What is wrong with the name itself comes before what is wrong with the
argument that waits. -/
def readLong (l : CommandLine) (name : String) (value : Option String) :
    Except UsageError CommandLine :=
  match Argument.ofLong? name, value with
  | none, _ => .error (.unknownArgument ("--" ++ name))
  | some a, none => l.start a
  | some a, some value => if a.arity = .none then .error (.unexpectedValue a) else l.attach a value

/-- Reads letters. The letters behind one that takes values are its value; an equals sign may stand
between. -/
def readLetters (l : CommandLine) : List Char → Except UsageError CommandLine
  | [] => .ok l
  | c :: cs =>
    match Argument.ofShort? c with
    | none => .error (.unknownArgument s!"-{c}")
    | some a =>
      if a.arity = .none then do readLetters (← l.start a) cs
      else
        match cs with
        | [] => l.start a
        | '=' :: value => l.attach a (String.ofList value)
        | value => l.attach a (String.ofList value)

def hasReport (l : CommandLine) : Bool := l.has .report || l.waiting.any (·.1 = .report)

/-- Reads a plain word: a value of the argument that waits, or else the report. -/
def readPlain (l : CommandLine) (word : String) : Except UsageError CommandLine :=
  match l.waiting, l.isOpen && !l.plainOnly with
  | some (a, values), true =>
    .ok { l with waiting := some (a, values ++ [word]), isOpen := a.arity != .one }
  | _, _ =>
    if l.hasReport then .error (.unknownArgument word)
    else do return { (← l.settle) with waiting := some (.report, [word]) }

def readWord (l : CommandLine) (word : String) : Except UsageError CommandLine :=
  if l.plainOnly then l.readPlain word
  else
    match WordShape.ofWord word with
    | .separator => .ok { l with plainOnly := true }
    | .long name value => l.readLong name value
    | .letters cs => l.readLetters cs
    | .plain => l.readPlain word

def ofWords (words : List String) : Except UsageError CommandLine := do
  let l ← (← words.foldlM readWord {}).settle
  if l.has .report then return l else .error (.missing .report)

end CommandLine

end PathTiming
