import PathTiming.Pattern.Expr

/-! Programs for regular expressions: graphs of steps whose branches are ordered by preference. -/
namespace PathTiming.Pattern

/-- One step of a program. The numbers are positions of other steps. -/
inductive Step where
  /-- The match is complete. -/
  | accept
  /-- There is no match this way. -/
  | fail
  /-- Takes one character of the set. -/
  | take (chars : Charset) (next : Nat)
  /-- Goes on if the condition holds. -/
  | look (condition : Look) (next : Nat)
  /-- Notes the position in a slot. -/
  | save (slot : Nat) (next : Nat)
  /-- Tries the first branch, then the second. -/
  | split (first second : Nat)
deriving Inhabited

/-- A step that tries `body` before `next` if the repetition is greedy, and after it if not. -/
def Step.choice (greedy : Bool) (body next : Nat) : Step :=
  if greedy then .split body next else .split next body

def emit (step : Step) (code : Array Step) : Nat × Array Step := (code.size, code.push step)

/-- Writes code that goes on at a given step, and returns the position at which it starts. -/
abbrev Writer := Nat → Array Step → Nat × Array Step

/-- Writes `body` at least once. The choice to repeat it stands behind it. -/
def Writer.plus (body : Writer) (greedy : Bool) : Writer := fun next code =>
  let (again, code) := emit .fail code
  let (start, code) := body again code
  (start, code.setIfInBounds again (.choice greedy start next))

/-- Writes `body` any number of times, where it cannot match the empty text. The choice to repeat it
stands before it. -/
def Writer.star (body : Writer) (greedy : Bool) : Writer := fun next code =>
  let (again, code) := emit .fail code
  let (start, code) := body again code
  (again, code.setIfInBounds again (.choice greedy start next))

def Writer.optional (body : Writer) (greedy : Bool) : Writer := fun next code =>
  let (start, code) := body next code
  emit (.choice greedy start next) code

def Writer.copies (body : Writer) : Nat → Writer
  | 0 => fun next code => (next, code)
  | n + 1 => fun next code =>
    let (middle, code) := Writer.copies body n next code
    body middle code

/-- Writes `body` at most `n` times: after each time, the choice to go on with `next`. -/
def Writer.upTo (body : Writer) (greedy : Bool) : Nat → Writer
  | 0 => fun next code => (next, code)
  | n + 1 => fun next code =>
    let (rest, code) := Writer.upTo body greedy n next code
    let (start, code) := body rest code
    emit (.choice greedy start next) code

def Writer.andThen (first second : Writer) : Writer := fun next code =>
  let (middle, code) := second next code
  first middle code

namespace Expr

/-- The code of an expression. What can match the empty text is repeated as one or more times or
not at all, so that a round that takes nothing comes before no round at all. -/
def steps : Expr → Writer
  | empty => fun next code => (next, code)
  | literal text => fun next code =>
    text.foldr (fun c (next, code) => emit (.take (.single c) next) code) (next, code)
  | set s => fun next code => emit (.take s next) code
  | look l => fun next code => emit (.look l next) code
  | seq a b => a.steps.andThen b.steps
  | alt a b => fun next code =>
    let (x, code) := a.steps next code
    let (y, code) := b.steps next code
    emit (.split x y) code
  | group i a => fun next code =>
    let (stop, code) := emit (.save (2 * i + 1) next) code
    let (start, code) := a.steps stop code
    emit (.save (2 * i) start) code
  | repeated a least none greedy =>
    match least with
    | 0 =>
      if a.takesSome then a.steps.star greedy else Writer.optional (a.steps.plus greedy) greedy
    | n + 1 => (a.steps.copies n).andThen (a.steps.plus greedy)
  | repeated a least (some most) greedy =>
    (a.steps.copies least).andThen (a.steps.upTo greedy (most - least))

end Expr

/-- A program: its steps, the position of the first one, and the number of slots it writes. -/
structure Program where
  code : Array Step
  start : Nat
  slotCount : Nat
deriving Inhabited

def Program.ofExpr (e : Expr) : Program :=
  let (last, code) := emit .accept #[]
  let (start, code) := (Expr.group 0 e).steps last code
  ⟨code, start, 2 * (Expr.group 0 e).groupCount⟩

end PathTiming.Pattern
