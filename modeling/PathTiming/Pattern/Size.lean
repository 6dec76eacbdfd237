import Std.Data.TreeMap
import PathTiming.Pattern.Expr
import PathTiming.Unicode.Utf8

/-! The size of the automata over UTF-8 bytes that an expression stands for. Two are written, one
that reads forward and keeps note of groups, and one that reads backward and does not. A pattern is
accepted if each of them fits into ten mebibytes. Repetitions with bounds are written out. -/
namespace PathTiming.Pattern
open Unicode (ByteRanges)

/-- Largest automaton that is accepted, in bytes. -/
def maxBytes : Nat := 10 * Nat.pow 2 20

/-- What has been written of an automaton: the number of its states, which is the name of the next
one, and the bytes that their branches take. -/
structure Tally where
  states : Nat := 0
  branches : Nat := 0
deriving Repr, DecidableEq, Inhabited

namespace Tally

/-- The size of what has been written: thirty-two bytes a state, besides its branches. -/
def bytes (t : Tally) : Nat := 32 * t.states + t.branches

def add (t : Tally) (n : Nat) : Tally := { t with states := t.states + n }

/-- Writes a state that branches on `n` ranges of bytes, of eight bytes each. -/
def addSparse (t : Tally) (n : Nat) : Tally := ⟨t.states + 1, t.branches + 8 * n⟩

/-- Writes a state that tries `n` other states in turn, at four bytes each. -/
def addUnion (t : Tally) (n : Nat) : Tally := ⟨t.states + 1, t.branches + 4 * n⟩

def check (t : Tally) : Option Tally := if t.bytes ≤ maxBytes then some t else none

/-- Writes something `n` times, unless it gets too large. -/
def copies (write : Tally → Option Tally) : Nat → Tally → Option Tally
  | 0, t => some t
  | n + 1, t =>
    match write t with
    | none => none
    | some t => copies write n t

end Tally

/-! ### Sets of characters

States that would be written twice for the same set are shared, as far as they are remembered. Only
so many states are, each in a place that its content determines; a state forgets the one that was in
its place before. -/

/-- A hash of some numbers: each is mixed in by an exclusive or and a multiplication. -/
def hashOf (xs : List Nat) : Nat :=
  (xs.foldl (fun (h : UInt64) x => (h ^^^ x.toUInt64) * 1099511628211) 14695981039346656037).toNat

/-- States that are remembered, by their places: their contents and their names. -/
abbrev Memory := Std.TreeMap Nat (List Nat × Nat)

/-- The state with some content: the one that is remembered, or else a new one, which `write`
adds. -/
def sharedState (places : Nat) (content : List Nat) (write : Tally → Tally) (t : Tally)
    (m : Memory) : Nat × Tally × Memory :=
  let place := hashOf content % places
  match m.get? place with
  | some (known, name) =>
    if known = content then (name, t, m)
    else (t.states, write t, m.insert place (content, t.states))
  | none => (t.states, write t, m.insert place (content, t.states))

/-- Runs of byte ranges with the same first one, with what follows it in each. -/
def groupByFirst : List ByteRanges → List ((UInt8 × UInt8) × List ByteRanges)
  | [] => []
  | [] :: rest => groupByFirst rest
  | (r :: tail) :: rest =>
    match groupByFirst rest with
    | (s, tails) :: more =>
      if r = s then (s, tail :: tails) :: more else (r, [tail]) :: (s, tails) :: more
    | [] => [(r, [tail])]

/-- Writes the state before some byte ranges, in which at most `depth` bytes follow, and the states
after it first. All of them lead to `stop`. -/
def writeForward (stop : Nat) :
    (depth : Nat) → List ByteRanges → Tally → Memory → Nat × Tally × Memory
  | 0, _, t, m => (stop, t, m)
  | depth + 1, ranges, t, m =>
    let step (acc : List Nat × Tally × Memory) (group : (UInt8 × UInt8) × List ByteRanges) :=
      let ((low, high), tails) := group
      let (links, t, m) := acc
      let (next, t, m) :=
        if tails.all (·.isEmpty) then (stop, t, m) else writeForward stop depth tails t m
      (links ++ [low.toNat, high.toNat, next], t, m)
    let (links, t, m) := (groupByFirst ranges).foldl step ([], t, m)
    sharedState 10000 links (·.addSparse (links.length / 3)) t m

/-- Writes the states for one character backward, from the first byte, behind which is `stop`, to
the last. -/
def writeBackward (stop : Nat) : ByteRanges → Tally → Memory → Tally × Memory
  | [], t, m => (t, m)
  | (low, high) :: rest, t, m =>
    let (name, t, m) := sharedState 1000 [stop, low.toNat, high.toNat] (·.add 1) t m
    writeBackward name rest t m

def Charset.write (backward : Bool) (s : Charset) (t : Tally) : Tally :=
  if s.isAscii then (t.add 1).addSparse s.ranges.size
  else
    let ranges := s.utf8Ranges
    if backward then
      let stop := t.states + 1
      let start := (t.addUnion ranges.length).add 1
      (ranges.foldl (fun (t, m) r => writeBackward stop r t m) (start, (∅ : Memory))).1
    else (writeForward t.states 4 ranges (t.add 1) ∅).2.1

/-! ### Alternatives that are texts

Texts that begin alike share their first states. -/

/-- The bytes of a text in the order in which they are read. -/
def readBytes (backward : Bool) (text : List Char) : List UInt8 :=
  let bytes := text.flatMap String.utf8EncodeChar
  if backward then bytes.reverse else bytes

/-- Splits the texts that go on from a place at those that end there. An end at the beginning counts
once; each run before, between and after the ends keeps its texts in reverse order. -/
def splitAtEnds (texts : List (List UInt8)) : List (List (List UInt8)) :=
  let step (runs : List (List (List UInt8))) (text : List UInt8) :=
    match text, runs with
    | [], [[], []] => runs
    | [], runs => [] :: runs
    | text, run :: before => (text :: run) :: before
    | text, [] => [[text]]
  (texts.foldl step [[]]).reverse

/-- Writes the states for texts that go on from a place, in at most `depth` bytes: for each run
between ends one that branches on the next byte, and one that tries them and the ends in turn. -/
def writeTexts : (depth : Nat) → List (List UInt8) → Tally → Tally
  | 0, _, t => t
  | depth + 1, texts, t =>
    if texts.all (·.isEmpty) then t
    else
      let runs := splitAtEnds texts
      let step (t : Tally) (run : List (List UInt8)) : Tally :=
        let heads := (run.filterMap List.head?).eraseDups
        let tailsOf (b : UInt8) := run.reverse.filterMap fun text =>
          match text with
          | c :: rest => if c = b then some rest else none
          | [] => none
        let t := heads.foldl (fun t b => writeTexts depth (tailsOf b) t) t
        match heads.length with
        | 0 => t
        | 1 => t.add 1
        | n => t.addSparse n
      let full := (runs.filter fun run => !run.isEmpty).length
      (runs.foldl step t).addUnion (full + (runs.length - 1))

inductive Turn where
  /-- It is the first, or there are no others. -/
  | first
  | second
  | later
deriving Repr, DecidableEq, Inhabited

/-- Adds what an alternative takes besides its own states. After the second comes a state that tries
both in turn, and one where they meet; each further one is another branch. -/
def Turn.finish : Turn → Tally → Option Tally
  | first, t => t.check
  | second, t => ((t.addUnion 2).add 1).check
  | later, t => { t with branches := t.branches + 4 }.check

namespace Expr

def texts? (e : Expr) : Option (List (List Char)) :=
  e.branches.mapM fun
    | literal text => some text
    | _ => none

def write (backward : Bool) : Expr → Turn → Tally → Option Tally
  | empty, turn, t | look _, turn, t => turn.finish (t.add 1)
  | literal text, turn, t => turn.finish (t.add (readBytes backward text).length)
  | set chars, turn, t => turn.finish (chars.write backward t)
  | seq a b, turn, t =>
    if backward then do turn.finish (← a.write backward .first (← b.write backward .first t))
    else do turn.finish (← b.write backward .first (← a.write backward .first t))
  | alt a b, .first, t =>
    match (alt a b).texts? with
    | some texts =>
      let words := texts.map (readBytes backward)
      let depth := words.foldl (fun n w => max n w.length) 0
      (writeTexts (depth + 1) words (t.add 1)).check
    | none => do b.write backward .second (← a.write backward .first t)
  | alt a b, turn, t => do
    b.write backward .later (← turn.finish (← a.write backward .first t))
  | group _ a, turn, t =>
    if backward then do turn.finish (← a.write backward .first t)
    else do turn.finish ((← a.write backward .first (t.add 1)).add 1)
  | repeated a least most _, turn, t => do
    let again (t : Tally) := a.write backward .first t
    let t ←
      match least, most with
      | 0, some 1 => do pure ((← again (t.addUnion 2)).add 1)
      | 0, none =>
        if a.takesSome then again (t.addUnion 2)
        else do pure ((((← again t).addUnion 2).addUnion 2).add 1)
      | n + 1, none => do pure ((← Tally.copies again (n + 1) t).addUnion 2)
      | 0, some most => Tally.copies (fun t => again (t.addUnion 2)) most ((t.add 1).add 1)
      | n + 1, some most => do
        let t ← Tally.copies again (n + 1) t
        if most ≤ n + 1 then pure t
        else Tally.copies (fun t => again (t.addUnion 2)) (most - (n + 1)) (t.add 1)
    turn.finish t

/-- Writes the whole automaton, in which the match is group 0. Where a match need not be at the
start of what is read, a loop over all bytes comes first. -/
def automaton? (e : Expr) (backward : Bool) : Option Tally := do
  let fixed := if backward then e.stopsAtEnd else e.startsAtStart
  let start : Tally :=
    if fixed then Tally.add {} 1 else ((Tally.addUnion {} 2).add 1).addSparse 1
  let t ← (group 0 e).write backward .first start
  (t.add 1).check

def fits (e : Expr) : Bool := (e.automaton? false).isSome && (e.automaton? true).isSome

end Expr

end PathTiming.Pattern
