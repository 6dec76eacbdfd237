import PathTiming.Pattern.Charset

/-! Regular expressions with priorities, groups and assertions. -/
namespace PathTiming.Pattern

inductive WordEdge where
  /-- A word begins or ends here. -/
  | boundary
  /-- No word begins or ends here. -/
  | notBoundary
  | start
  | stop
  /-- No word character stands before. -/
  | halfStart
  /-- No word character stands after. -/
  | halfStop
deriving Repr, DecidableEq, Inhabited

inductive Look where
  | textStart
  | textEnd
  /-- After a line break; with `crlf`, a carriage return breaks lines as well. -/
  | lineStart (crlf : Bool)
  /-- Before a line break. -/
  | lineEnd (crlf : Bool)
  | word (edge : WordEdge) (unicode : Bool)
deriving Repr, DecidableEq, Inhabited

namespace Look

def isWord (unicode : Bool) : Option Char → Bool
  | none => false
  | some c => (if unicode then Charset.word else Charset.asciiWord).contains c.toNat

/-- Whether the condition holds between the characters `before` and `after`, if there are any. -/
def holds (look : Look) (before after : Option Char) : Bool :=
  match look with
  | textStart => before.isNone
  | textEnd => after.isNone
  | lineStart false => before.isNone || before == some '\n'
  | lineEnd false => after.isNone || after == some '\n'
  | lineStart true =>
    before.isNone || before == some '\n' || (before == some '\r' && after != some '\n')
  | lineEnd true =>
    after.isNone || after == some '\r' || (after == some '\n' && before != some '\r')
  | word edge unicode =>
    let left := isWord unicode before
    let right := isWord unicode after
    match edge with
    | .boundary => left != right
    | .notBoundary => left == right
    | .start => !left && right
    | .stop => left && !right
    | .halfStart => !left
    | .halfStop => !right

end Look

/-- A regular expression. Where it can match in several ways, the first alternative is preferred,
and more repetitions before fewer if they are greedy. -/
inductive Expr where
  | empty
  /-- The characters of a text, of which there is at least one. -/
  | literal (text : List Char)
  /-- One character of a set. -/
  | set (chars : Charset)
  | look (condition : Look)
  | seq (a b : Expr)
  | alt (a b : Expr)
  | group (index : Nat) (a : Expr)
  | repeated (a : Expr) (least : Nat) (most : Option Nat) (greedy : Bool)
deriving Repr, DecidableEq, Inhabited

namespace Expr

/-- Whether only the empty text can match. -/
def onlyEmpty : Expr → Bool
  | empty | look _ => true
  | literal _ | set _ => false
  | seq a b | alt a b => a.onlyEmpty && b.onlyEmpty
  | group _ a => a.onlyEmpty
  | repeated a _ _ _ => a.onlyEmpty

/-- The least number of characters that can match, assertions aside; `none` if some part of the
expression is a set without members. -/
def minLength? : Expr → Option Nat
  | empty | look _ => some 0
  | literal text => some text.length
  | set chars => if chars.isEmpty then none else some 1
  | seq a b => do return (← a.minLength?) + (← b.minLength?)
  | alt a b => do return min (← a.minLength?) (← b.minLength?)
  | group _ a => a.minLength?
  | repeated a least _ _ => do return least * (← a.minLength?)

/-- Whether every match takes a character. -/
def takesSome (e : Expr) : Bool :=
  match e.minLength? with
  | some n => 0 < n
  | none => false

/-- Whether every match starts at the start of the text. -/
def startsAtStart : Expr → Bool
  | look condition => condition = .textStart
  | seq a b => a.startsAtStart || (a.onlyEmpty && b.startsAtStart)
  | alt a b => a.startsAtStart && b.startsAtStart
  | group _ a => a.startsAtStart
  | repeated a least _ _ => 0 < least && a.startsAtStart
  | empty | literal _ | set _ => false

/-- Whether every match stops at the end of the text. -/
def stopsAtEnd : Expr → Bool
  | look condition => condition = .textEnd
  | seq a b => b.stopsAtEnd || (b.onlyEmpty && a.stopsAtEnd)
  | alt a b => a.stopsAtEnd && b.stopsAtEnd
  | group _ a => a.stopsAtEnd
  | repeated a least _ _ => 0 < least && a.stopsAtEnd
  | empty | literal _ | set _ => false

/-- One more than the largest index of a group. -/
def groupCount : Expr → Nat
  | empty | literal _ | set _ | look _ => 0
  | seq a b | alt a b => max a.groupCount b.groupCount
  | group i a => max (i + 1) a.groupCount
  | repeated a _ _ _ => a.groupCount

def size : Expr → Nat
  | empty | literal _ | set _ | look _ => 1
  | seq a b | alt a b => a.size + b.size + 1
  | group _ a => a.size + 1
  | repeated a _ _ _ => a.size + 1

/-! ### Building expressions

What is built here is kept in a normal form: sequences and alternatives lean to the right, no
literal stands next to another, and a set has more than one member unless it has none. -/

def ofSet (s : Charset) : Expr :=
  match s.single? with
  | some c => literal [c]
  | none => set s

/-- Repetition. What matches nothing but the empty text is repeated at most once, and what is
repeated no times disappears, with the groups in it. -/
def times (a : Expr) (least : Nat) (most : Option Nat) (greedy : Bool) : Expr :=
  let (least, most) :=
    if a.onlyEmpty then (min least 1, some ((most.map (min 1)).getD 1)) else (least, most)
  if least = 0 ∧ most = some 0 then empty
  else if least = 1 ∧ most = some 1 then a
  else repeated a least most greedy

def parts : Expr → List Expr
  | empty => []
  | seq a b => a.parts ++ b.parts
  | e => [e]

def joinLiterals : List Expr → List Expr
  | [] => []
  | literal s :: rest =>
    match joinLiterals rest with
    | literal t :: more => literal (s ++ t) :: more
    | more => literal s :: more
  | e :: rest => e :: joinLiterals rest

def chain : List Expr → Expr
  | [] => empty
  | [e] => e
  | e :: rest => seq e (chain rest)

def concat (es : List Expr) : Expr := chain (joinLiterals (es.flatMap parts))

def branches : Expr → List Expr
  | alt a b => a.branches ++ b.branches
  | e => [e]

def choice : List Expr → Expr
  | [] => set .empty
  | [e] => e
  | e :: rest => alt e (choice rest)

def charSet? : Expr → Option Charset
  | literal [c] => some (.single c)
  | _ => none

def set? : Expr → Option Charset
  | set s => some s
  | _ => none

def commonPrefix : List Expr → List Expr → List Expr
  | a :: as, b :: bs => if a = b then a :: commonPrefix as bs else []
  | _, _ => []

/-- The parts with which all alternatives begin, if each is a sequence. -/
def sharedParts : List Expr → List Expr
  | [] => []
  | e :: rest =>
    if (e :: rest).all fun e => e.parts.length ≥ 2 then
      rest.foldl (fun shared e => commonPrefix shared e.parts) e.parts
    else []

/-- Alternatives. Single characters, and likewise sets, are joined to one set, and parts with which
all alternatives begin are written once before them. The latter leaves fewer parts, whose number is
enough `fuel`. -/
def alternatives : (fuel : Nat) → List Expr → Expr
  | 0, es => choice es
  | fuel + 1, es =>
    let es := es.flatMap branches
    if es.length < 2 then choice es
    else
      match (es.mapM charSet?).or (es.mapM set?) with
      | some sets => ofSet (.union sets)
      | none =>
        let shared := sharedParts es
        if shared.isEmpty then choice es
        else
          let rests := es.map fun e => concat (e.parts.drop shared.length)
          concat (shared ++ [alternatives fuel rests])

def firstOf (es : List Expr) : Expr := alternatives (es.foldl (fun n e => n + e.size) 0) es

end Expr

end PathTiming.Pattern
