import PathTiming.Pattern.Expr
import PathTiming.Text.Words
import PathTiming.Text.Split
import PathTiming.Decimal.Reader
import PathTiming.Unicode.Script
import PathTiming.Unicode.Age
import PathTiming.Unicode.Break
import PathTiming.Unicode.Letter

/-! The syntax of regular expressions. -/
namespace PathTiming.Pattern
open Unicode (isBlank RangeTable)

inductive SyntaxError where
  | unclosedGroup
  | unopenedGroup
  | badGroupName
  | duplicateGroupName
  | unsupportedLookAround
  | badFlags
  | nothingToRepeat
  | badRepetition
  | badEscape
  | unknownProperty
  | badClass
  | unclosedClass
  /-- A part of the pattern could match bytes that are not text. -/
  | matchesNonText
  /-- Groups, repetitions and classes are nested too deeply. -/
  | tooDeep
  /-- The automaton that the pattern stands for is too large. -/
  | tooLarge
deriving Repr, DecidableEq, Inhabited

structure Flags where
  ignoreCase : Bool := false
  multiLine : Bool := false
  dotAll : Bool := false
  swapGreed : Bool := false
  unicode : Bool := true
  crlf : Bool := false
  /-- Blanks and comments in the pattern are skipped. -/
  spaced : Bool := false
deriving Repr, DecidableEq, Inhabited

def Flags.set? (f : Flags) (letter : Char) (on : Bool) : Option Flags :=
  match letter with
  | 'i' => some { f with ignoreCase := on }
  | 'm' => some { f with multiLine := on }
  | 's' => some { f with dotAll := on }
  | 'U' => some { f with swapGreed := on }
  | 'u' => some { f with unicode := on }
  | 'R' => some { f with crlf := on }
  | 'x' => some { f with spaced := on }
  | _ => none

/-- Skips blanks and comments; a comment lasts to the end of its line. -/
def skipRemarks (inComment : Bool) : List Char → List Char
  | [] => []
  | c :: cs =>
    if inComment then skipRemarks (c != '\n') cs
    else if isBlank c then skipRemarks false cs
    else if c = '#' then skipRemarks true cs
    else c :: cs

def Flags.skip (f : Flags) (cs : List Char) : List Char :=
  if f.spaced then skipRemarks false cs else cs

/-- The character after the next one, past what is skipped. -/
def Flags.peekPast (f : Flags) (cs : List Char) : Option Char :=
  let rest := cs.drop 1
  if f.spaced then
    let ahead := rest.dropWhile isBlank
    match ahead with
    | '#' :: comment => ((comment.dropWhile isBlank).head?).or rest.head?
    | _ => ahead.head?.or rest.head?
  else rest.head?

inductive Atom where
  /-- A character; `byte` if it was written as a two-digit hexadecimal escape. -/
  | char (c : Char) (byte : Bool)
  | set (chars : Charset)
  | look (condition : Look)
  | dot
deriving Inhabited

def hexDigit? (c : Char) : Option Nat :=
  if c.isDigit then some (c.toNat - 48)
  else if 'a' ≤ c ∧ c ≤ 'f' then some (c.toNat - 87)
  else if 'A' ≤ c ∧ c ≤ 'F' then some (c.toNat - 55)
  else none

def charOf? (n : Nat) : Option Char :=
  if n < 0xd800 ∨ (0xdfff < n ∧ n ≤ 0x10ffff) then some (Char.ofNat n) else none

def readHexDigits (f : Flags) : (count : Nat) → (value : Nat) → List Char →
    Except SyntaxError (Nat × List Char)
  | 0, value, cs => .ok (value, cs)
  | _ + 1, _, [] => .error .badEscape
  | count + 1, value, c :: cs =>
    match hexDigit? c with
    | none => .error .badEscape
    | some d => readHexDigits f count (16 * value + d) (f.skip cs)

/-- Reads hexadecimal digits up to a closing brace; `read` tells whether there were any. -/
def readHexBrace (f : Flags) : (fuel : Nat) → (value : Nat) → (read : Bool) → List Char →
    Except SyntaxError (Nat × List Char)
  | 0, _, _, _ => .error .badEscape
  | _ + 1, _, _, [] => .error .badEscape
  | fuel + 1, value, read, c :: cs =>
    if c = '\x7d' then
      if read then .ok (value, f.skip cs) else .error .badEscape
    else
      match hexDigit? c with
      | none => .error .badEscape
      | some d => readHexBrace f fuel (16 * value + d) true (f.skip cs)

/-- Reads the code point of a hexadecimal escape: in braces, or with `count` digits. -/
def readCodePoint (f : Flags) (count : Nat) (cs : List Char) :
    Except SyntaxError (Nat × List Char) :=
  match cs with
  | '\x7b' :: cs => readHexBrace f (cs.length + 1) 0 false (f.skip cs)
  | cs => readHexDigits f count 0 cs

/-- The character with a code point, as an escape wrote it. -/
def codePointAtom (byte : Bool) (value : Nat) : Except SyntaxError Atom :=
  match charOf? value with
  | none => .error .badEscape
  | some c => .ok (.char c byte)

def readHex (f : Flags) (count : Nat) (cs : List Char) : Except SyntaxError (Atom × List Char) := do
  let (value, rest) ← readCodePoint f count cs
  return (← codePointAtom (count == 2 && cs.head? != some '\x7b') value, rest)

/-- A property name without blanks, separators, case, and a leading `is`. -/
def normalizeName (name : List Char) : String :=
  let isMarked := (name.take 2).map Char.toLower == ['i', 's']
  let body := if isMarked then name.drop 2 else name
  let kept := body.filter fun c => c != ' ' && c != '_' && c != '-' && c.toNat < 128
  let lower := String.ofList (kept.map Char.toLower)
  if isMarked && lower == "c" then "isc" else lower

/-- Code points of a general category, or of a name that is used like one. -/
def categorySet? (name : String) : Option Charset :=
  if name = "any" then some .all
  else if name = "ascii" then some .ascii
  else if name = "assigned" then (Unicode.category? "cn").map (·.compl)
  else Unicode.category? name

/-- Code points that have a property, are of a category or of a script, by one name. -/
def plainSet? (name : String) : Option Charset :=
  let asProperty :=
    if name = "cf" ∨ name = "sc" ∨ name = "lc" then none
    else Unicode.property? name
  (asProperty.or (categorySet? name)).or (Unicode.script? name)

def valuedSet? (name value : String) : Option Charset :=
  if name = "gc" ∨ name = "generalcategory" then categorySet? value
  else if name = "sc" ∨ name = "script" then Unicode.script? value
  else if name = "scx" ∨ name = "scriptextensions" then Unicode.scriptExtension? value
  else if name = "age" then Unicode.age? value
  else if name = "gcb" ∨ name = "graphemeclusterbreak" then Unicode.characterBreak? value
  else if name = "wb" ∨ name = "wordbreak" then Unicode.wordBreak? value
  else if name = "sb" ∨ name = "sentencebreak" then Unicode.sentenceBreak? value
  else none

/-- The set that is named between the braces of a property escape, and whether its name says that
the other characters are meant. -/
def namedSet? (text : List Char) : Option (Charset × Bool) :=
  match Text.splitOnce ['!', '='] text with
  | some (name, value) => (valuedSet? (normalizeName name) (normalizeName value)).map (·, true)
  | none =>
    match (Text.splitOnce [':'] text).or (Text.splitOnce ['='] text) with
    | some (name, value) => (valuedSet? (normalizeName name) (normalizeName value)).map (·, false)
    | none => (plainSet? (normalizeName text)).map (·, false)

/-- Applies the case flag and a negation to a set that was written out. Without Unicode, a set must
stay within ASCII. -/
def Flags.finish (f : Flags) (negated : Bool) (s : Charset) : Except SyntaxError Charset :=
  if f.unicode then
    let folded := if f.ignoreCase then s.anyCase else s
    .ok (if negated then folded.compl else folded)
  else
    let folded := if f.ignoreCase then s.asciiCase else s
    let result := if negated then folded.compl else folded
    if Charset.hasHighByte result then .error .matchesNonText else .ok (result.inter Charset.ascii)

def readBraced (f : Flags) : (fuel : Nat) → List Char → List Char →
    Except SyntaxError (List Char × List Char)
  | 0, _, _ => .error .badEscape
  | _ + 1, _, [] => .error .badEscape
  | fuel + 1, done, c :: cs =>
    if c = '\x7d' then .ok (done.reverse, cs) else readBraced f fuel (c :: done) (f.skip cs)

def readPropertyName (f : Flags) (cs : List Char) : Except SyntaxError (List Char × List Char) :=
  match cs with
  | [] => .error .badEscape
  | '\x7b' :: cs => readBraced f (cs.length + 1) [] (f.skip cs)
  | c :: cs => if c = '\\' then .error .unknownProperty else .ok ([c], f.skip cs)

def propertySet (f : Flags) (negated : Bool) (name : List Char) : Except SyntaxError Charset :=
  if f.unicode then
    match namedSet? name with
    | none => .error .unknownProperty
    | some (s, others) => f.finish (negated != others) s
  else .error .matchesNonText

def readProperty (f : Flags) (negated : Bool) (cs : List Char) :
    Except SyntaxError (Atom × List Char) := do
  let (name, rest) ← readPropertyName f (f.skip cs)
  return (.set (← propertySet f negated name), rest)

def shorthand (f : Flags) (wide narrow : Charset) (negated : Bool) : Except SyntaxError Atom :=
  if f.unicode then .ok (.set (if negated then wide.compl else wide))
  else if negated then .error .matchesNonText
  else .ok (.set narrow)

/-- Characters with a meaning in patterns, which a backslash takes from them. -/
def isMeta (c : Char) : Bool := "\\.+*?()|[]\x7b\x7d^$#&-~".toList.contains c

def wordEdge (name : String) : Except SyntaxError WordEdge :=
  match name with
  | "start" => .ok .start
  | "end" => .ok .stop
  | "start-half" => .ok .halfStart
  | "end-half" => .ok .halfStop
  | _ => .error .badEscape

/-- Reads the rest of a special word assertion such as `{start}`, if there is one. -/
def readWordEdge (f : Flags) : (fuel : Nat) → List Char → List Char →
    Except SyntaxError (WordEdge × List Char)
  | 0, _, _ => .error .badEscape
  | _ + 1, _, [] => .error .badEscape
  | fuel + 1, done, c :: cs =>
    if c.isAlpha ∨ c = '-' then readWordEdge f fuel (c :: done) (f.skip cs)
    else if c = '\x7d' then (wordEdge (String.ofList done.reverse)).map (·, cs)
    else .error .badEscape

/-- Reads what follows the letter of a word assertion. A brace without a word in it begins a
repetition instead. -/
def readBoundary (f : Flags) (cs : List Char) : Except SyntaxError (Atom × List Char) :=
  match cs with
  | '\x7b' :: inner =>
    match f.skip inner with
    | [] => .error .badEscape
    | c :: rest =>
      if c.isAlpha ∨ c = '-' then do
        let (edge, after) ← readWordEdge f (rest.length + 2) [] (c :: rest)
        return (.look (.word edge f.unicode), after)
      else .ok (.look (.word .boundary f.unicode), cs)
  | _ => .ok (.look (.word .boundary f.unicode), cs)

def readEscape (f : Flags) (cs : List Char) : Except SyntaxError (Atom × List Char) :=
  match cs with
  | [] => .error .badEscape
  | c :: rest =>
    if c = 'x' then readHex f 2 (f.skip rest)
    else if c = 'u' then readHex f 4 (f.skip rest)
    else if c = 'U' then readHex f 8 (f.skip rest)
    else if c = 'p' then readProperty f false rest
    else if c = 'P' then readProperty f true rest
    else if c = 'd' ∨ c = 'D' then
      (shorthand f .digits .asciiDigits (c = 'D')).map (·, rest)
    else if c = 's' ∨ c = 'S' then
      (shorthand f .blanks .asciiBlanks (c = 'S')).map (·, rest)
    else if c = 'w' ∨ c = 'W' then
      (shorthand f .word .asciiWord (c = 'W')).map (·, rest)
    else if isMeta c then .ok (.char c false, rest)
    else if c = 'a' then .ok (.char '\x07' false, rest)
    else if c = 'f' then .ok (.char '\x0c' false, rest)
    else if c = 't' then .ok (.char '\t' false, rest)
    else if c = 'n' then .ok (.char '\n' false, rest)
    else if c = 'r' then .ok (.char '\r' false, rest)
    else if c = 'v' then .ok (.char '\x0b' false, rest)
    else if c = 'A' then .ok (.look .textStart, rest)
    else if c = 'z' then .ok (.look .textEnd, rest)
    else if c = 'b' then readBoundary f rest
    else if c = 'B' then .ok (.look (.word .notBoundary f.unicode), rest)
    else if c = '<' then .ok (.look (.word .start f.unicode), rest)
    else if c = '>' then .ok (.look (.word .stop f.unicode), rest)
    else if c.isAlphanum ∨ 127 < c.toNat then .error .badEscape
    else .ok (.char c false, rest)

/-! ### Bracketed classes -/

structure DeepSet where
  chars : Charset
  depth : Nat
deriving Inhabited

inductive ClassOp where
  | inter
  | diff
  | symmDiff
deriving Repr, DecidableEq, Inhabited

/-- An open bracket: the part before the last operator, and the items after it in reverse. -/
structure OpenClass where
  negated : Bool
  left : Option (DeepSet × ClassOp) := none
  items : List DeepSet := []
deriving Inhabited

/-- The operator at which a text begins, if there is one. -/
def classOp? : List Char → Option (ClassOp × List Char)
  | '&' :: '&' :: rest => some (.inter, rest)
  | '-' :: '-' :: rest => some (.diff, rest)
  | '~' :: '~' :: rest => some (.symmDiff, rest)
  | _ => none

namespace OpenClass

def push (b : OpenClass) (s : DeepSet) : OpenClass := { b with items := s :: b.items }

def itemSet (b : OpenClass) : DeepSet :=
  match b.items with
  | [] => ⟨.empty, 0⟩
  | [s] => s
  | items =>
    ⟨.union (items.reverse.map (·.chars)), (items.map (·.depth)).foldl max 0 + 1⟩

/-- The set of everything read so far. Both sides of an operator take in their other cases before
they are combined. -/
def value (f : Flags) (b : OpenClass) : DeepSet :=
  let right := b.itemSet
  match b.left with
  | none => right
  | some (left, op) =>
    let fold (s : Charset) : Charset :=
      if f.ignoreCase then (if f.unicode then s.anyCase else s.asciiCase) else s
    let x := fold left.chars
    let y := fold right.chars
    let chars : Charset :=
      match op with
      | .inter => x.inter y
      | .diff => x.diff y
      | .symmDiff => x.symmDiff y
    ⟨chars, max left.depth right.depth + 1⟩

end OpenClass

/-- Reads dashes that stand for themselves because they come first. -/
def readDashes (f : Flags) : (fuel : Nat) → OpenClass → List Char → OpenClass × List Char
  | fuel + 1, b, '-' :: rest => readDashes f fuel (b.push ⟨.single '-', 0⟩) (f.skip rest)
  | _, b, cs => (b, cs)

/-- Takes a closing bracket that was read as an item of a class, which must go on behind it. -/
def takeBracket (b : OpenClass) (cs : List Char) : Except SyntaxError (OpenClass × List Char) :=
  match cs with
  | [] => .error .unclosedClass
  | cs => .ok (b.push ⟨.single ']', 0⟩, cs)

/-- Reads a closing bracket that stands for itself because it comes first. -/
def readFirstBracket (f : Flags) (b : OpenClass) (cs : List Char) :
    Except SyntaxError (OpenClass × List Char) :=
  match cs with
  | [] => .error .unclosedClass
  | ']' :: rest =>
    if b.items.isEmpty then takeBracket b (f.skip rest) else .ok (b, ']' :: rest)
  | cs => .ok (b, cs)

def openItems (f : Flags) (negated : Bool) (cs : List Char) :
    Except SyntaxError (OpenClass × List Char) :=
  let (b, rest) := readDashes f cs.length { negated } cs
  readFirstBracket f b rest

/-- Reads the negation of a class, if there is one, and the items that come first. -/
def openNegation (f : Flags) (cs : List Char) : Except SyntaxError (OpenClass × List Char) :=
  match cs with
  | '^' :: rest => openItems f true (f.skip rest)
  | cs => openItems f false cs

/-- Reads what follows an opening bracket: a negation, and a bracket or dashes that stand for
themselves because they come first. -/
def openClass (f : Flags) (cs : List Char) : Except SyntaxError (OpenClass × List Char) :=
  openNegation f (f.skip cs)

/-- Reads the name of an ASCII class up to the bracket that closes it, if there is such a class. -/
def namedClass? (f : Flags) (negated : Bool) (cs : List Char) :
    Option (Except SyntaxError Charset × List Char) :=
  match Text.splitOnce [':'] cs with
  | some (name, ']' :: after) =>
    (Charset.named? (String.ofList name)).map fun s => (f.finish negated s, after)
  | _ => none

/-- Reads an ASCII class such as `:alpha:` after its bracket, if there is one. -/
def asciiClass? (f : Flags) (cs : List Char) : Option (Except SyntaxError Charset × List Char) :=
  match cs with
  | ':' :: '^' :: rest => namedClass? f true rest
  | ':' :: rest => namedClass? f false rest
  | _ => none

def classAtom (f : Flags) (cs : List Char) : Except SyntaxError (Atom × List Char) :=
  match cs with
  | [] => .error .unclosedClass
  | '\\' :: rest => readEscape f rest
  | c :: rest => .ok (.char c false, rest)

/-- The character of an atom, where only a character will do. -/
def Atom.char? (f : Flags) : Atom → Except SyntaxError Char
  | .char c _ => if !f.unicode && 127 < c.toNat then .error .matchesNonText else .ok c
  | _ => .error .badClass

def Atom.item (f : Flags) : Atom → Except SyntaxError Charset
  | .set s => .ok s
  | a => (a.char? f).map .single

def Atom.range (f : Flags) (first last : Atom) : Except SyntaxError Charset := do
  let lo ← first.char? f
  let hi ← last.char? f
  if hi < lo then .error .badClass else return .range lo.toNat hi.toNat

/-- Whether the dash at which a text begins makes no range: it stands at the end of the class, or
before another dash. -/
def Flags.isLoneDash (f : Flags) (cs : List Char) : Bool :=
  f.peekPast cs == some ']' || f.peekPast cs == some '-'

/-- Reads the rest of a range of characters behind its first item, or nothing if the item is a
single one. -/
def classRangeEnd (f : Flags) (first : Atom) (cs : List Char) :
    Except SyntaxError (Charset × List Char) :=
  match cs with
  | [] => .error .unclosedClass
  | '-' :: rest =>
    if f.isLoneDash ('-' :: rest) then (first.item f).map (·, '-' :: rest)
    else do
      let (last, rest) ← classAtom f (f.skip rest)
      return (← first.range f last, rest)
  | cs => (first.item f).map (·, cs)

def classRange (f : Flags) (cs : List Char) : Except SyntaxError (Charset × List Char) := do
  let (first, rest) ← classAtom f cs
  classRangeEnd f first (f.skip rest)

/-- What was read of a class: all of it, or so much that brackets are open, those around the
innermost one in `outer`. -/
inductive ClassState where
  | closed (set : DeepSet)
  | within (b : OpenClass) (outer : List OpenClass)
deriving Inhabited

def closeClass (f : Flags) (outer : List OpenClass) (b : OpenClass) :
    Except SyntaxError ClassState := do
  let inside := b.value f
  let closed : DeepSet := ⟨← f.finish b.negated inside.chars, inside.depth + 1⟩
  match outer with
  | [] => return .closed closed
  | parent :: outer => return .within (parent.push closed) outer

/-- Reads a piece of a class: an item, an operator or a bracket. It takes at least one character. -/
def readClassPiece (f : Flags) (outer : List OpenClass) (b : OpenClass) (cs : List Char) :
    Except SyntaxError (ClassState × List Char) :=
  match cs with
  | [] => .error .unclosedClass
  | '[' :: rest =>
    match asciiClass? f rest with
    | some (s, after) => do return (.within (b.push ⟨← s, 0⟩) outer, after)
    | none => do
      let (inner, rest) ← openClass f rest
      return (.within inner (b :: outer), rest)
  | ']' :: rest => do return (← closeClass f outer b, rest)
  | cs =>
    match classOp? cs with
    | some (op, rest) =>
      .ok (.within { b with left := some (b.value f, op), items := [] } outer, rest)
    | none => do
      let (s, rest) ← classRange f cs
      return (.within (b.push ⟨s, 0⟩) outer, rest)

def readClass (f : Flags) : (fuel : Nat) → (outer : List OpenClass) → OpenClass → List Char →
    Except SyntaxError (DeepSet × List Char)
  | 0, _, _, _ => .error .unclosedClass
  | fuel + 1, outer, b, cs => do
    let (piece, rest) ← readClassPiece f outer b (f.skip cs)
    match piece with
    | .closed set => return (set, rest)
    | .within b outer => readClass f fuel outer b rest

/-! ### Repetitions -/

def readDigits (f : Flags) : (fuel : Nat) → List Char → List Char → List Char × List Char
  | fuel + 1, done, c :: cs =>
    if c.isDigit then readDigits f fuel (c :: done) (f.skip cs) else (done.reverse, c :: cs)
  | _, done, cs => (done.reverse, cs)

/-- Reads a bound with the blanks around it. The first part is `none` if there are no digits. -/
def readBound (f : Flags) (cs : List Char) : Except SyntaxError (Option Nat × List Char) :=
  let (digits, rest) := readDigits f cs.length [] (Text.trimStart cs)
  let rest := f.skip (Text.trimStart rest)
  match Decimal.natural? digits with
  | none => .ok (none, rest)
  | some n => if n < Nat.pow 2 32 then .ok (some n, rest) else .error .badRepetition

/-- Reads the closing brace behind both bounds of a counted repetition. -/
def closeBounds (least : Nat) (most : Option Nat) (cs : List Char) :
    Except SyntaxError ((Nat × Option Nat) × List Char) :=
  match most, cs with
  | some most, '\x7d' :: rest =>
    if most < least then .error .badRepetition else .ok ((least, some most), rest)
  | _, _ => .error .badRepetition

/-- Reads the upper bound of a counted repetition behind its comma, if there is one. -/
def readUpperBound (f : Flags) (least : Nat) (cs : List Char) :
    Except SyntaxError ((Nat × Option Nat) × List Char) :=
  match cs with
  | '\x7d' :: rest => .ok ((least, none), rest)
  | cs => do
    let (most, rest) ← readBound f cs
    closeBounds least most rest

def readBoundsEnd (f : Flags) (least : Option Nat) (cs : List Char) :
    Except SyntaxError ((Nat × Option Nat) × List Char) :=
  match least, cs with
  | some least, '\x7d' :: rest => .ok ((least, some least), rest)
  | some least, ',' :: rest => readUpperBound f least (f.skip rest)
  | _, _ => .error .badRepetition

def readBounds (f : Flags) (cs : List Char) :
    Except SyntaxError ((Nat × Option Nat) × List Char) := do
  let (least, rest) ← readBound f (f.skip cs)
  readBoundsEnd f least rest

/-! ### Groups and alternatives -/

/-- A part of a sequence, with the depth to which its text is nested. A change of flags takes a
place in the sequence, but cannot be repeated. -/
structure Item where
  expr : Expr
  depth : Nat
  repeatable : Bool := true
deriving Inhabited

/-- The alternatives and the items of the last of them that were read in a group, in reverse. -/
structure Branches where
  done : List Item := []
  items : List Item := []
deriving Inhabited

namespace Branches

def push (b : Branches) (i : Item) : Branches := { b with items := i :: b.items }

def sequence (b : Branches) : Item :=
  match b.items with
  | [] => ⟨.empty, 0, true⟩
  | [i] => i
  | _ =>
    { expr := .concat (b.items.reverse.map (·.expr))
      depth := (b.items.map (·.depth)).foldl max 0 + 1 }

def next (b : Branches) : Branches := { done := b.sequence :: b.done }

def whole (b : Branches) : Item :=
  let last := b.sequence
  match b.done with
  | [] => last
  | before =>
    { expr := .firstOf ((last :: before).reverse.map (·.expr))
      depth := ((last :: before).map (·.depth)).foldl max 0 + 1 }

end Branches

/-- An open group: its index if it captures, the flags and the alternatives around it. -/
structure OpenGroup where
  index : Option Nat
  flags : Flags
  around : Branches
deriving Inhabited

structure State where
  flags : Flags := {}
  nextIndex : Nat := 1
  names : List (List Char) := []
  groups : List OpenGroup := []
  here : Branches := {}
deriving Inhabited

/-- Characters of which group names consist; the first one is no digit, dot or bracket. -/
def isNameChar (first : Bool) (c : Char) : Bool :=
  c == '_' || Unicode.letterTable.contains c.toNat ||
    (!first && (c == '.' || c == '[' || c == ']' || Unicode.numeralTable.contains c.toNat))

def readName (cs : List Char) : Except SyntaxError (List Char × List Char) :=
  match Text.splitOnce ['>'] cs with
  | none => .error .badGroupName
  | some ([], _) => .error .badGroupName
  | some (c :: name, rest) =>
    if isNameChar true c && name.all (isNameChar false) then .ok (c :: name, rest)
    else .error .badGroupName

/-- Reads flags up to a colon or a closing parenthesis, which is returned as well. `seen` holds
the letters read so far, a dash for the negation. -/
def readFlags (f : Flags) (seen : List Char) :
    List Char → Except SyntaxError ((Flags × List Char × Char) × List Char)
  | [] => .error .badFlags
  | c :: cs =>
    if c = ':' ∨ c = ')' then
      if seen.head? = some '-' then .error .badFlags else .ok ((f, seen, c), cs)
    else if seen.contains c then .error .badFlags
    else if c = '-' then readFlags f (c :: seen) cs
    else
      match f.set? c (!seen.contains '-') with
      | none => .error .badFlags
      | some f => readFlags f (c :: seen) cs

namespace State

def push (s : State) (i : Item) : State := { s with here := s.here.push i }

def openGroup (s : State) (index : Option Nat) (inner : Flags) : State :=
  { s with flags := inner, groups := ⟨index, s.flags, s.here⟩ :: s.groups, here := {} }

def openCapture (s : State) : State :=
  { s.openGroup (some s.nextIndex) s.flags with nextIndex := s.nextIndex + 1 }

def openNamed (s : State) (name : List Char) : Except SyntaxError State :=
  if s.names.contains name then .error .duplicateGroupName
  else .ok { s with names := name :: s.names }.openCapture

/-- Opens a group with flags, or changes the flags for the rest of this one, as the character behind
the flags says. -/
def setFlags (s : State) (flags : Flags) (seen : List Char) (stop : Char) :
    Except SyntaxError State :=
  if stop = ':' then .ok (s.openGroup none flags)
  else if seen.isEmpty then .error .nothingToRepeat
  else .ok ({ s with flags }.push ⟨.empty, 0, false⟩)

def readExtension (s : State) (cs : List Char) : Except SyntaxError (State × List Char) :=
  match cs with
  | '=' :: _ | '!' :: _ | '<' :: '=' :: _ | '<' :: '!' :: _ => .error .unsupportedLookAround
  | 'P' :: '<' :: rest | '<' :: rest => do
    let (name, rest) ← readName rest
    return (← s.openNamed name, rest)
  | cs => do
    let ((flags, seen, stop), rest) ← readFlags s.flags [] cs
    return (← s.setFlags flags seen stop, rest)

def beginGroup (s : State) (cs : List Char) : Except SyntaxError (State × List Char) :=
  match cs with
  | '?' :: rest => s.readExtension rest
  | rest => .ok (s.openCapture, rest)

def readGroup (s : State) (cs : List Char) : Except SyntaxError (State × List Char) :=
  s.beginGroup (s.flags.skip cs)

def closeGroup (s : State) : Except SyntaxError State :=
  match s.groups with
  | [] => .error .unopenedGroup
  | g :: groups =>
    let inside := s.here.whole
    let expr :=
      match g.index with
      | none => inside.expr
      | some i => .group i inside.expr
    .ok { s with flags := g.flags, groups, here := g.around.push ⟨expr, inside.depth + 1, true⟩ }

def repeatLast (s : State) (least : Nat) (most : Option Nat) (lazy : Bool) :
    Except SyntaxError State :=
  match s.here.items with
  | [] => .error .nothingToRepeat
  | last :: before =>
    if last.repeatable then
      let expr := last.expr.times least most (lazy == s.flags.swapGreed)
      .ok { s with here := { s.here with items := ⟨expr, last.depth + 1, true⟩ :: before } }
    else .error .nothingToRepeat

/-- Repeats the last item; a question mark makes the repetition lazy. -/
def readLazy (s : State) (least : Nat) (most : Option Nat) (cs : List Char) :
    Except SyntaxError (State × List Char) :=
  match cs with
  | '?' :: rest => (s.repeatLast least most true).map (·, rest)
  | cs => (s.repeatLast least most false).map (·, cs)

/-- The condition at the start or the end of a line, or of the whole text. -/
def lineLook (s : State) (atStart : Bool) : Look :=
  if s.flags.multiLine then
    if atStart then .lineStart s.flags.crlf else .lineEnd s.flags.crlf
  else if atStart then .textStart else .textEnd

def literal (f : Flags) (c : Char) (byte : Bool) : Except SyntaxError Charset :=
  if f.unicode then .ok (if f.ignoreCase then .caseOf c else .single c)
  else if byte && 127 < c.toNat then .error .matchesNonText
  else .ok (if f.ignoreCase then Charset.asciiCase (.single c) else .single c)

def dotSet (f : Flags) : Except SyntaxError Charset :=
  if !f.unicode then .error .matchesNonText
  else if f.dotAll then .ok .all
  else if f.crlf then .ok (RangeTable.compl (.ofPoints [10, 13]))
  else .ok (RangeTable.compl (.single '\n'))

def atomExpr (f : Flags) : Atom → Except SyntaxError Expr
  | .char c byte => (literal f c byte).map .ofSet
  | .set s => .ok (.ofSet s)
  | .look l => .ok (.look l)
  | .dot => (dotSet f).map .ofSet

def step (s : State) (c : Char) (cs : List Char) : Except SyntaxError (State × List Char) :=
  match c with
  | '(' => s.readGroup cs
  | ')' => s.closeGroup.map (·, cs)
  | '|' => .ok ({ s with here := s.here.next }, cs)
  | '[' => do
    let (b, rest) ← openClass s.flags cs
    let (chars, rest) ← readClass s.flags (rest.length + 1) [] b rest
    return (s.push ⟨.ofSet chars.chars, chars.depth, true⟩, rest)
  | '?' => s.readLazy 0 (some 1) cs
  | '*' => s.readLazy 0 none cs
  | '+' => s.readLazy 1 none cs
  | '\x7b' =>
    if s.here.items.isEmpty then .error .nothingToRepeat
    else do
      let ((least, most), rest) ← readBounds s.flags cs
      s.readLazy least most (s.flags.skip rest)
  | '\\' => do
    let (atom, rest) ← readEscape s.flags cs
    return (s.push ⟨← atomExpr s.flags atom, 0, true⟩, rest)
  | '.' => do return (s.push ⟨← atomExpr s.flags .dot, 0, true⟩, cs)
  | '^' => .ok (s.push ⟨.look (s.lineLook true), 0, true⟩, cs)
  | '$' => .ok (s.push ⟨.look (s.lineLook false), 0, true⟩, cs)
  | c => do return (s.push ⟨← atomExpr s.flags (.char c false), 0, true⟩, cs)

/-- Reads pieces up to the end of the pattern. Each takes at least one character. -/
def run : (fuel : Nat) → State → List Char → Except SyntaxError State
  | 0, _, _ => .error .tooDeep
  | fuel + 1, s, cs =>
    match s.flags.skip cs with
    | [] => .ok s
    | c :: rest => do
      let (s, rest) ← s.step c rest
      run fuel s rest

end State

/-- Deepest nesting that is accepted. -/
def maxDepth : Nat := 250

def parseItem (cs : List Char) : Except SyntaxError Item := do
  let s ← State.run (cs.length + 1) {} cs
  if s.groups.isEmpty then return s.here.whole else .error .unclosedGroup

def parse (cs : List Char) : Except SyntaxError Expr := do
  let whole ← parseItem cs
  if maxDepth < whole.depth then .error .tooDeep else return whole.expr

end PathTiming.Pattern
