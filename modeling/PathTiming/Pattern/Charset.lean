import PathTiming.Unicode.CaseData
import PathTiming.Unicode.Category
import PathTiming.Unicode.Property

/-! Sets of characters, as patterns write them. -/
namespace PathTiming.Pattern
open Unicode (RangeTable)

abbrev Charset := RangeTable

namespace Charset

/-- Every character that differs from a member at most in case. -/
def anyCase (s : Charset) : Charset := Unicode.foldMap.close s

/-- Every character that differs from another at most in case. -/
def caseOf (c : Char) : Charset := .ofPoints (Unicode.foldMap.orbit c.toNat)

def shift (up : Bool) (distance : Nat) (s : Charset) : Charset :=
  ⟨s.ranges.map fun (a, b) =>
    if up then (a + distance, b + distance) else (a - distance, b - distance)⟩

/-- Every character that differs from a member at most in the case of an ASCII letter. -/
def asciiCase (s : Charset) : Charset :=
  let capitals := s.inter (.range 0x41 0x5a)
  let smalls := s.inter (.range 0x61 0x7a)
  .union [s, shift true 32 capitals, shift false 32 smalls]

def ofCategory (name : String) : Charset := (Unicode.category? name).getD .empty

/-- Characters that have the property of this normalized name. -/
def ofProperty (name : String) : Charset := (Unicode.property? name).getD .empty

def digits : Charset := ofCategory "nd"

def blanks : Charset := ofProperty "whitespace"

/-- Word characters: letters, marks, digits, connectors and joiners. -/
def word : Charset :=
  .union [ofCategory "m", ofCategory "nd", ofCategory "pc", ofProperty "joincontrol",
    ofProperty "alphabetic"]

def all : Charset := .range 0 Unicode.maxPoint

def ascii : Charset := .range 0 0x7f

def asciiDigits : Charset := .range 0x30 0x39

def asciiLetters : Charset := .ofRanges [(0x41, 0x5a), (0x61, 0x7a)]

def asciiWord : Charset := .ofRanges [(0x30, 0x39), (0x41, 0x5a), (0x5f, 0x5f), (0x61, 0x7a)]

def asciiBlanks : Charset := .ofRanges [(9, 13), (0x20, 0x20)]

def named? (name : String) : Option Charset :=
  match name with
  | "alnum" => some (asciiDigits.or asciiLetters)
  | "alpha" => some asciiLetters
  | "ascii" => some ascii
  | "blank" => some (.ofRanges [(9, 9), (0x20, 0x20)])
  | "cntrl" => some (.ofRanges [(0, 0x1f), (0x7f, 0x7f)])
  | "digit" => some asciiDigits
  | "graph" => some (.range 0x21 0x7e)
  | "lower" => some (.range 0x61 0x7a)
  | "print" => some (.range 0x20 0x7e)
  | "punct" => some (.ofRanges [(0x21, 0x2f), (0x3a, 0x40), (0x5b, 0x60), (0x7b, 0x7e)])
  | "space" => some asciiBlanks
  | "upper" => some (.range 0x41 0x5a)
  | "word" => some asciiWord
  | "xdigit" => some (.ofRanges [(0x30, 0x39), (0x41, 0x46), (0x61, 0x66)])
  | _ => none

def isAscii (s : Charset) : Bool := s.ranges.all fun r => r.2 < 128

/-- Whether some value of a single byte beyond ASCII belongs to the set. -/
def hasHighByte (s : Charset) : Bool := !(s.inter (.range 0x80 0xff)).isEmpty

end Charset

end PathTiming.Pattern
