import PathTiming.Pattern.Parser
import PathTiming.Pattern.Search
import PathTiming.Pattern.Size

/-! Patterns that match whole texts. -/
namespace PathTiming

/-- A regular expression between the two ends of a text, with the source it was written as. -/
structure Pattern where
  source : String
  program : Pattern.Program
deriving Inhabited

namespace Pattern

/-- The source between anchors for the start and the end of the text. -/
def anchored (source : String) : List Char := "^(?:".toList ++ source.toList ++ ")$".toList

/-- Reads a pattern, which must not stand for too large an automaton. -/
def compile (source : String) : Except SyntaxError Pattern := do
  let expr ← parse (anchored source)
  if expr.fits then return ⟨source, .ofExpr expr⟩ else .error .tooLarge

def isFullMatch (p : Pattern) (text : String) : Bool :=
  (p.program.search text.toList.toArray).isSome

/-- The part of the text that a group took, if it took part in the match. -/
def groupText (text : Array Char) (slots : Slots) (index : Nat) : Option String :=
  match slots.getD (2 * index) none, slots.getD (2 * index + 1) none with
  | some start, some stop => some (String.ofList (text.extract start stop).toList)
  | _, _ => none

/-- What the groups of a match took, group 0 being the whole match. -/
def captures (p : Pattern) (text : String) : Option (List (Option String)) :=
  let chars := text.toList.toArray
  (p.program.search chars).map fun slots =>
    (List.range (slots.size / 2)).map (groupText chars slots)

end Pattern

end PathTiming
