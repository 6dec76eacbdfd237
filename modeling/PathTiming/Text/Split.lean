/-! Division of texts at separators. -/
namespace PathTiming.Text

/-- The pieces between the occurrences of `sep`. There is always one more piece than there are
separators. -/
def splitOn (sep : Char) : List Char → List (List Char)
  | [] => [[]]
  | c :: cs =>
    if c = sep then [] :: splitOn sep cs
    else
      match splitOn sep cs with
      | [] => [[c]]
      | piece :: rest => (c :: piece) :: rest

/-- The text before and after the first occurrence of `pattern`. -/
def splitOnce (pattern : List Char) : List Char → Option (List Char × List Char)
  | [] => if pattern.isEmpty then some ([], []) else none
  | c :: cs =>
    match pattern.isPrefixOf? (c :: cs) with
    | some rest => some ([], rest)
    | none => (splitOnce pattern cs).map fun (before, after) => (c :: before, after)

/-- The text before and after the last occurrence of `sep`. -/
def splitLast (sep : Char) : List Char → Option (List Char × List Char)
  | [] => none
  | c :: cs =>
    match splitLast sep cs with
    | some (before, after) => some (c :: before, after)
    | none => if c = sep then some ([], cs) else none

def occurs (pattern cs : List Char) : Bool := (splitOnce pattern cs).isSome

def dropSuffix? (suffix cs : List Char) : Option (List Char) :=
  (suffix.reverse.isPrefixOf? cs.reverse).map List.reverse

/-- The pieces of a text between its newlines, without the empty piece that a final newline
leaves, unless it is the only one. -/
def lines (cs : List Char) : List (List Char) :=
  let pieces := splitOn '\n' cs
  if pieces.length > 1 ∧ pieces.getLast? = some [] then pieces.dropLast else pieces

end PathTiming.Text
