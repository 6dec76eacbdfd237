import PathTiming.Path.Column
import PathTiming.Text.Words

/-! What the head of a report says about the command that made it. -/
namespace PathTiming

structure ReportHeader where
  style : Option PathStyle := none
  /-- Pins that paths had to go through. -/
  through : List String := []
deriving Repr, DecidableEq, Inhabited

inductive Awaited where
  | nothing
  | style
  | through
deriving Repr, DecidableEq

namespace ReportHeader

/-- Whether a line starts a path. The rest of the line is returned. -/
def startpoint? (line : List Char) : Option (List Char) :=
  "Startpoint:".toList.isPrefixOf? (Text.trimStart line)

/-- The option of a word that stands where an option may stand. -/
def optionOf (word : String) : Awaited :=
  if word = "-path_type" ∨ word = "-path" then .style
  else if word = "-through" ∨ word = "-thr" then .through
  else .nothing

/-- A pin in the argument of an option, without the braces of a list. -/
def bare (word : List Char) : List Char :=
  let brace (c : Char) : Bool := c == '\x7b' || c == '\x7d'
  Text.dropEndWhile brace (word.dropWhile brace)

def readWord (h : ReportHeader) (awaited : Awaited) (word : List Char) : ReportHeader × Awaited :=
  match awaited with
  | .nothing => (h, optionOf (String.ofList word))
  | .style =>
    match PathStyle.ofLabel? (String.ofList word) with
    | some s => ({ h with style := some s }, .nothing)
    | none => (h, .nothing)
  | .through =>
    if word.head? = some '-' then (h, optionOf (String.ofList word))
    else if (bare word).isEmpty then (h, .through)
    else ({ h with through := h.through ++ [String.ofList (bare word)] }, .through)

/-- Reads one line. Arguments stand on the line of their option. -/
def readLine (h : ReportHeader) (line : List Char) : ReportHeader :=
  ((Text.words line).foldl (fun (h, awaited) word => readWord h awaited word) (h, .nothing)).1

def ofLines (lines : List String) : ReportHeader :=
  (lines.takeWhile fun line => (startpoint? line.toList).isNone).foldl
    (fun h line => readLine h line.toList) {}

end ReportHeader

end PathTiming
