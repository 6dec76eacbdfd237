import PathTiming.Diagnostic.Basic
import PathTiming.Source.Sources
import PathTiming.Json

/-! Texts of messages, for reading and as JSON. -/
namespace PathTiming

def Severity.colour : Severity → String
  | note => "36"
  | warning => "33"
  | error => "31"

def Severity.styled (s : Severity) (colour : Bool) : String :=
  if colour then "\x1b[1;" ++ s.colour ++ "m" ++ s.label ++ "\x1b[0m" else s.label

namespace Diagnostic

/-- The line that a message is about, under a ruler as wide as its number. -/
def excerpt (line : Nat) (text : String) : String :=
  let number := toString line
  let ruler := Text.padRight number.length "" ++ " |\n"
  ruler ++ number ++ " | " ++ text ++ "\n" ++ ruler

/-- The text of a message: what it says, where, the line it is about, and its remarks. -/
def render (d : Diagnostic) (sources : Sources) (colour : Bool) : String :=
  let place :=
    match sources.describe? d.location with
    | none => ""
    | some place =>
      "  --> " ++ place ++ "\n" ++
        ((sources.lineText? d.location).map (excerpt d.location.line)).getD ""
  d.severity.styled colour ++ "[" ++ d.code.label ++ "]: " ++ d.message ++ "\n" ++ place ++
    String.join (d.notes.map fun note => "   = note: " ++ note ++ "\n") ++
    String.join (d.help.map fun help => "   = help: " ++ help ++ "\n")

end Diagnostic

def Severity.jsonName : Severity → String
  | note => "Note"
  | warning => "Warning"
  | error => "Error"

def Area.jsonName : Area → String
  | config => "Config"
  | report => "Report"
  | analysis => "Analysis"

def Location.toJson (l : Location) : Json :=
  .object [("file", .nat l.file.index), ("line", .nat l.line)]

def Diagnostic.toJson (d : Diagnostic) : Json :=
  .object [
    ("severity", .string d.severity.jsonName),
    ("code", .object [
      ("category", .string d.code.area.jsonName),
      ("number", .nat d.code.number)]),
    ("message", .string d.message),
    ("location", d.location.toJson),
    ("notes", .list .string d.notes),
    ("help", .list .string d.help)]

end PathTiming
