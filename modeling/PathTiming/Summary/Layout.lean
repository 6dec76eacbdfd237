import PathTiming.Decimal.Printer
import PathTiming.Text.Words

/-! The line forms of a path summary. -/
namespace PathTiming.Summary

def ruler (c : Char) : String := " " ++ String.ofList (List.replicate 60 c)

def rule : String := ruler '='

def thinRule : String := ruler '-'

/-- A value with four places. A blank stands where a positive value has no sign. -/
def amount (x : Float) : String :=
  let text := Decimal.fixed 4 x
  if text.startsWith "-" then text else " " ++ text

def label (text : String) : String := " " ++ Text.padRight 26 text

def field (text : String) (x : Float) : String := label text ++ amount x

end PathTiming.Summary
