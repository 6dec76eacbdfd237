import PathTiming.Text.Split

/-! Names of pins: the instance and the pin on it, divided by the last slash. -/
namespace PathTiming.PinName

def instanceOf (name : String) : String :=
  match Text.splitLast '/' name.toList with
  | some (inst, _) => String.ofList inst
  | none => ""

/-- The pin on its instance; a port is its own pin. -/
def pinOf (name : String) : String :=
  match Text.splitLast '/' name.toList with
  | some (_, pin) => String.ofList pin
  | none => name

end PathTiming.PinName
