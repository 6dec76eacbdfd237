/-! JSON values and their indented text. -/
namespace PathTiming

/-- A JSON value. A number is kept as its text, and the members of an object in the order in which
they are written. -/
inductive Json where
  | null
  | bool (value : Bool)
  | number (text : String)
  | string (value : String)
  | array (items : List Json)
  | object (members : List (String × Json))
deriving Inhabited

namespace Json

/-- Four hexadecimal digits of a code unit. -/
def hex4 (n : Nat) : String :=
  String.ofList <| [4096, 256, 16, 1].map fun place => Nat.digitChar (n / place % 16)

/-- Quotes, backslashes and control characters are escaped; all other characters stand for
themselves. -/
def escapeChar (c : Char) : String :=
  if c = '"' then "\\\""
  else if c = '\\' then "\\\\"
  else if c = '\n' then "\\n"
  else if c = '\r' then "\\r"
  else if c = '\t' then "\\t"
  else if c.toNat = 8 then "\\b"
  else if c.toNat = 12 then "\\f"
  else if c.toNat < 32 then "\\u" ++ hex4 c.toNat
  else c.toString

def quote (s : String) : String := "\"" ++ String.join (s.toList.map escapeChar) ++ "\""

/-- The line break before an item at the given depth. -/
def newline (depth : Nat) : String := "\n" ++ String.ofList (List.replicate (2 * depth) ' ')

mutual

/-- Indented text of a value that stands at the given depth: one item or member a line, two blanks
a level. -/
def prettyAt (depth : Nat) : Json → String
  | null => "null"
  | bool b => if b then "true" else "false"
  | number text => text
  | string s => quote s
  | array [] => "[]"
  | array (item :: items) =>
    "[" ++ newline (depth + 1) ++ prettyAt (depth + 1) item ++ prettyItems (depth + 1) items ++
      newline depth ++ "]"
  | object [] => "\x7b\x7d"
  | object (member :: members) =>
    "\x7b" ++ newline (depth + 1) ++ prettyMember (depth + 1) member ++
      prettyMembers (depth + 1) members ++ newline depth ++ "\x7d"

def prettyItems (depth : Nat) : List Json → String
  | [] => ""
  | item :: items => "," ++ newline depth ++ prettyAt depth item ++ prettyItems depth items

def prettyMember (depth : Nat) : String × Json → String
  | (key, value) => quote key ++ ": " ++ prettyAt depth value

/-- The members after the first one, each behind a comma. -/
def prettyMembers (depth : Nat) : List (String × Json) → String
  | [] => ""
  | member :: members =>
    "," ++ newline depth ++ prettyMember depth member ++ prettyMembers depth members

end

def pretty (value : Json) : String := prettyAt 0 value

def nat (n : Nat) : Json := number (toString n)

def option {α : Type} (encode : α → Json) : Option α → Json
  | none => null
  | some a => encode a

def list {α : Type} (encode : α → Json) (items : List α) : Json := array (items.map encode)

end Json

end PathTiming
