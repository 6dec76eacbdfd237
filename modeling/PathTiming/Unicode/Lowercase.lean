import PathTiming.Unicode.CaseData
import PathTiming.Unicode.Letter

/-! Lower case of texts. -/
namespace PathTiming.Unicode

/-- Whether the next character that is not case-ignorable is cased. -/
def meetsCased (cs : List Char) : Bool :=
  match cs.dropWhile fun c => ignorableTable.contains c.toNat with
  | [] => false
  | c :: _ => casedTable.contains c.toNat

/-- Lower case of one character between the reversed text before it and the text after it. A
capital sigma that ends a word becomes a final sigma, and a dotted capital I keeps its dot. -/
def lowerChar (before : List Char) (c : Char) (after : List Char) : List Char :=
  if c = 'Σ' then
    if meetsCased before && !meetsCased after then ['ς'] else ['σ']
  else if c = 'İ' then ['i', Char.ofNat 0x307]
  else [Char.ofNat (lowerMap.apply c.toNat)]

/-- Lower case of the text that follows `before`, which is reversed. -/
def lowerFrom (before : List Char) : List Char → List Char
  | [] => []
  | c :: rest => lowerChar before c rest ++ lowerFrom (c :: before) rest

def toLower (s : String) : String := String.ofList (lowerFrom [] s.toList)

end PathTiming.Unicode
