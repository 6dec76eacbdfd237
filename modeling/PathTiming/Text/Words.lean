import PathTiming.Unicode.Blank

/-! Texts as lists of characters: trimming, and division into blank-separated words. -/
namespace PathTiming.Text
open Unicode (isBlank)

def trimStart (cs : List Char) : List Char := cs.dropWhile isBlank

/-- The text without its trailing characters that satisfy `p`. -/
def dropEndWhile (p : Char → Bool) (cs : List Char) : List Char :=
  (cs.reverse.dropWhile p).reverse

def trim (cs : List Char) : List Char := dropEndWhile isBlank (trimStart cs)

def byteWidth (cs : List Char) : Nat := cs.foldl (fun n c => n + c.utf8Size) 0

/-- A word of a line, with the blanks before it and the byte offset at which it ends. -/
structure Token where
  lead : List Char
  text : List Char
  stop : Nat
deriving Repr, DecidableEq, Inhabited

/-- Words of a line whose next character stands at byte `offset`, when the blanks `lead` and the
first characters `word` of a word, both reversed, have been read. -/
def tokensFrom (offset : Nat) (lead word : List Char) : List Char → List Token
  | [] => if word.isEmpty then [] else [⟨lead.reverse, word.reverse, offset⟩]
  | c :: cs =>
    if isBlank c then
      if word.isEmpty then tokensFrom (offset + c.utf8Size) (c :: lead) [] cs
      else ⟨lead.reverse, word.reverse, offset⟩ :: tokensFrom (offset + c.utf8Size) [c] [] cs
    else tokensFrom (offset + c.utf8Size) lead (c :: word) cs

def tokens (cs : List Char) : List Token := tokensFrom 0 [] [] cs

def words (cs : List Char) : List (List Char) := (tokens cs).map (·.text)

def byteLength (s : String) : Nat := byteWidth s.toList

def ofLines (lines : List String) : String := String.join (lines.map (· ++ "\n"))

/-- Fills a text with blanks on the right up to `width` characters. -/
def padRight (width : Nat) (s : String) : String :=
  s ++ String.ofList (List.replicate (width - s.length) ' ')

/-- Fills a text on the left with `c` up to `width` characters. -/
def padLeft (c : Char) (width : Nat) (s : String) : String :=
  String.ofList (List.replicate (width - s.length) c) ++ s

end PathTiming.Text
