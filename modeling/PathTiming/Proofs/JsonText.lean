import Mathlib.Data.List.Forall2
import Mathlib.Tactic.SplitIfs
import PathTiming.Json

/-! The grammar of JSON texts, and that indented texts follow it. -/
namespace PathTiming

theorem Text.join_eq_ofList (texts : List String) :
    String.join texts = String.ofList (texts.map String.toList).flatten := by
  induction texts with
  | nil => rfl
  | cons text texts ih =>
    rw [String.join_cons, ih, List.map_cons, List.flatten_cons, String.ofList_append,
      String.ofList_toList]

namespace Json

/-! ### Strings -/

/-- The characters that a letter behind a backslash stands for. -/
def letterEscapes : List (Char × Char) :=
  [('"', '"'), ('\\', '\\'), ('\n', 'n'), ('\r', 'r'), ('\t', 't'), ('\x08', 'b'), ('\x0c', 'f')]

/-- A character of a string stands for itself, unless it is a quote, a backslash or a control
character. Behind a backslash stand its letter, or the four hexadecimal digits of its number. -/
inductive SpellsChar : Char → List Char → Prop
  | itself {c : Char} (hquote : c ≠ '"') (hbackslash : c ≠ '\\') (hcontrol : 32 ≤ c.toNat) :
      SpellsChar c [c]
  | letter {c e : Char} (h : (c, e) ∈ letterEscapes) : SpellsChar c ['\\', e]
  | number {c : Char} {digits : List Nat} (hlength : digits.length = 4) (hlt : ∀ d ∈ digits, d < 16)
      (hvalue : digits.foldl (fun n d => 16 * n + d) 0 = c.toNat) :
      SpellsChar c ('\\' :: 'u' :: digits.map Nat.digitChar)

/-- A text is that of a string: its characters one after another between quotes. -/
def Quotes (s text : String) : Prop :=
  ∃ pieces, List.Forall₂ SpellsChar s.toList pieces ∧
    text = "\"" ++ String.ofList pieces.flatten ++ "\""

theorem spellsChar_escapeChar (c : Char) : SpellsChar c (escapeChar c).toList := by
  have hchar : ∀ {d : Char}, c.toNat = d.toNat → c = d := fun h =>
    Char.ext (UInt32.toNat_inj.mp h)
  unfold escapeChar
  split_ifs with hquote hbackslash hnewline hreturn htab hbackspace hfeed hcontrol
  · exact .letter (e := '"') (by simp [letterEscapes, hquote])
  · exact .letter (e := '\\') (by simp [letterEscapes, hbackslash])
  · exact .letter (e := 'n') (by simp [letterEscapes, hnewline])
  · exact .letter (e := 'r') (by simp [letterEscapes, hreturn])
  · exact .letter (e := 't') (by simp [letterEscapes, htab])
  · obtain rfl : c = '\x08' := hchar hbackspace
    exact .letter (e := 'b') (by simp [letterEscapes])
  · obtain rfl : c = '\x0c' := hchar hfeed
    exact .letter (e := 'f') (by simp [letterEscapes])
  · simp only [hex4, String.toList_append, String.toList_ofList]
    have hlt : ∀ d ∈ [4096, 256, 16, 1].map (c.toNat / · % 16), d < 16 := by simp [Nat.mod_lt]
    exact .number (c := c) rfl hlt (by simp; omega)
  · rw [Char.toString, String.toList_singleton]
    exact .itself hquote hbackslash (Nat.not_lt.mp hcontrol)

theorem quotes_quote (s : String) : Quotes s (quote s) := by
  refine ⟨s.toList.map fun c => (escapeChar c).toList, ?_, ?_⟩
  · induction s.toList with
    | nil => exact .nil
    | cons c cs ih => exact .cons (spellsChar_escapeChar c) ih
  · rw [quote, Text.join_eq_ofList, List.map_map]
    rfl

/-! ### Values -/

def Blank (text : String) : Prop := ∀ c ∈ text.toList, c ∈ [' ', '\n', '\r', '\t']

/-- Texts with a comma between each two of them, and with blanks around them. -/
inductive Separated : List String → String → Prop
  | nil {blanks : String} (hblanks : Blank blanks) : Separated [] blanks
  | single {before text after : String} (hbefore : Blank before) (hafter : Blank after) :
      Separated [text] (before ++ text ++ after)
  | cons {before text after next body : String} {texts : List String} (hbefore : Blank before)
      (hafter : Blank after) (hbody : Separated (next :: texts) body) :
      Separated (text :: next :: texts) (before ++ text ++ after ++ "," ++ body)

/-- The text of a member of an object: its key and its value with a colon between them. -/
def JoinsMember (parts : String × String) (text : String) : Prop :=
  ∃ before after, Blank before ∧ Blank after ∧
    text = parts.1 ++ before ++ ":" ++ after ++ parts.2

inductive IsText : Json → String → Prop
  | null : IsText .null "null"
  | true : IsText (.bool true) "true"
  | false : IsText (.bool false) "false"
  | number (text : String) : IsText (.number text) text
  | string {s text : String} (htext : Quotes s text) : IsText (.string s) text
  | array {items : List Json} {texts : List String} {body : String}
      (hitems : List.Forall₂ IsText items texts) (hbody : Separated texts body) :
      IsText (.array items) ("[" ++ body ++ "]")
  | object {members : List (String × Json)} {keys values texts : List String} {body : String}
      (hkeys : List.Forall₂ Quotes (members.map (·.1)) keys)
      (hvalues : List.Forall₂ IsText (members.map (·.2)) values)
      (htexts : List.Forall₂ JoinsMember (keys.zip values) texts) (hbody : Separated texts body) :
      IsText (.object members) ("\x7b" ++ body ++ "\x7d")

theorem blank_empty : Blank "" := by simp [Blank]

theorem blank_newline (depth : Nat) : Blank (newline depth) := by
  intro c hc
  simp only [newline, String.toList_append, String.toList_ofList, List.mem_append,
    List.mem_replicate] at hc
  rcases hc with hc | ⟨-, rfl⟩
  · obtain rfl : c = '\n' := by simpa using hc
    simp
  · simp

theorem separated_join {before after : String} (depth : Nat) (text : String) (texts : List String)
    (hbefore : Blank before) (hafter : Blank after) :
    Separated (text :: texts)
      (before ++ text ++ String.join (texts.map fun t => "," ++ newline depth ++ t) ++ after) := by
  induction texts generalizing before text with
  | nil =>
    rw [List.map_nil, String.join_nil, String.append_empty]
    exact .single hbefore hafter
  | cons next texts ih =>
    have h : Separated (text :: next :: texts) _ :=
      .cons hbefore blank_empty (ih next (blank_newline depth))
    simpa [String.append_assoc] using h

theorem prettyItems_eq (depth : Nat) (items : List Json) :
    prettyItems depth items =
      String.join ((items.map (prettyAt depth)).map fun t => "," ++ newline depth ++ t) := by
  induction items with
  | nil => rfl
  | cons item items ih => rw [prettyItems, ih, List.map_cons, List.map_cons, String.join_cons]

theorem prettyMembers_eq (depth : Nat) (members : List (String × Json)) :
    prettyMembers depth members =
      String.join ((members.map (prettyMember depth)).map fun t => "," ++ newline depth ++ t) := by
  induction members with
  | nil => rfl
  | cons member members ih => rw [prettyMembers, ih, List.map_cons, List.map_cons, String.join_cons]

theorem joinsMember_prettyMember (depth : Nat) (member : String × Json) :
    JoinsMember (quote member.1, prettyAt depth member.2) (prettyMember depth member) := by
  refine ⟨"", " ", blank_empty, by simp [Blank], ?_⟩
  have hcolon : quote member.1 ++ ": " = quote member.1 ++ ":" ++ " " := by
    rw [String.append_assoc]
    rfl
  rw [prettyMember, hcolon, String.append_empty]

theorem isText_array {items : List Json} (depth : Nat)
    (hitems : List.Forall₂ IsText items (items.map (prettyAt (depth + 1)))) :
    IsText (.array items) (prettyAt depth (.array items)) := by
  cases items with
  | nil => exact .array .nil (.nil blank_empty)
  | cons item items =>
    have hbody := separated_join (depth + 1) (prettyAt (depth + 1) item)
      (items.map (prettyAt (depth + 1))) (blank_newline (depth + 1)) (blank_newline depth)
    have h := IsText.array hitems hbody
    rw [← prettyItems_eq] at h
    simpa [prettyAt, String.append_assoc] using h

theorem isText_object {members : List (String × Json)} (depth : Nat)
    (hvalues : List.Forall₂ IsText (members.map (·.2))
      (members.map fun m => prettyAt (depth + 1) m.2)) :
    IsText (.object members) (prettyAt depth (.object members)) := by
  have hkeys : List.Forall₂ Quotes (members.map (·.1)) (members.map fun m => quote m.1) :=
    List.forall₂_map_left_iff.mpr (List.forall₂_map_right_iff.mpr
      (List.forall₂_same.mpr fun m _ => quotes_quote m.1))
  have htexts : List.Forall₂ JoinsMember
      ((members.map fun m => quote m.1).zip (members.map fun m => prettyAt (depth + 1) m.2))
      (members.map (prettyMember (depth + 1))) := by
    rw [List.zip_map', List.forall₂_map_left_iff, List.forall₂_map_right_iff]
    exact List.forall₂_same.mpr fun m _ => joinsMember_prettyMember (depth + 1) m
  cases members with
  | nil => exact .object .nil .nil .nil (.nil blank_empty)
  | cons member members =>
    have hbody := separated_join (depth + 1) (prettyMember (depth + 1) member)
      (members.map (prettyMember (depth + 1))) (blank_newline (depth + 1)) (blank_newline depth)
    have h := IsText.object hkeys hvalues htexts hbody
    rw [← prettyMembers_eq] at h
    simpa [prettyAt, String.append_assoc] using h

mutual

theorem isText_prettyAt : ∀ (depth : Nat) (value : Json), IsText value (prettyAt depth value)
  | _, .null => .null
  | _, .bool true => .true
  | _, .bool false => .false
  | _, .number text => .number text
  | _, .string s => .string (quotes_quote s)
  | depth, .array items => isText_array depth (forall₂_isText_items (depth + 1) items)
  | depth, .object members => isText_object depth (forall₂_isText_values (depth + 1) members)

theorem forall₂_isText_items : ∀ (depth : Nat) (items : List Json),
    List.Forall₂ IsText items (items.map (prettyAt depth))
  | _, [] => .nil
  | depth, item :: items =>
    .cons (isText_prettyAt depth item) (forall₂_isText_items depth items)

theorem forall₂_isText_values : ∀ (depth : Nat) (members : List (String × Json)),
    List.Forall₂ IsText (members.map (·.2)) (members.map fun m => prettyAt depth m.2)
  | _, [] => .nil
  | depth, (_, value) :: members =>
    .cons (isText_prettyAt depth value) (forall₂_isText_values depth members)

end

theorem isText_pretty (value : Json) : IsText value value.pretty := isText_prettyAt 0 value

end Json

end PathTiming
