import Mathlib.Data.List.Basic
import Mathlib.Tactic.Common
import PathTiming.Report.PinRow

/-! The words of a line, and the places where they stand in it. -/
namespace PathTiming

namespace Text
open Unicode (isBlank)

theorem foldl_utf8Size (cs : List Char) (n : Nat) :
    cs.foldl (fun n c => n + c.utf8Size) n = n + byteWidth cs := by
  unfold byteWidth
  induction cs generalizing n with
  | nil => rfl
  | cons c cs ih =>
    rw [List.foldl_cons, List.foldl_cons, ih, ih (0 + c.utf8Size)]
    omega

theorem byteWidth_cons (c : Char) (cs : List Char) :
    byteWidth (c :: cs) = c.utf8Size + byteWidth cs := by
  rw [byteWidth, List.foldl_cons, foldl_utf8Size, Nat.zero_add]

theorem byteWidth_append (cs ds : List Char) :
    byteWidth (cs ++ ds) = byteWidth cs + byteWidth ds := by
  rw [byteWidth, List.foldl_append, foldl_utf8Size]
  rfl

theorem byteWidth_reverse (cs : List Char) : byteWidth cs.reverse = byteWidth cs := by
  induction cs with
  | nil => rfl
  | cons c cs ih =>
    rw [List.reverse_cons, byteWidth_append, byteWidth_cons, byteWidth_cons, ih]
    exact Nat.add_comm _ _

/-- A text that begins at byte `offset` consists of words, of the blanks before each of them, and of
blanks at the end. -/
inductive Spelled : Nat → List Token → List Char → Prop
  | done {offset : Nat} {cs : List Char} (hcs : ∀ c ∈ cs, isBlank c = true) : Spelled offset [] cs
  | word {offset : Nat} {t : Token} {ts : List Token} {cs : List Char}
      (hlead : ∀ c ∈ t.lead, isBlank c = true) (hne : t.text ≠ [])
      (htext : ∀ c ∈ t.text, isBlank c = false)
      (hstop : t.stop = offset + byteWidth t.lead + byteWidth t.text)
      (hrest : Spelled t.stop ts cs) : Spelled offset (t :: ts) (t.lead ++ t.text ++ cs)

theorem spelled_reverse {offset : Nat} {lead word : List Char} {ts : List Token} {cs : List Char}
    (hlead : ∀ c ∈ lead, isBlank c = true) (hne : word ≠ [])
    (hword : ∀ c ∈ word, isBlank c = false)
    (hrest : Spelled (offset + byteWidth lead + byteWidth word) ts cs) :
    Spelled offset (⟨lead.reverse, word.reverse, offset + byteWidth lead + byteWidth word⟩ :: ts)
      (lead.reverse ++ word.reverse ++ cs) := by
  refine .word (fun c hc => hlead c (List.mem_reverse.mp hc)) (by simpa using hne)
    (fun c hc => hword c (List.mem_reverse.mp hc)) ?_ hrest
  rw [byteWidth_reverse, byteWidth_reverse]

theorem spelled_tokensFrom (offset : Nat) (lead word cs : List Char)
    (hlead : ∀ c ∈ lead, isBlank c = true) (hword : ∀ c ∈ word, isBlank c = false) :
    Spelled offset (tokensFrom (offset + byteWidth lead + byteWidth word) lead word cs)
      (lead.reverse ++ word.reverse ++ cs) := by
  induction cs generalizing offset lead word with
  | nil =>
    cases word with
    | nil =>
      simp only [tokensFrom, List.isEmpty_nil, if_true, List.reverse_nil, List.append_nil]
      exact .done fun c hc => hlead c (List.mem_reverse.mp hc)
    | cons c word =>
      simp only [tokensFrom, List.isEmpty_cons, Bool.false_eq_true, if_false]
      exact spelled_reverse hlead (by simp) hword (.done (by simp))
  | cons c cs ih =>
    by_cases hc : isBlank c = true
    · cases word with
      | nil =>
        have h := ih offset (c :: lead) [] (List.forall_mem_cons.mpr ⟨hc, hlead⟩) hword
        have hwidth : offset + byteWidth (c :: lead) + byteWidth [] =
            offset + byteWidth lead + byteWidth [] + c.utf8Size := by
          rw [byteWidth_cons]
          omega
        rw [hwidth] at h
        simpa [tokensFrom, hc] using h
      | cons d word =>
        have h := ih (offset + byteWidth lead + byteWidth (d :: word)) [c] [] (by simpa using hc)
          (by simp)
        have hwidth : offset + byteWidth lead + byteWidth (d :: word) + byteWidth [c] +
            byteWidth [] = offset + byteWidth lead + byteWidth (d :: word) + c.utf8Size := by
          rw [byteWidth_cons c []]
          rfl
        rw [hwidth] at h
        simp only [tokensFrom, hc, if_true, List.isEmpty_cons, Bool.false_eq_true, if_false]
        exact spelled_reverse hlead (by simp) hword (by simpa using h)
    · have h := ih offset lead (c :: word) hlead
        (List.forall_mem_cons.mpr ⟨by simpa using hc, hword⟩)
      have hwidth : offset + byteWidth lead + byteWidth (c :: word) =
          offset + byteWidth lead + byteWidth word + c.utf8Size := by
        rw [byteWidth_cons]
        omega
      rw [hwidth] at h
      simpa [tokensFrom, hc] using h

/-- A line is spelled by its words. -/
theorem spelled_tokens (cs : List Char) : Spelled 0 (tokens cs) cs :=
  spelled_tokensFrom 0 [] [] cs (by simp) (by simp)

theorem Spelled.of_mem {offset : Nat} {ts : List Token} {cs : List Char}
    (h : Spelled offset ts cs) {t : Token} (ht : t ∈ ts) :
    t.text ≠ [] ∧ ∀ c ∈ t.text, isBlank c = false := by
  induction h with
  | done hcs => simp at ht
  | word hlead hne htext hstop hrest ih =>
    rcases List.mem_cons.mp ht with rfl | ht
    · exact ⟨hne, htext⟩
    · exact ih ht

theorem Spelled.stop_eq {offset : Nat} {t : Token} {ts : List Token} {cs : List Char}
    (h : Spelled offset (t :: ts) cs) :
    t.stop = offset + byteWidth t.lead + byteWidth t.text := by
  cases h with
  | word hlead hne htext hstop hrest => exact hstop

/-- The words behind others spell the rest of a line. -/
theorem Spelled.of_append {offset : Nat} {front ts : List Token} {cs : List Char}
    (h : Spelled offset (front ++ ts) cs) :
    ∃ before after, cs = before ++ after ∧ Spelled (offset + byteWidth before) ts after := by
  induction front generalizing offset cs with
  | nil => exact ⟨[], cs, rfl, h⟩
  | cons t front ih =>
    cases h with
    | word hlead hne htext hstop hrest =>
      obtain ⟨before, after, rfl, hspell⟩ := ih hrest
      refine ⟨t.lead ++ t.text ++ before, after, by simp, ?_⟩
      rw [byteWidth_append, byteWidth_append]
      rw [hstop] at hspell
      simpa [Nat.add_assoc] using hspell

end Text

namespace PinRow
open Text (Token Spelled byteWidth)

theorem joinTokens_cons_cons (t u : Token) (ts : List Token) :
    joinTokens (t :: u :: ts) = t.text ++ u.lead ++ joinTokens (u :: ts) := by
  simp [joinTokens]

/-- Words up to one that closes a parenthesis are a piece of the line. -/
theorem spelled_splitGroup? {offset : Nat} {t : Token} {ts group after : List Token}
    {cs : List Char} (h : Spelled offset (t :: ts) cs)
    (hg : splitGroup? (t :: ts) = some (group, after)) :
    ∃ more last rest, group = t :: more ∧ group.getLast? = some last ∧
      cs = t.lead ++ joinTokens group ++ rest ∧ (joinTokens group).getLast? = some ')' ∧
      last.stop = offset + byteWidth t.lead + byteWidth (joinTokens group) ∧
      Spelled last.stop after rest := by
  induction ts generalizing offset t group cs with
  | nil =>
    unfold splitGroup? at hg
    split_ifs at hg with hclose
    · cases hg
      cases h with
      | word hlead hne htext hstop hrest =>
        exact ⟨[], t, _, rfl, rfl, by simp [joinTokens], by simpa [joinTokens] using hclose,
          by simpa [joinTokens] using hstop, hrest⟩
    · simp [splitGroup?] at hg
  | cons u ts ih =>
    unfold splitGroup? at hg
    cases h with
    | word hlead hne htext hstop hrest =>
      split_ifs at hg with hclose
      · cases hg
        exact ⟨[], t, _, rfl, rfl, by simp [joinTokens], by simpa [joinTokens] using hclose,
          by simpa [joinTokens] using hstop, hrest⟩
      · obtain ⟨⟨group', after'⟩, hg', he⟩ := Option.map_eq_some_iff.mp hg
        cases he
        obtain ⟨more, last, rest, rfl, hlast, rfl, hend, hlaststop, hspell⟩ := ih hrest hg'
        refine ⟨u :: more, last, rest, rfl, by simpa using hlast, ?_, ?_, ?_, hspell⟩
        · rw [joinTokens_cons_cons]
          simp
        · rw [joinTokens_cons_cons, List.getLast?_append, hend]
          rfl
        · rw [hlaststop, hstop, joinTokens_cons_cons, Text.byteWidth_append,
            Text.byteWidth_append]
          omega

/-- The words stand in a line between two bytes, at which the first one begins and the last one
ends, and they stand in parentheses. -/
def IsSlice (text : List Char) (group : List Token) : Prop :=
  ∃ before inner rest first last, text = before ++ joinTokens group ++ rest ∧
    joinTokens group = '(' :: inner ++ [')'] ∧
    group.head? = some first ∧ byteWidth before + byteWidth first.text = first.stop ∧
    group.getLast? = some last ∧ byteWidth (before ++ joinTokens group) = last.stop

theorem isSlice_of_splitGroup? {text : List Char} {front ts group after : List Token}
    {t : Token} (htokens : Text.tokens text = front ++ t :: ts) (ht : t.text.head? = some '(')
    (hg : splitGroup? (t :: ts) = some (group, after)) : IsSlice text group := by
  have hline := Text.spelled_tokens text
  rw [htokens] at hline
  obtain ⟨before, rest, rfl, hspell⟩ := hline.of_append
  have hstop := hspell.stop_eq
  obtain ⟨more, last, rest', rfl, hlast, rfl, hend, hlaststop, -⟩ := spelled_splitGroup? hspell hg
  obtain ⟨cs, hcs⟩ : ∃ cs, t.text = '(' :: cs := by
    cases htext : t.text with
    | nil => simp [htext] at ht
    | cons c cs =>
      rw [htext] at ht
      cases ht
      exact ⟨cs, rfl⟩
  obtain ⟨tail, htail⟩ : ∃ tail, joinTokens (t :: more) = '(' :: tail := by
    rw [joinTokens, hcs]
    exact ⟨_, rfl⟩
  obtain ⟨inner, hinner⟩ : ∃ inner, joinTokens (t :: more) = '(' :: inner ++ [')'] := by
    obtain ⟨init, hinit⟩ := List.getLast?_eq_some_iff.mp hend
    cases init with
    | nil =>
      rw [htail] at hinit
      simp at hinit
    | cons c init =>
      rw [htail] at hinit
      cases hinit
      exact ⟨init, by rw [htail]; rfl⟩
  refine ⟨before ++ t.lead, inner, rest', t, last, by simp, hinner, rfl, ?_, hlast, ?_⟩
  · rw [hstop, Text.byteWidth_append]
    omega
  · rw [hlaststop, Text.byteWidth_append, Text.byteWidth_append]
    omega

end PinRow

end PathTiming
