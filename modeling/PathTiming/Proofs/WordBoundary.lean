import Mathlib.Data.List.DropRight
import PathTiming.Proofs.TokenSpan

/-! Words end at blanks only. What spells a line with its words apart gives the words of the
line. -/
namespace PathTiming.Text
open Unicode (isBlank)

/-- A word is not continued by a text: the text is empty or begins with a blank. -/
def EndsWord (rest : List Char) : Prop := ∀ c ∈ rest.head?, isBlank c = true

theorem tokensFrom_blanks (offset : Nat) (lead : List Char) {gap : List Char}
    (hgap : ∀ c ∈ gap, isBlank c = true) (rest : List Char) :
    tokensFrom offset lead [] (gap ++ rest) =
      tokensFrom (offset + byteWidth gap) (gap.reverse ++ lead) [] rest := by
  induction gap generalizing offset lead with
  | nil => rfl
  | cons c gap ih =>
    obtain ⟨hc, hgap⟩ := List.forall_mem_cons.mp hgap
    rw [List.cons_append, tokensFrom, if_pos hc, if_pos List.isEmpty_nil, ih _ _ hgap,
      byteWidth_cons, List.reverse_cons, List.append_assoc, List.singleton_append, Nat.add_assoc]

theorem tokensFrom_word (offset : Nat) (lead word : List Char) {more : List Char}
    (hmore : ∀ c ∈ more, isBlank c = false) (rest : List Char) :
    tokensFrom offset lead word (more ++ rest) =
      tokensFrom (offset + byteWidth more) lead (more.reverse ++ word) rest := by
  induction more generalizing offset word with
  | nil => rfl
  | cons c more ih =>
    obtain ⟨hc, hmore⟩ := List.forall_mem_cons.mp hmore
    rw [List.cons_append, tokensFrom, if_neg (by rw [hc]; exact Bool.false_ne_true), ih _ _ hmore,
      byteWidth_cons, List.reverse_cons, List.append_assoc, List.singleton_append, Nat.add_assoc]

theorem tokensFrom_end (offset : Nat) (lead : List Char) {word rest : List Char} (hne : word ≠ [])
    (hrest : EndsWord rest) :
    tokensFrom offset lead word rest =
      ⟨lead.reverse, word.reverse, offset⟩ :: tokensFrom offset [] [] rest := by
  have hword : word.isEmpty = false := by simpa using hne
  cases rest with
  | nil => simp [tokensFrom, hword]
  | cons c rest => simp [tokensFrom, hword, hrest c rfl]

/-- The first word of a line, when blanks come before it and no other character directly behind. -/
theorem tokensFrom_lead_word (offset : Nat) {lead word rest : List Char}
    (hlead : ∀ c ∈ lead, isBlank c = true) (hne : word ≠ [])
    (hword : ∀ c ∈ word, isBlank c = false) (hrest : EndsWord rest) :
    tokensFrom offset [] [] (lead ++ word ++ rest) =
      ⟨lead, word, offset + byteWidth lead + byteWidth word⟩ ::
        tokensFrom (offset + byteWidth lead + byteWidth word) [] [] rest := by
  rw [List.append_assoc, tokensFrom_blanks _ _ hlead, tokensFrom_word _ _ _ hword,
    tokensFrom_end _ _ (by simpa using hne) hrest]
  simp

/-- No word but the first one stands directly behind another. -/
def Separated (ts : List Token) : Prop := ∀ t ∈ ts.tail, t.lead ≠ []

theorem Spelled.endsWord {offset : Nat} {ts : List Token} {cs : List Char}
    (h : Spelled offset ts cs) (hsep : ∀ t ∈ ts, t.lead ≠ []) : EndsWord cs := by
  cases h with
  | done hcs => exact fun c hc => hcs c (List.mem_of_head? hc)
  | word hlead hne htext hstop hrest =>
    intro c hc
    obtain ⟨d, lead, hd⟩ := List.exists_cons_of_ne_nil (hsep _ List.mem_cons_self)
    rw [hd, List.cons_append, List.cons_append, List.head?_cons, Option.mem_some_iff] at hc
    rw [← hc]
    exact hlead d (by rw [hd]; exact List.mem_cons_self)

theorem tokensFrom_of_spelled {offset : Nat} {ts : List Token} {cs : List Char}
    (h : Spelled offset ts cs) (hsep : Separated ts) : tokensFrom offset [] [] cs = ts := by
  induction h with
  | @done offset cs hcs =>
    have hblanks := tokensFrom_blanks offset [] hcs []
    rw [List.append_nil] at hblanks
    rw [hblanks]
    rfl
  | @word offset t ts cs hlead hne htext hstop hrest ih =>
    rw [tokensFrom_lead_word offset hlead hne htext (hrest.endsWord hsep), ← hstop,
      ih fun t ht => hsep t (List.mem_of_mem_tail ht)]

/-- Words that spell a line, each apart from the one before it, are the words of the line. -/
theorem tokens_of_spelled {ts : List Token} {cs : List Char} (h : Spelled 0 ts cs)
    (hsep : Separated ts) : tokens cs = ts :=
  tokensFrom_of_spelled h hsep

/-- Words end one behind another. -/
theorem Spelled.pairwise_stop {offset : Nat} {ts : List Token} {cs : List Char}
    (h : Spelled offset ts cs) : (∀ t ∈ ts, offset < t.stop) ∧ ts.Pairwise (·.stop < ·.stop) := by
  induction h with
  | done => exact ⟨by simp, .nil⟩
  | @word offset t ts cs hlead hne htext hstop hrest ih =>
    have hwidth : 0 < byteWidth t.text := by
      obtain ⟨c, text, hc⟩ := List.exists_cons_of_ne_nil hne
      rw [hc, byteWidth_cons]
      have := c.utf8Size_pos
      omega
    refine ⟨List.forall_mem_cons.mpr ⟨by omega, fun u hu => ?_⟩, .cons ih.1 ih.2⟩
    have := ih.1 u hu
    omega

theorem Spelled.subset_of_mem {offset : Nat} {ts : List Token} {cs : List Char}
    (h : Spelled offset ts cs) {t : Token} (ht : t ∈ ts) : t.text ⊆ cs := by
  induction h with
  | done => cases ht
  | word hlead hne htext hstop hrest ih =>
    intro c hc
    rcases List.mem_cons.mp ht with rfl | ht
    · exact List.mem_append_left _ (List.mem_append_right _ hc)
    · exact List.mem_append_right _ (ih ht hc)

/-- Trimming takes away blanks only. -/
theorem mem_trim {cs : List Char} {c : Char} (h : c ∈ cs) (hc : isBlank c = false) :
    c ∈ trim cs := by
  have hstart : c ∈ trimStart cs := by
    rw [← List.takeWhile_append_dropWhile (p := isBlank) (l := cs)] at h
    refine (List.mem_append.mp h).resolve_left fun hlead => ?_
    rw [List.mem_takeWhile_imp hlead] at hc
    cases hc
  rw [← List.rdropWhile_append_rtakeWhile (p := isBlank) (l := trimStart cs)] at hstart
  refine (List.mem_append.mp hstart).resolve_right fun htrail => ?_
  rw [List.mem_rtakeWhile_imp htrail] at hc
  cases hc

/-- The first word reaches from the first character that is no blank up to the next blank. -/
theorem headD_words (cs : List Char) :
    (words cs).headD [] = (trimStart cs).takeWhile (!isBlank ·) := by
  have hlead : ∀ c ∈ cs.takeWhile isBlank, isBlank c = true := fun c => List.mem_takeWhile_imp
  have hword : ∀ c ∈ (trimStart cs).takeWhile (!isBlank ·), isBlank c = false := by
    intro c hc
    simpa using List.mem_takeWhile_imp hc
  have hsplit : cs = cs.takeWhile isBlank ++ (trimStart cs).takeWhile (!isBlank ·) ++
      (trimStart cs).dropWhile (!isBlank ·) := by
    rw [List.append_assoc, List.takeWhile_append_dropWhile]
    exact List.takeWhile_append_dropWhile.symm
  by_cases hblank : trimStart cs = []
  · have hall : ∀ c ∈ cs, isBlank c = true := List.dropWhile_eq_nil_iff.mp hblank
    rw [hblank, words, tokens, tokensFrom_of_spelled (.done hall) (by simp [Separated])]
    rfl
  · have hne : (trimStart cs).takeWhile (!isBlank ·) ≠ [] := by
      have hhead : isBlank ((trimStart cs).head hblank) = false := List.head_dropWhile_not _ hblank
      rw [← List.cons_head_tail hblank, List.takeWhile_cons_of_pos (by rw [hhead]; rfl)]
      exact List.cons_ne_nil _ _
    have hrest : EndsWord ((trimStart cs).dropWhile (!isBlank ·)) := by
      intro c hc
      have hnot := List.head?_dropWhile_not (!isBlank ·) (trimStart cs)
      rw [hc] at hnot
      simpa using hnot
    rw [words, tokens]
    conv_lhs => rw [hsplit]
    rw [tokensFrom_lead_word 0 hlead hne hword hrest]
    rfl

theorem prefix_takeWhile {α : Type} {p : α → Bool} {l cs : List α} (hl : ∀ a ∈ l, p a = true)
    (h : l <+: cs) : l <+: cs.takeWhile p := by
  obtain ⟨rest, rfl⟩ := h
  rw [List.takeWhile_append_of_pos hl]
  exact List.prefix_append _ _

/-- A text that does not end with a blank is not shortened when what follows it is trimmed. -/
theorem prefix_dropEndWhile {p : Char → Bool} {front : List Char} {c : Char} {cs : List Char}
    (hc : p c = false) (h : front ++ [c] <+: cs) : front ++ [c] <+: dropEndWhile p cs := by
  obtain ⟨rest, rfl⟩ := h
  induction rest using List.reverseRecOn with
  | nil =>
    have hself : dropEndWhile p (front ++ [c]) = front ++ [c] :=
      List.rdropWhile_concat_neg p front c (by rw [hc]; exact Bool.false_ne_true)
    rw [List.append_nil]
    exact ⟨[], by rw [List.append_nil]; exact hself.symm⟩
  | append_singleton rest d ih =>
    rw [← List.append_assoc, dropEndWhile, ← List.rdropWhile, List.rdropWhile_concat]
    split_ifs
    · exact ih
    · exact (List.prefix_append _ _).trans (List.prefix_append _ _)

end PathTiming.Text
