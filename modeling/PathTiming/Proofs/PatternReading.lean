import PathTiming.Proofs.BlockStep
import PathTiming.Pattern.Parser

/-! Reading a pattern with a closing parenthesis behind it. What is read of the pattern by itself is
read in front of the parenthesis as well, unless the pattern ends in a comment, which takes in the
parenthesis. And where the pattern by itself is at fault, there is a fault in front of the
parenthesis, or what is read goes beyond it. -/
namespace PathTiming.Pattern
open Unicode (isBlank)

/-- What closes the group around a pattern that is anchored. -/
def ending : List Char := [')', '$']

def tails : List (List Char) := [[')'], ending]

theorem ending_mem_tails : ending ∈ tails := by simp [tails]

theorem eq_of_mem_tails {u : List Char} (h : u ∈ tails) : u = [')'] ∨ u = ending := by
  simpa [tails] using h

theorem exists_of_mem_tails {u : List Char} (h : u ∈ tails) : ∃ more, u = ')' :: more := by
  obtain rfl | rfl := eq_of_mem_tails h
  · exact ⟨_, rfl⟩
  · exact ⟨_, rfl⟩

theorem notMem_of_mem_tails {u : List Char} (h : u ∈ tails) {c : Char} (hc : c ≠ ')' ∧ c ≠ '$') :
    c ∉ u := by
  obtain rfl | rfl := eq_of_mem_tails h <;> simp [ending, hc]

/-- Reads something from the front of a text, and returns the rest of it. -/
abbrev Reader (α : Type) := List Char → Except SyntaxError (α × List Char)

/-- Reading from a text does not depend on what may stand behind it, which remains to be read, but
for an open comment that takes it in. A fault remains a fault, or else so much is read that `past`
tells what was read, and what remains. -/
structure StableAt {α : Type} (past : α → List Char → Prop) (R : Reader α) (cs : List Char) :
    Prop where
  suffix : ∀ a rest, R cs = .ok (a, rest) → rest <:+ cs
  same : ∀ a rest, R cs = .ok (a, rest) →
    (∀ u ∈ tails, R (cs ++ u) = .ok (a, rest ++ u)) ∨
      '#' ∈ cs ∧ rest = [] ∧ ∀ u ∈ tails, R (cs ++ u) = .ok (a, [])
  fault : ∀ e a rest, R cs = .error e → R (cs ++ ending) = .ok (a, rest) → past a rest

namespace StableAt
variable {α β : Type} {past : α → List Char → Prop} {past' : β → List Char → Prop}
  {R R' : Reader α} {cs cs' : List Char}

/-- A text of which one reader reads as another one does of a part of it. -/
theorem congr (h : StableAt past R' cs') (hcs : cs' <:+ cs)
    (hR : ∀ u, u = [] ∨ u ∈ tails → R (cs ++ u) = R' (cs' ++ u)) : StableAt past R cs := by
  have halone : R cs = R' cs' := by
    have hnil := hR [] (.inl rfl)
    rwa [List.append_nil, List.append_nil] at hnil
  constructor
  · intro a rest hok
    rw [halone] at hok
    exact (h.suffix a rest hok).trans hcs
  · intro a rest hok
    rw [halone] at hok
    rcases h.same a rest hok with hsame | ⟨hmark, hrest, hnone⟩
    · exact .inl fun u hu => (hR u (.inr hu)).trans (hsame u hu)
    · exact .inr ⟨hcs.mem hmark, hrest, fun u hu => (hR u (.inr hu)).trans (hnone u hu)⟩
  · intro e a rest herror hok
    rw [halone] at herror
    rw [hR ending (.inr ending_mem_tails)] at hok
    exact h.fault e a rest herror hok

/-- The same at the end of a pattern, behind which there is nothing or the parenthesis. -/
theorem congr_end (h : StableAt past R' cs') (hcs : cs' <:+ cs)
    (hnil : R (cs ++ []) = R' (cs' ++ []))
    (htail : ∀ more, R (cs ++ ')' :: more) = R' (cs' ++ ')' :: more)) : StableAt past R cs := by
  refine h.congr hcs fun u hu => ?_
  rcases hu with rfl | hu
  · exact hnil
  · obtain ⟨more, rfl⟩ := exists_of_mem_tails hu
    exact htail more

/-- Behind the same character, the readers read the same. -/
theorem cons {c : Char} (h : StableAt past R' cs) (hR : ∀ cs, R (c :: cs) = R' cs) :
    StableAt past R (c :: cs) :=
  h.congr (List.suffix_cons c cs) fun u _ => hR (cs ++ u)

theorem pure (a : α) : StableAt past (fun cs => .ok (a, cs)) cs := by
  constructor
  · rintro _ _ ⟨⟩
    exact List.suffix_refl cs
  · rintro _ _ ⟨⟩
    exact .inl fun u _ => rfl
  · rintro _ _ _ ⟨⟩

theorem error (e : SyntaxError) : StableAt past (fun _ => (.error e : Except _ (α × _))) cs := by
  constructor
  · rintro _ _ ⟨⟩
  · rintro _ _ ⟨⟩
  · rintro _ _ _ - ⟨⟩

/-- Nothing is read. -/
theorem lift (x : Except SyntaxError α) : StableAt past (fun cs => x.map (·, cs)) cs := by
  cases x with
  | error e => exact error e
  | ok a => exact pure a

/-- Nothing is read, and what was read before is changed. -/
theorem liftBind (x : Except SyntaxError β) (g : β → α) :
    StableAt past (fun cs => do return (g (← x), cs)) cs := by
  cases x with
  | error e => exact error e
  | ok b => exact pure (g b)

/-- There is nothing to read. -/
theorem nil {e : SyntaxError} (h : R [] = .error e)
    (hpast : ∀ a rest, R ending = .ok (a, rest) → past a rest) : StableAt past R [] := by
  constructor
  · intro a rest hok
    rw [h] at hok
    cases hok
  · intro a rest hok
    rw [h] at hok
    cases hok
  · intro _ a rest _ hok
    exact hpast a rest hok

theorem bind {k : α × List Char → Except SyntaxError (β × List Char)} (h : StableAt past R cs)
    (hk : ∀ a rest, rest <:+ cs → StableAt past' (fun rest => k (a, rest)) rest)
    (hpast : ∀ a r b rest, past a r → k (a, r) = .ok (b, rest) → past' b rest) :
    StableAt past' (fun cs => R cs >>= k) cs := by
  constructor
  · intro b rest hok
    obtain ⟨⟨a, r⟩, hread, hok⟩ := ok_of_bind hok
    have hr := h.suffix a r hread
    exact ((hk a r hr).suffix b rest hok).trans hr
  · intro b rest hok
    obtain ⟨⟨a, r⟩, hread, hok⟩ := ok_of_bind hok
    have hr := h.suffix a r hread
    rcases h.same a r hread with hsame | ⟨hmark, rfl, hnone⟩
    · rcases (hk a r hr).same b rest hok with hsame' | ⟨hmark, hrest, hnone⟩
      · exact .inl fun u hu => by rw [hsame u hu]; exact hsame' u hu
      · exact .inr ⟨hr.mem hmark, hrest, fun u hu => by rw [hsame u hu]; exact hnone u hu⟩
    · obtain rfl := List.suffix_nil.mp ((hk a [] hr).suffix b rest hok)
      exact .inr ⟨hmark, rfl, fun u hu => by rw [hnone u hu]; exact hok⟩
  · intro e b rest herror hok
    -- The fault is in the first part or behind it; in a comment, there is nothing behind it.
    obtain ⟨⟨a', r'⟩, hread', hok⟩ := ok_of_bind hok
    cases hread : R cs with
    | error e' => exact hpast a' r' b rest (h.fault e' a' r' hread hread') hok
    | ok outcome =>
      obtain ⟨a, r⟩ := outcome
      have hr := h.suffix a r hread
      rw [hread] at herror
      rcases h.same a r hread with hsame | ⟨-, rfl, hnone⟩
      · obtain ⟨rfl, rfl⟩ : a = a' ∧ r ++ ending = r' := by
          simpa [hsame ending ending_mem_tails] using hread'
        exact (hk a r hr).fault e b rest herror hok
      · obtain ⟨rfl, rfl⟩ : a = a' ∧ [] = r' := by
          simpa [hnone ending ending_mem_tails] using hread'
        exact nomatch herror.symm.trans hok

/-- What is read is changed without reading on. -/
theorem finish {γ : Type} {g : α → Except SyntaxError γ} {h : γ → β} (hR : StableAt past R cs)
    (hpast : ∀ a b rest, past a rest → g a = .ok b → past' (h b) rest) :
    StableAt past' (fun cs => do
      let (a, rest) ← R cs
      return (h (← g a), rest)) cs := by
  refine hR.bind (fun a rest _ => liftBind (g a) h) ?_
  intro a r b rest hr hok
  obtain ⟨c, hc, hpair⟩ := ok_of_bind hok
  cases hpair
  exact hpast a c r hr hc

/-- What is read is put into something else. -/
theorem map {h : α → β} (hR : StableAt past R cs)
    (hpast : ∀ a rest, past a rest → past' (h a) rest) :
    StableAt past' (fun cs => do
      let (a, rest) ← R cs
      return (h a, rest)) cs := by
  refine hR.bind (fun a rest _ => pure (h a)) ?_
  intro a r b rest hr hok
  cases hok
  exact hpast a r hr

theorem weaken {past' : α → List Char → Prop} (h : StableAt past R cs)
    (hpast : ∀ a rest, past a rest → past' a rest) : StableAt past' R cs :=
  ⟨h.suffix, h.same, fun e a rest herror hok => hpast a rest (h.fault e a rest herror hok)⟩

theorem ite {p : Prop} [Decidable p] (h : p → StableAt past R cs)
    (h' : ¬ p → StableAt past R' cs) : StableAt past (fun cs => if p then R cs else R' cs) cs := by
  by_cases hp : p
  · simpa only [if_pos hp] using h hp
  · simpa only [if_neg hp] using h' hp

end StableAt

/-! ### Blanks and comments -/

theorem skipRemarks_append (inComment : Bool) (cs : List Char) :
    (∀ u ∈ tails, skipRemarks inComment (cs ++ u) = skipRemarks inComment cs ++ u) ∨
      (inComment = true ∨ '#' ∈ cs) ∧ skipRemarks inComment cs = [] ∧
        ∀ u ∈ tails, skipRemarks inComment (cs ++ u) = [] := by
  induction cs generalizing inComment with
  | nil =>
    cases inComment with
    | true =>
      refine .inr ⟨.inl rfl, rfl, fun u hu => ?_⟩
      obtain rfl | rfl := eq_of_mem_tails hu <;> decide
    | false =>
      refine .inl fun u hu => ?_
      obtain rfl | rfl := eq_of_mem_tails hu <;> decide
  | cons c cs ih =>
    simp only [List.cons_append, skipRemarks]
    split_ifs with hcomment hblank hmark
    · exact (ih _).imp_right fun h => ⟨.inl hcomment, h.2⟩
    · exact (ih _).imp_right fun h =>
        ⟨.inr (List.mem_cons_of_mem c (h.1.resolve_left Bool.false_ne_true)), h.2⟩
    · exact (ih _).imp_right fun h => ⟨.inr (by simp [hmark]), h.2⟩
    · exact .inl fun u _ => rfl

theorem skipRemarks_suffix (inComment : Bool) (cs : List Char) :
    skipRemarks inComment cs <:+ cs := by
  induction cs generalizing inComment with
  | nil => exact List.suffix_refl []
  | cons c cs ih =>
    rw [skipRemarks]
    split_ifs
    · exact (ih _).trans (List.suffix_cons c cs)
    · exact (ih _).trans (List.suffix_cons c cs)
    · exact (ih _).trans (List.suffix_cons c cs)
    · exact List.suffix_refl _

theorem dropWhile_isBlank_append (cs : List Char) {u : List Char} (hu : u ∈ tails) :
    (cs ++ u).dropWhile isBlank = cs.dropWhile isBlank ++ u := by
  have hhead : u.dropWhile isBlank = u := by
    obtain ⟨more, rfl⟩ := exists_of_mem_tails hu
    exact List.dropWhile_cons_of_neg (by decide)
  rw [List.dropWhile_append, hhead]
  split_ifs with hempty
  · rw [List.isEmpty_iff.mp hempty, List.nil_append]
  · rfl

theorem Flags.skip_suffix (f : Flags) (cs : List Char) : f.skip cs <:+ cs := by
  unfold skip
  split_ifs
  · exact skipRemarks_suffix false cs
  · exact List.suffix_refl cs

theorem Flags.skip_append (f : Flags) (cs : List Char) :
    (∀ u ∈ tails, f.skip (cs ++ u) = f.skip cs ++ u) ∨
      '#' ∈ cs ∧ f.skip cs = [] ∧ ∀ u ∈ tails, f.skip (cs ++ u) = [] := by
  unfold skip
  cases f.spaced with
  | true =>
    exact (skipRemarks_append false cs).imp_right fun h =>
      ⟨h.1.resolve_left Bool.false_ne_true, h.2⟩
  | false => exact .inl fun u _ => rfl

theorem Flags.skip_nil (f : Flags) : f.skip [] = [] := List.suffix_nil.mp (f.skip_suffix [])

theorem Flags.skip_append_cons {f : Flags} {c : Char} {cs rest : List Char}
    (h : f.skip cs = c :: rest) {u : List Char} (hu : u = [] ∨ u ∈ tails) :
    f.skip (cs ++ u) = c :: (rest ++ u) := by
  rcases hu with rfl | hu
  · rw [List.append_nil, List.append_nil, h]
  · rcases f.skip_append cs with hskip | ⟨-, hnil, -⟩
    · rw [hskip u hu, h, List.cons_append]
    · rw [h] at hnil
      cases hnil

theorem Flags.skip_of_mem_tails (f : Flags) {u : List Char} (hu : u ∈ tails) : f.skip u = u := by
  unfold skip
  obtain rfl | rfl := eq_of_mem_tails hu <;> cases f.spaced <;> decide

namespace StableAt
variable {α : Type} {past : α → List Char → Prop} {R : Reader α} {cs : List Char}

theorem skip (f : Flags) (h : StableAt past R (f.skip cs)) :
    StableAt past (fun cs => R (f.skip cs)) cs := by
  constructor
  · intro a rest hok
    exact (h.suffix a rest hok).trans (f.skip_suffix cs)
  · intro a rest hok
    rcases f.skip_append cs with hskip | ⟨hmark, hnil, hskip⟩
    · rcases h.same a rest hok with hsame | ⟨hmark, hrest, hnone⟩
      · exact .inl fun u hu => by rw [hskip u hu]; exact hsame u hu
      · exact .inr ⟨(f.skip_suffix cs).mem hmark, hrest,
          fun u hu => by rw [hskip u hu]; exact hnone u hu⟩
    · have hrest := h.suffix a rest hok
      rw [hnil] at hrest hok
      obtain rfl := List.suffix_nil.mp hrest
      exact .inr ⟨hmark, rfl, fun u hu => by rw [hskip u hu]; exact hok⟩
  · intro e a rest herror hok
    rcases f.skip_append cs with hskip | ⟨-, hnil, hskip⟩
    · rw [hskip ending ending_mem_tails] at hok
      exact h.fault e a rest herror hok
    · rw [hskip ending ending_mem_tails, ← hnil, herror] at hok
      cases hok

end StableAt

theorem StableAt.trim {α : Type} {past : α → List Char → Prop} {R : Reader α} {cs : List Char}
    (h : StableAt past R (Text.trimStart cs)) :
    StableAt past (fun cs => R (Text.trimStart cs)) cs := by
  refine h.congr (List.dropWhile_suffix _) fun u hu => ?_
  rcases hu with rfl | hu
  · rw [List.append_nil, List.append_nil]
  · rw [Text.trimStart, dropWhile_isBlank_append cs hu]
    rfl

/-- Reading does not depend on what may stand behind the text, and a fault remains a fault. -/
abbrev StrictAt {α : Type} (R : Reader α) (cs : List Char) : Prop :=
  StableAt (fun _ _ => False) R cs

namespace StrictAt
variable {α β : Type} {R : Reader α} {cs : List Char}

theorem stableAt (h : StrictAt R cs) {past : α → List Char → Prop} : StableAt past R cs :=
  h.weaken fun _ _ => False.elim

theorem bind {k : α × List Char → Except SyntaxError (β × List Char)}
    {past : β → List Char → Prop} (h : StrictAt R cs)
    (hk : ∀ a rest, rest <:+ cs → StableAt past (fun rest => k (a, rest)) rest) :
    StableAt past (fun cs => R cs >>= k) cs :=
  StableAt.bind h hk fun _ _ _ _ => False.elim

theorem finish {γ : Type} {g : α → Except SyntaxError γ} {h : γ → β} (hR : StrictAt R cs) :
    StrictAt (fun cs => do
      let (a, rest) ← R cs
      return (h (← g a), rest)) cs :=
  StableAt.finish hR fun _ _ _ => False.elim

end StrictAt

def Stable {α : Type} (past : α → List Char → Prop) (R : Reader α) : Prop :=
  ∀ cs, StableAt past R cs

abbrev Strict {α : Type} (R : Reader α) : Prop := ∀ cs, StrictAt R cs

/-- With more fuel than there are characters, more of it changes nothing. -/
def Settled {β : Type} (R : Nat → List Char → β) : Prop :=
  ∀ n cs, cs.length < n → R (n + 1) cs = R n cs

theorem Settled.eq {β : Type} {R : Nat → List Char → β} (h : Settled R) {n m : Nat} {cs : List Char}
    (hn : cs.length < n) (hm : cs.length < m) : R n cs = R m cs := by
  have hleast : ∀ k, R (cs.length + 1 + k) cs = R (cs.length + 1) cs := by
    intro k
    induction k with
    | zero => rfl
    | succ k ih => rw [← Nat.add_assoc, h _ cs (by omega), ih]
  obtain ⟨k, rfl⟩ := Nat.exists_eq_add_of_le hn
  obtain ⟨l, rfl⟩ := Nat.exists_eq_add_of_le hm
  rw [hleast, hleast]

namespace StableAt
variable {α : Type} {past : α → List Char → Prop} {R : Nat → Reader α}

/-- A reader that is stable with any fuel is so with as much fuel as there are characters. -/
theorem fueled (hR : ∀ n, Stable past (R n)) (hsettled : Settled R) (cs : List Char) :
    StableAt past (fun cs => R (cs.length + 1) cs) cs := by
  refine (hR (cs.length + 3) cs).congr (List.suffix_refl cs) fun u hu => ?_
  have hlength : u.length ≤ 2 := by
    rcases hu with rfl | hu
    · exact Nat.zero_le 2
    · obtain rfl | rfl := eq_of_mem_tails hu <;> decide
  exact hsettled.eq (Nat.lt_succ_self _) (by rw [List.length_append]; omega)

theorem fueled_skip (hR : ∀ n, Stable past (R n)) (hsettled : Settled R) (f : Flags)
    (cs : List Char) : StableAt past (fun cs => R (cs.length + 1) (f.skip cs)) cs := by
  refine ((fueled hR hsettled (f.skip cs)).skip f).congr (List.suffix_refl cs) fun u _ => ?_
  have hlength := (f.skip_suffix (cs ++ u)).length_le
  exact hsettled.eq (Nat.lt_succ_of_le hlength) (Nat.lt_succ_self _)

end StableAt

end PathTiming.Pattern
