import Mathlib.Computability.Language
import PathTiming.Pattern.Expr

/-! What regular expressions match, as a relation between two positions of a text. The conditions on
positions see the whole text, so it is part of the relation. -/
namespace PathTiming.Pattern
open scoped Computability

theorem Charset.contains_single_iff {c d : Char} :
    Unicode.RangeTable.contains (.single c) d.toNat = true ↔ d = c := by
  have hempty : ∀ ranges n i, Unicode.RangeTable.search ranges n i i = false := by
    intro ranges n i
    rw [Unicode.RangeTable.search, if_neg (Nat.lt_irrefl i)]
  unfold Unicode.RangeTable.contains Unicode.RangeTable.single
  rw [Unicode.RangeTable.search, ← Char.toNat_inj]
  simp only [List.size_toArray, List.length_cons, List.length_nil, Nat.zero_add, Nat.lt_one_iff,
    if_pos, Nat.reduceDiv, List.getElem?_toArray, List.getElem?_cons_zero, hempty]
  split_ifs with hless hmore <;> simp <;> omega

def Look.HoldsAt (look : Look) (text : Array Char) (i : Nat) : Prop :=
  look.holds (if i = 0 then none else text[i - 1]?) text[i]? = true

theorem Look.holdsAt_textStart {text : Array Char} {i : Nat} (h : i ≤ text.size) :
    textStart.HoldsAt text i ↔ i = 0 := by
  unfold HoldsAt holds
  by_cases hi : i = 0
  · simp [hi]
  · have hbefore : i - 1 < text.size := by omega
    simp [hi, hbefore]

theorem Look.holdsAt_textEnd {text : Array Char} {i : Nat} (h : i ≤ text.size) :
    textEnd.HoldsAt text i ↔ i = text.size := by
  unfold HoldsAt holds
  rw [Option.isNone_iff_eq_none, Array.getElem?_eq_none_iff]
  omega

/-- A number of rounds, one after another, leads from one position to another. -/
inductive Rounds (round : Nat → Nat → Prop) : Nat → Nat → Nat → Prop
  | none (i : Nat) : Rounds round 0 i i
  | more {n i k j : Nat} : round i k → Rounds round n k j → Rounds round (n + 1) i j

namespace Rounds
variable {round : Nat → Nat → Prop} {n m i j k : Nat}

theorem zero_iff : Rounds round 0 i j ↔ i = j := by
  constructor
  · rintro ⟨⟩
    rfl
  · rintro rfl
    exact .none i

theorem succ_iff : Rounds round (n + 1) i j ↔ ∃ k, round i k ∧ Rounds round n k j := by
  constructor
  · rintro ⟨⟩
    exact ⟨_, ‹_›, ‹_›⟩
  · rintro ⟨k, hround, hrest⟩
    exact .more hround hrest

theorem add_iff : Rounds round (n + m) i j ↔ ∃ k, Rounds round n i k ∧ Rounds round m k j := by
  induction n generalizing i with
  | zero => simp [zero_iff]
  | succ n ih =>
    rw [Nat.add_right_comm, succ_iff]
    simp only [succ_iff, ih]
    constructor
    · rintro ⟨l, hround, k, hfirst, hrest⟩
      exact ⟨k, ⟨l, hround, hfirst⟩, hrest⟩
    · rintro ⟨k, ⟨l, hround, hfirst⟩, hrest⟩
      exact ⟨l, hround, k, hfirst, hrest⟩

theorem exists_iff : (∃ n, Rounds round n i j) ↔ (∃ n, Rounds round (n + 1) i j) ∨ i = j := by
  rw [← Nat.or_exists_add_one, zero_iff, or_comm]

/-- What each round keeps, all of them keep. -/
theorem keeps {P : Nat → Prop} (h : Rounds round n i j)
    (hround : ∀ i j, round i j → P i → P j) (hi : P i) : P j := by
  induction h with
  | none => exact hi
  | more hfirst _ ih => exact ih (hround _ _ hfirst hi)

end Rounds

namespace Expr

/-- The expression matches the text between two positions. A bounded repetition takes at least
`least` rounds, and behind them as many as remain up to `most`. -/
def Matches (text : Array Char) : Expr → Nat → Nat → Prop
  | empty, i, j => i = j
  | literal cs, i, j => cs <+: text.toList.drop i ∧ j = i + cs.length
  | set chars, i, j => ∃ c, text[i]? = some c ∧ chars.contains c.toNat = true ∧ j = i + 1
  | look condition, i, j => condition.HoldsAt text i ∧ i = j
  | seq a b, i, j => ∃ k, a.Matches text i k ∧ b.Matches text k j
  | alt a b, i, j => a.Matches text i j ∨ b.Matches text i j
  | group _ a, i, j => a.Matches text i j
  | repeated a least none _, i, j => ∃ n, Rounds (a.Matches text) (least + n) i j
  | repeated a least (some most) _, i, j =>
    ∃ n ≤ most - least, Rounds (a.Matches text) (least + n) i j

/-- Expressions match the text between two positions one after another. -/
def MatchesAll (text : Array Char) : List Expr → Nat → Nat → Prop
  | [], i, j => i = j
  | e :: es, i, j => ∃ k, e.Matches text i k ∧ MatchesAll text es k j

variable {text : Array Char} {i j : Nat}

theorem cons_prefix_drop_iff {α : Type} {c : α} {cs l : List α} {i : Nat} :
    c :: cs <+: l.drop i ↔ l[i]? = some c ∧ cs <+: l.drop (i + 1) := by
  rcases Nat.lt_or_ge i l.length with hi | hi
  · rw [List.drop_eq_getElem_cons hi, List.cons_prefix_cons, List.getElem?_eq_getElem hi,
      Option.some_inj, eq_comm]
  · rw [List.drop_eq_nil_of_le hi, List.getElem?_eq_none hi]
    simp

theorem matches_literal_cons {c : Char} {cs : List Char} :
    (literal (c :: cs)).Matches text i j ↔
      text[i]? = some c ∧ (literal cs).Matches text (i + 1) j := by
  simp only [Matches, cons_prefix_drop_iff, Array.getElem?_toList, List.length_cons, and_assoc]
  rw [Nat.add_right_comm, Nat.add_assoc]

theorem matches_literal_append {s t : List Char} :
    (literal (s ++ t)).Matches text i j ↔
      ∃ k, (literal s).Matches text i k ∧ (literal t).Matches text k j := by
  induction s generalizing i with
  | nil => simp [Matches]
  | cons c s ih =>
    rw [List.cons_append, matches_literal_cons, ih]
    simp only [matches_literal_cons, and_assoc, exists_and_left]

theorem matchesAll_append {es fs : List Expr} :
    MatchesAll text (es ++ fs) i j ↔ ∃ k, MatchesAll text es i k ∧ MatchesAll text fs k j := by
  induction es generalizing i with
  | nil => simp [MatchesAll]
  | cons e es ih =>
    simp only [List.cons_append, MatchesAll, ih]
    constructor
    · rintro ⟨l, he, k, hes, hfs⟩
      exact ⟨k, ⟨l, he, hes⟩, hfs⟩
    · rintro ⟨k, ⟨l, he, hes⟩, hfs⟩
      exact ⟨l, he, k, hes, hfs⟩

theorem matchesAll_singleton {e : Expr} : MatchesAll text [e] i j ↔ e.Matches text i j := by
  simp [MatchesAll]

theorem matchesAll_parts (e : Expr) : MatchesAll text e.parts i j ↔ e.Matches text i j := by
  induction e generalizing i j with
  | empty => exact Iff.rfl
  | seq a b iha ihb =>
    rw [parts, matchesAll_append]
    exact exists_congr fun k => and_congr iha ihb
  | _ => exact matchesAll_singleton

theorem matchesAll_flatMap_parts (es : List Expr) :
    MatchesAll text (es.flatMap parts) i j ↔ MatchesAll text es i j := by
  induction es generalizing i with
  | nil => exact Iff.rfl
  | cons e es ih =>
    rw [List.flatMap_cons, matchesAll_append]
    exact exists_congr fun k => and_congr (matchesAll_parts e) ih

theorem matchesAll_joinLiterals (es : List Expr) :
    MatchesAll text (joinLiterals es) i j ↔ MatchesAll text es i j := by
  induction es generalizing i with
  | nil => exact Iff.rfl
  | cons e es ih =>
    have hcons : MatchesAll text (e :: joinLiterals es) i j ↔ MatchesAll text (e :: es) i j :=
      exists_congr fun k => and_congr_right fun _ => ih
    cases e with
    | literal s =>
      rw [joinLiterals]
      split
      · rename_i t more hjoin
        rw [← hcons, hjoin]
        simp only [MatchesAll, matches_literal_append]
        constructor
        · rintro ⟨l, ⟨k, hs, ht⟩, hmore⟩
          exact ⟨k, hs, l, ht, hmore⟩
        · rintro ⟨k, hs, l, ht, hmore⟩
          exact ⟨l, ⟨k, hs, ht⟩, hmore⟩
      · exact hcons
    | _ => exact hcons

theorem matches_chain (es : List Expr) :
    (chain es).Matches text i j ↔ MatchesAll text es i j := by
  induction es generalizing i with
  | nil => exact Iff.rfl
  | cons e es ih =>
    cases es with
    | nil => exact matchesAll_singleton.symm
    | cons e' es =>
      exact exists_congr fun k => and_congr_right fun _ => ih

theorem matches_concat (es : List Expr) :
    (concat es).Matches text i j ↔ MatchesAll text es i j := by
  rw [concat, matches_chain, matchesAll_joinLiterals, matchesAll_flatMap_parts]

/-- A match that starts in the text stops in it. -/
theorem Matches.le_size {e : Expr} (h : e.Matches text i j) (hi : i ≤ text.size) :
    j ≤ text.size := by
  induction e generalizing i j with
  | empty =>
    cases h
    exact hi
  | literal cs =>
    obtain ⟨hspelled, rfl⟩ := h
    have hlength : cs.length ≤ text.size - i := by
      simpa using hspelled.length_le
    omega
  | set chars =>
    obtain ⟨c, hc, -, rfl⟩ := h
    obtain ⟨hlt, -⟩ := Array.getElem?_eq_some_iff.mp hc
    omega
  | look condition =>
    obtain ⟨-, rfl⟩ := h
    exact hi
  | seq a b iha ihb =>
    obtain ⟨k, ha, hb⟩ := h
    exact ihb hb (iha ha hi)
  | alt a b iha ihb =>
    cases h with
    | inl ha => exact iha ha hi
    | inr hb => exact ihb hb hi
  | group index a iha => exact iha h hi
  | repeated a least most greedy iha =>
    have hkeeps : ∀ n, Rounds (a.Matches text) n i j → j ≤ text.size := by
      intro n hrounds
      exact hrounds.keeps (P := fun k => k ≤ text.size) (fun _ _ => iha) hi
    cases most with
    | none =>
      obtain ⟨n, hrounds⟩ := h
      exact hkeeps _ hrounds
    | some most =>
      obtain ⟨n, -, hrounds⟩ := h
      exact hkeeps _ hrounds

def anchored (e : Expr) : Expr := concat [look .textStart, e, look .textEnd]

theorem matches_anchored_iff {e : Expr} (hi : i ≤ text.size) :
    e.anchored.Matches text i j ↔ i = 0 ∧ j = text.size ∧ e.Matches text 0 text.size := by
  rw [anchored, matches_concat]
  constructor
  · rintro ⟨_, ⟨hstart, rfl⟩, k, he, _, ⟨hend, rfl⟩, rfl⟩
    obtain rfl := (Look.holdsAt_textStart hi).mp hstart
    obtain rfl := (Look.holdsAt_textEnd (he.le_size hi)).mp hend
    exact ⟨rfl, rfl, he⟩
  · rintro ⟨rfl, rfl, he⟩
    exact ⟨0, ⟨(Look.holdsAt_textStart hi).mpr rfl, rfl⟩, _, he, _,
      ⟨(Look.holdsAt_textEnd (Nat.le_refl _)).mpr rfl, rfl⟩, rfl⟩

/-! ### Groups -/

def groups : Expr → List Nat
  | empty | literal _ | set _ | look _ => []
  | seq a b | alt a b => a.groups ++ b.groups
  | group index a => index :: a.groups
  | repeated a _ _ _ => a.groups

@[simp] theorem groups_ofSet (s : Charset) : (ofSet s).groups = [] := by
  unfold ofSet
  split <;> rfl

theorem groups_times_subset (a : Expr) (least : Nat) (most : Option Nat) (greedy : Bool) :
    (a.times least most greedy).groups ⊆ a.groups := by
  unfold times
  generalize (if a.onlyEmpty then _ else (least, most)) = bounds
  dsimp only
  split_ifs
  · exact List.nil_subset _
  · exact List.Subset.refl _
  · exact List.Subset.refl _

theorem flatMap_groups_parts (e : Expr) : e.parts.flatMap groups = e.groups := by
  induction e with
  | seq a b iha ihb => rw [parts, List.flatMap_append, iha, ihb, groups]
  | empty => rfl
  | _ => simp [parts, groups]

theorem flatMap_groups_joinLiterals (es : List Expr) :
    (joinLiterals es).flatMap groups = es.flatMap groups := by
  induction es with
  | nil => rfl
  | cons e es ih =>
    cases e with
    | literal s =>
      rw [joinLiterals, List.flatMap_cons, ← ih]
      split
      · rename_i hjoin
        rw [hjoin, List.flatMap_cons, List.flatMap_cons]
        rfl
      · rfl
    | _ =>
      simp [joinLiterals, ih]

theorem groups_chain (es : List Expr) : (chain es).groups = es.flatMap groups := by
  induction es with
  | nil => rfl
  | cons e es ih =>
    cases es with
    | nil => simp [chain]
    | cons e' es => simp [chain, groups, ih]

@[simp] theorem groups_concat (es : List Expr) : (concat es).groups = es.flatMap groups := by
  rw [concat, groups_chain, flatMap_groups_joinLiterals, List.flatMap_assoc]
  simp only [flatMap_groups_parts]

theorem groups_choice (es : List Expr) : (choice es).groups = es.flatMap groups := by
  induction es with
  | nil => rfl
  | cons e es ih =>
    cases es with
    | nil => simp [choice]
    | cons e' es => simp [choice, groups, ih]

theorem flatMap_groups_branches (e : Expr) : e.branches.flatMap groups = e.groups := by
  induction e with
  | alt a b iha ihb => rw [branches, List.flatMap_append, iha, ihb, groups]
  | _ => simp [branches, groups]

theorem commonPrefix_subset (as bs : List Expr) : commonPrefix as bs ⊆ as := by
  induction as generalizing bs with
  | nil =>
    unfold commonPrefix
    simp
  | cons a as ih =>
    cases bs with
    | nil => simp [commonPrefix]
    | cons b bs =>
      rw [commonPrefix]
      split
      · exact List.cons_subset_cons a (ih bs)
      · exact List.nil_subset _

/-- What all alternatives share is a part of the first one. -/
theorem sharedParts_subset (e : Expr) (es : List Expr) : sharedParts (e :: es) ⊆ e.parts := by
  have hfold : ∀ (rest : List Expr) (shared : List Expr),
      rest.foldl (fun shared e => commonPrefix shared e.parts) shared ⊆ shared := by
    intro rest
    induction rest with
    | nil => exact fun shared => List.Subset.refl shared
    | cons e rest ih =>
      intro shared
      exact List.Subset.trans (ih _) (commonPrefix_subset shared e.parts)
  rw [sharedParts]
  split
  · exact hfold es e.parts
  · exact List.nil_subset _

theorem groups_alternatives_subset (fuel : Nat) (es : List Expr) :
    (alternatives fuel es).groups ⊆ es.flatMap groups := by
  induction fuel generalizing es with
  | zero =>
    rw [alternatives, groups_choice]
    exact List.Subset.refl _
  | succ fuel ih =>
    have hbranches : (es.flatMap branches).flatMap groups = es.flatMap groups := by
      rw [List.flatMap_assoc]
      simp only [flatMap_groups_branches]
    rw [alternatives, ← hbranches]
    dsimp only
    generalize es.flatMap branches = es
    split
    · rw [groups_choice]
      exact List.Subset.refl _
    · split
      · simp
      · split
        · rw [groups_choice]
          exact List.Subset.refl _
        · have hparts : ∀ e ∈ es, ∀ f ∈ e.parts, f.groups ⊆ es.flatMap groups := by
            intro e he f hf index hindex
            have hmem : index ∈ e.groups := by
              rw [← flatMap_groups_parts]
              exact List.mem_flatMap.mpr ⟨f, hf, hindex⟩
            exact List.mem_flatMap.mpr ⟨e, he, hmem⟩
          rw [groups_concat, List.flatMap_append]
          apply List.append_subset.mpr
          constructor
          · intro index hindex
            obtain ⟨f, hf, hgroup⟩ := List.mem_flatMap.mp hindex
            cases es with
            | nil => simp [sharedParts] at hf
            | cons e es => exact hparts e List.mem_cons_self f (sharedParts_subset e es hf) hgroup
          · rw [List.flatMap_singleton]
            refine List.Subset.trans (ih _) ?_
            intro index hindex
            obtain ⟨f, hf, hindex⟩ := List.mem_flatMap.mp hindex
            obtain ⟨e, he, rfl⟩ := List.mem_map.mp hf
            rw [groups_concat] at hindex
            obtain ⟨f, hf, hindex⟩ := List.mem_flatMap.mp hindex
            exact hparts e he f (List.mem_of_mem_drop hf) hindex

theorem groups_firstOf_subset (es : List Expr) : (firstOf es).groups ⊆ es.flatMap groups :=
  groups_alternatives_subset _ es

end Expr

/-! ### Languages -/

/-- Wherever it starts, the relation between positions spans just the texts of a language. -/
def Spells (span : Array Char → Nat → Nat → Prop) (L : Language Char) : Prop :=
  ∀ before after : List Char, ∀ j, span (before ++ after).toArray before.length j ↔
    ∃ w ∈ L, w <+: after ∧ j = before.length + w.length

namespace Spells
variable {R S : Array Char → Nat → Nat → Prop} {L M : Language Char}

theorem nil : Spells (fun _ i j => i = j) 1 := by
  intro before after j
  simp [Language.mem_one, eq_comm]

theorem comp (hR : Spells R L) (hS : Spells S M) :
    Spells (fun text i j => ∃ k, R text i k ∧ S text k j) (L * M) := by
  intro before after j
  constructor
  · rintro ⟨k, hfirst, hrest⟩
    obtain ⟨u, hu, ⟨rest, rfl⟩, rfl⟩ := (hR before after k).mp hfirst
    rw [← List.append_assoc, ← List.length_append] at hrest
    obtain ⟨v, hv, hprefix, rfl⟩ := (hS (before ++ u) rest j).mp hrest
    exact ⟨u ++ v, Language.append_mem_mul hu hv, (List.prefix_append_right_inj u).mpr hprefix,
      by simp [Nat.add_assoc]⟩
  · rintro ⟨w, hw, ⟨rest, rfl⟩, rfl⟩
    obtain ⟨u, hu, v, hv, rfl⟩ := Language.mem_mul.mp hw
    have hfirst := (hR before (u ++ v ++ rest) (before.length + u.length)).mpr
      ⟨u, hu, ⟨v ++ rest, (List.append_assoc u v rest).symm⟩, rfl⟩
    have hrest := (hS (before ++ u) (v ++ rest) (before.length + (u ++ v).length)).mpr
      ⟨v, hv, ⟨rest, rfl⟩, by simp [Nat.add_assoc]⟩
    refine ⟨before.length + u.length, hfirst, ?_⟩
    simpa using hrest

theorem rounds (hR : Spells R L) (n : Nat) :
    Spells (fun text i j => Rounds (R text) n i j) (L ^ n) := by
  induction n with
  | zero =>
    simp only [Rounds.zero_iff, pow_zero]
    exact nil
  | succ n ih =>
    simp only [Rounds.succ_iff, pow_succ']
    exact hR.comp ih

end Spells

def Charset.letters (s : Charset) : Language Char :=
  {w | ∃ c, s.contains c.toNat = true ∧ w = [c]}

theorem Charset.mem_letters_runs_iff {s : Charset} {w : List Char} :
    w ∈ s.letters ^ 1 * s.letters∗ ↔ w ≠ [] ∧ ∀ c ∈ w, s.contains c.toNat = true := by
  rw [pow_one]
  constructor
  · intro hmem
    obtain ⟨first, ⟨c, hc, rfl⟩, rest, hrest, rfl⟩ := Language.mem_mul.mp hmem
    obtain ⟨ws, rfl, hws⟩ := Language.mem_kstar.mp hrest
    refine ⟨List.cons_ne_nil c _, List.forall_mem_cons.mpr ⟨hc, ?_⟩⟩
    intro d hd
    obtain ⟨w, hw, hdw⟩ := List.mem_flatten.mp hd
    obtain ⟨e, he, rfl⟩ := hws w hw
    rwa [List.mem_singleton.mp hdw]
  · rintro ⟨hne, hall⟩
    obtain ⟨c, cs, rfl⟩ := List.exists_cons_of_ne_nil hne
    rw [List.forall_mem_cons] at hall
    refine Language.mem_mul.mpr ⟨[c], ⟨c, hall.1, rfl⟩, cs, ?_, rfl⟩
    refine Language.mem_kstar.mpr ⟨cs.map ([·]), (List.flatMap_singleton' cs).symm, ?_⟩
    intro w hw
    obtain ⟨d, hd, rfl⟩ := List.mem_map.mp hw
    exact ⟨d, hall.2 d hd, rfl⟩

namespace Expr
variable {a b : Expr} {L M : Language Char}

theorem spells_literal (cs : List Char) : Spells (fun text => (literal cs).Matches text) {cs} := by
  intro before after j
  have hdrop : (before ++ after).toArray.toList.drop before.length = after := List.drop_left
  show (cs <+: _ ∧ j = before.length + cs.length) ↔ _
  rw [hdrop]
  constructor
  · intro hspan
    exact ⟨cs, rfl, hspan⟩
  · rintro ⟨w, hw, hspan⟩
    obtain rfl : w = cs := hw
    exact hspan

theorem spells_set (s : Charset) : Spells (fun text => (set s).Matches text) s.letters := by
  intro before after j
  have hnext : (before ++ after).toArray[before.length]? = after.head? := by
    simp [List.head?_eq_getElem?, List.getElem?_append_right]
  show (∃ c, (before ++ after).toArray[before.length]? = some c ∧ _) ↔ _
  rw [hnext]
  constructor
  · rintro ⟨c, hc, hmem, rfl⟩
    obtain ⟨rest, rfl⟩ := List.head?_eq_some_iff.mp hc
    exact ⟨[c], ⟨c, hmem, rfl⟩, ⟨rest, rfl⟩, rfl⟩
  · rintro ⟨w, ⟨c, hmem, rfl⟩, ⟨rest, rfl⟩, rfl⟩
    exact ⟨c, rfl, hmem, rfl⟩

theorem spells_seq (ha : Spells (fun text => a.Matches text) L)
    (hb : Spells (fun text => b.Matches text) M) :
    Spells (fun text => (seq a b).Matches text) (L * M) := ha.comp hb

theorem spells_group (ha : Spells (fun text => a.Matches text) L) (index : Nat) :
    Spells (fun text => (group index a).Matches text) L := ha

theorem spells_repeated (ha : Spells (fun text => a.Matches text) L) (least : Nat)
    (greedy : Bool) :
    Spells (fun text => (repeated a least none greedy).Matches text) (L ^ least * L∗) := by
  intro before after j
  have hmem : ∀ w, w ∈ L ^ least * L∗ ↔ ∃ n, w ∈ L ^ (least + n) := by
    intro w
    simp only [Language.kstar_eq_iSup_pow, Language.mul_iSup, Language.mem_iSup, pow_add]
  show (∃ n, Rounds _ (least + n) before.length j) ↔ _
  simp only [ha.rounds _ before after j, hmem]
  constructor
  · rintro ⟨n, w, hw, hspan⟩
    exact ⟨w, ⟨n, hw⟩, hspan⟩
  · rintro ⟨w, ⟨n, hw⟩, hspan⟩
    exact ⟨n, w, hw, hspan⟩

theorem spells_optional (ha : Spells (fun text => a.Matches text) L) (greedy : Bool) :
    Spells (fun text => (repeated a 0 (some 1) greedy).Matches text) (1 + L) := by
  intro before after j
  show (∃ n ≤ 1, Rounds _ (0 + n) before.length j) ↔ _
  simp only [ha.rounds _ before after j, Nat.zero_add]
  constructor
  · rintro ⟨n, hn, w, hw, hspan⟩
    refine ⟨w, (Language.mem_add 1 L w).mpr ?_, hspan⟩
    obtain rfl | rfl := Nat.le_one_iff_eq_zero_or_eq_one.mp hn
    · exact .inl hw
    · rw [pow_one] at hw
      exact .inr hw
  · rintro ⟨w, hw, hspan⟩
    cases (Language.mem_add 1 L w).mp hw with
    | inl hempty => exact ⟨0, Nat.zero_le 1, w, hempty, hspan⟩
    | inr hw =>
      rw [← pow_one L] at hw
      exact ⟨1, Nat.le_refl 1, w, hw, hspan⟩

/-- An expression that spells a language matches all of a text just when the text belongs to it. -/
theorem matches_all_iff {e : Expr} (h : Spells (fun text => e.Matches text) L) (cs : List Char) :
    e.Matches cs.toArray 0 cs.toArray.size ↔ cs ∈ L := by
  have hall := h [] cs cs.length
  simp only [List.nil_append, List.length_nil, Nat.zero_add] at hall
  rw [List.size_toArray, hall]
  constructor
  · rintro ⟨w, hw, hprefix, hlength⟩
    rwa [← hprefix.eq_of_length hlength.symm]
  · intro hcs
    exact ⟨cs, hcs, List.prefix_refl cs, rfl⟩

end Expr

end PathTiming.Pattern
