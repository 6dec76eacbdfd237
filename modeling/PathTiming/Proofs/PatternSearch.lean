import PathTiming.Proofs.PatternProgram
import Std.Data.TreeSet.Lemmas

/-! The search for a match is complete: the pairs of a step and a position that are not followed
again lead nowhere, and there is fuel for all others. Whatever a search finds is a match, by the way
that led there. -/
namespace PathTiming.Pattern

def Thread.pair (t : Thread) : Nat × Nat := (t.step, t.position)

namespace Program
variable {p : Program} {text : Array Char}

/-- What is found was reached from one of the threads. -/
theorem reaches_of_follow {fuel : Nat} {stack : List Thread} {seen seen' : Std.TreeSet Nat}
    {slots : Slots} (h : p.follow text fuel stack seen = (some slots, seen')) :
    ∃ t ∈ stack, ∃ n v, p.Reaches text n t v ∧ p.accepts v = true ∧ v.slots = slots := by
  induction fuel generalizing stack seen with
  | zero => simp [follow] at h
  | succ fuel ih =>
    cases stack with
    | nil => simp [follow] at h
    | cons t rest =>
      rw [follow] at h
      split_ifs at h with hseen haccepts
      · obtain ⟨u, hu, hreach⟩ := ih h
        exact ⟨u, List.mem_cons_of_mem t hu, hreach⟩
      · cases h
        exact ⟨t, List.mem_cons_self, 0, t, .here t, haccepts, rfl⟩
      · obtain ⟨u, hu, n, v, hreach, hv⟩ := ih h
        rcases List.mem_append.mp hu with hu | hu
        · exact ⟨t, List.mem_cons_self, n + 1, v, .move hu hreach, hv⟩
        · exact ⟨u, List.mem_cons_of_mem t hu, n, v, hreach, hv⟩

/-! ### Pairs of a step and a position -/

theorem pair_eq_of_pairIndex {t u : Thread} (ht : t.position ≤ text.size)
    (hu : u.position ≤ text.size) (h : pairIndex text t = pairIndex text u) : t.pair = u.pair := by
  have hdecode : ∀ v : Thread, v.position ≤ text.size →
      v.pair = (pairIndex text v / (text.size + 1), pairIndex text v % (text.size + 1)) := by
    intro v hv
    rw [pairIndex, Nat.mul_comm, Nat.mul_add_div (by omega), Nat.div_eq_of_lt (by omega),
      Nat.mul_add_mod, Nat.mod_eq_of_lt (by omega)]
    rfl
  rw [hdecode t ht, hdecode u hu, h]

theorem pairIndex_congr {t u : Thread} (h : t.pair = u.pair) :
    pairIndex text t = pairIndex text u := by
  obtain ⟨hstep, hposition⟩ := Prod.mk.inj h
  rw [pairIndex, pairIndex, hstep, hposition]

theorem accepts_congr {t u : Thread} (h : t.pair = u.pair) : p.accepts t = p.accepts u := by
  obtain ⟨hstep, -⟩ := Prod.mk.inj h
  rw [accepts, accepts, hstep]

/-- Where a thread goes does not depend on what it has noted. -/
theorem map_pair_successors_congr {t u : Thread} (h : t.pair = u.pair) :
    (p.successors text t).map Thread.pair = (p.successors text u).map Thread.pair := by
  obtain ⟨step, position, slots⟩ := t
  obtain ⟨step', position', slots'⟩ := u
  obtain ⟨rfl, rfl⟩ := Prod.mk.inj h
  unfold successors
  dsimp only
  cases p.code[step]? with
  | none => rfl
  | some s =>
    cases s with
    | take chars next =>
      dsimp only
      cases text[position]? with
      | none => rfl
      | some c => dsimp only; split_ifs <;> rfl
    | look condition next =>
      dsimp only
      generalize condition.holds _ _ = holds
      cases holds <;> rfl
    | _ => rfl

theorem successors_bounded (p : Program) (text : Array Char) (t : Thread) :
    (p.successors text t).length ≤ 2 ∧
      ∀ u ∈ p.successors text t, t.position ≤ text.size → u.position ≤ text.size := by
  unfold successors
  cases p.code[t.step]? with
  | none => simp
  | some s =>
    cases s with
    | take chars next =>
      dsimp only
      cases htext : text[t.position]? with
      | none => simp
      | some c =>
        obtain ⟨hlt, -⟩ := Array.getElem?_eq_some_iff.mp htext
        dsimp only
        split_ifs
        · simpa using fun _ => Nat.succ_le_of_lt hlt
        · simp
    | look condition next =>
      dsimp only
      generalize condition.holds _ _ = holds
      cases holds <;> simp
    | _ => simp

theorem successors_of_size_le {t : Thread} (h : p.code.size ≤ t.step) :
    p.successors text t = [] := by
  unfold successors
  rw [Array.getElem?_eq_none h]

/-! ### What has been seen -/

/-- No pair that was seen is the end of a match, and where it leads was seen as well, or is next to
be followed. -/
def Explored (p : Program) (text : Array Char) (seen : Std.TreeSet Nat) (stack : List Thread) :
    Prop :=
  ∀ t : Thread, t.position ≤ text.size → seen.contains (pairIndex text t) = true →
    p.accepts t = false ∧ ∀ u ∈ p.successors text t,
      seen.contains (pairIndex text u) = true ∨ ∃ w ∈ stack, w.pair = u.pair

def unseen (p : Program) (text : Array Char) (seen : Std.TreeSet Nat) : Nat :=
  (List.range (p.pairCount text)).countP fun i => !seen.contains i

section
variable {seen seen' : Std.TreeSet Nat} {stack rest : List Thread} {t : Thread}

theorem contains_insert_iff {i k : Nat} :
    (seen.insert i).contains k = true ↔ k = i ∨ seen.contains k = true := by
  rw [Std.TreeSet.contains_insert, Bool.or_eq_true, beq_iff_eq, Nat.compare_eq_eq, eq_comm]

theorem Explored.pop (h : p.Explored text seen (t :: rest))
    (ht : seen.contains (pairIndex text t) = true) : p.Explored text seen rest := by
  intro u hu hseen
  obtain ⟨haccepts, hsuccessors⟩ := h u hu hseen
  refine ⟨haccepts, fun v hv => ?_⟩
  rcases hsuccessors v hv with hv | ⟨w, hw, hpair⟩
  · exact .inl hv
  · rcases List.mem_cons.mp hw with rfl | hw
    · rw [← pairIndex_congr hpair]
      exact .inl ht
    · exact .inr ⟨w, hw, hpair⟩

theorem Explored.follow (h : p.Explored text seen (t :: rest)) (ht : t.position ≤ text.size)
    (haccepts : p.accepts t = false) :
    p.Explored text (seen.insert (pairIndex text t)) (p.successors text t ++ rest) := by
  intro u hu hseen
  rcases contains_insert_iff.mp hseen with hsame | hseen
  · have hpair := pair_eq_of_pairIndex hu ht hsame
    refine ⟨(accepts_congr hpair).trans haccepts, fun v hv => .inr ?_⟩
    have hmem : v.pair ∈ (p.successors text t).map Thread.pair := by
      rw [← map_pair_successors_congr hpair]
      exact List.mem_map_of_mem hv
    obtain ⟨w, hw, hpair⟩ := List.mem_map.mp hmem
    exact ⟨w, List.mem_append_left rest hw, hpair⟩
  · obtain ⟨haccepts, hsuccessors⟩ := h u hu hseen
    refine ⟨haccepts, fun v hv => ?_⟩
    rcases hsuccessors v hv with hv | ⟨w, hw, hpair⟩
    · exact .inl (contains_insert_iff.mpr (.inr hv))
    · rcases List.mem_cons.mp hw with rfl | hw
      · exact .inl (contains_insert_iff.mpr (.inl (pairIndex_congr hpair.symm)))
      · exact .inr ⟨w, List.mem_append_right _ hw, hpair⟩

/-- Following a thread uses up a pair for the threads that it adds. -/
theorem unseen_insert (ht : t.position ≤ text.size)
    (hseen : seen.contains (pairIndex text t) = false) :
    (p.successors text t).length + 2 * p.unseen text (seen.insert (pairIndex text t)) ≤
      2 * p.unseen text seen := by
  have hfewer : ∀ l : List Nat, l.countP (fun i => !(seen.insert (pairIndex text t)).contains i) ≤
      l.countP fun i => !seen.contains i := by
    intro l
    apply List.countP_mono_left
    intro i _ hi
    simp only [Bool.not_eq_eq_eq_not, Bool.not_true, Bool.eq_false_iff, ne_eq,
      contains_insert_iff, not_or] at hi ⊢
    exact hi.2
  rcases Nat.lt_or_ge t.step p.code.size with hstep | hstep
  · have hpair : pairIndex text t ∈ List.range (p.pairCount text) := by
      have hnext : (t.step + 1) * (text.size + 1) ≤ p.code.size * (text.size + 1) :=
        Nat.mul_le_mul_right _ hstep
      rw [Nat.succ_mul] at hnext
      rw [List.mem_range, pairIndex, pairCount]
      omega
    obtain ⟨before, after, hsplit⟩ := List.append_of_mem hpair
    have hold : (!seen.contains (pairIndex text t)) = true := by rw [hseen]; rfl
    have hnew : ¬ (!(seen.insert (pairIndex text t)).contains (pairIndex text t)) = true := by
      rw [contains_insert_iff.mpr (.inl rfl)]
      exact Bool.false_ne_true
    have hlt : p.unseen text (seen.insert (pairIndex text t)) < p.unseen text seen := by
      rw [unseen, unseen, hsplit, List.countP_append, List.countP_append,
        List.countP_cons, List.countP_cons, if_neg hnew, if_pos hold]
      have hbefore := hfewer before
      have hafter := hfewer after
      omega
    have htwo := (successors_bounded p text t).1
    omega
  · rw [successors_of_size_le hstep, List.length_nil, Nat.zero_add]
    exact Nat.mul_le_mul_left 2 (hfewer _)

/-- A search without a result has seen all its threads and everything they lead to. -/
theorem explored_of_follow {fuel : Nat} (h : p.follow text fuel stack seen = (none, seen'))
    (hstack : ∀ t ∈ stack, t.position ≤ text.size) (hseen : p.Explored text seen stack)
    (hfuel : stack.length + 2 * p.unseen text seen < fuel) :
    p.Explored text seen' [] ∧ (∀ i, seen.contains i = true → seen'.contains i = true) ∧
      ∀ t ∈ stack, seen'.contains (pairIndex text t) = true := by
  induction fuel generalizing stack seen with
  | zero => omega
  | succ fuel ih =>
    cases stack with
    | nil =>
      cases h
      exact ⟨hseen, fun _ hi => hi, fun t ht => nomatch ht⟩
    | cons t rest =>
      have ht := hstack t List.mem_cons_self
      have hrest : ∀ u ∈ rest, u.position ≤ text.size :=
        fun u hu => hstack u (List.mem_cons_of_mem t hu)
      rw [List.length_cons] at hfuel
      rw [follow] at h
      split_ifs at h with hagain haccepts
      · obtain ⟨hexplored, hkeeps, hall⟩ := ih h hrest (hseen.pop hagain) (by omega)
        exact ⟨hexplored, hkeeps, List.forall_mem_cons.mpr ⟨hkeeps _ hagain, hall⟩⟩
      · cases h
      · have hnew := Bool.eq_false_iff.mpr hagain
        have hfuel' := unseen_insert (p := p) ht hnew
        have hstack' : ∀ u ∈ p.successors text t ++ rest, u.position ≤ text.size := by
          intro u hu
          rcases List.mem_append.mp hu with hu | hu
          · exact (successors_bounded p text t).2 u hu ht
          · exact hrest u hu
        obtain ⟨hexplored, hkeeps, hall⟩ := ih h hstack'
          (hseen.follow ht (Bool.eq_false_iff.mpr haccepts)) (by rw [List.length_append]; omega)
        refine ⟨hexplored, fun i hi => hkeeps i (contains_insert_iff.mpr (.inr hi)), ?_⟩
        refine List.forall_mem_cons.mpr ⟨hkeeps _ (contains_insert_iff.mpr (.inl rfl)), ?_⟩
        exact fun u hu => hall u (List.mem_append_right _ hu)

/-- Nothing that was seen leads to the end of a match. -/
theorem Explored.not_accepts (h : p.Explored text seen []) {n : Nat} {t v : Thread}
    (hreach : p.Reaches text n t v) (ht : t.position ≤ text.size)
    (hseen : seen.contains (pairIndex text t) = true) : p.accepts v = false := by
  induction hreach with
  | here t => exact (h t ht hseen).1
  | move hmove _ ih =>
    refine ih ((successors_bounded p text _).2 _ hmove ht) ?_
    rcases (h _ ht hseen).2 _ hmove with hu | ⟨w, hw, -⟩
    · exact hu
    · cases hw

end

/-! ### The whole search -/

theorem reaches_of_searchFrom {positions : List Nat} {seen : Std.TreeSet Nat} {slots : Slots}
    (h : p.searchFrom text positions seen = some slots) :
    ∃ i ∈ positions, ∃ n v, p.Reaches text n (p.firstThread i) v ∧ p.accepts v = true ∧
      v.slots = slots := by
  induction positions generalizing seen with
  | nil => cases h
  | cons i later ih =>
    rw [searchFrom] at h
    split at h
    · rename_i hfollow
      obtain rfl := Option.some.inj h
      obtain ⟨t, ht, hreach⟩ := reaches_of_follow hfollow
      rw [List.mem_singleton.mp ht] at hreach
      exact ⟨i, List.mem_cons_self, hreach⟩
    · obtain ⟨k, hk, hreach⟩ := ih h
      exact ⟨k, List.mem_cons_of_mem i hk, hreach⟩

theorem not_accepts_of_searchFrom {positions : List Nat} {seen : Std.TreeSet Nat}
    (h : p.searchFrom text positions seen = none) (hseen : p.Explored text seen [])
    (hpositions : ∀ i ∈ positions, i ≤ text.size) {i n : Nat} (hi : i ∈ positions) {v : Thread}
    (hreach : p.Reaches text n (p.firstThread i) v) : p.accepts v = false := by
  induction positions generalizing seen with
  | nil => cases hi
  | cons k later ih =>
    rw [searchFrom] at h
    split at h
    · cases h
    · rename_i seen' hfollow
      have hfirst : p.Explored text seen [p.firstThread k] := by
        intro t ht hcontains
        obtain ⟨haccepts, hsuccessors⟩ := hseen t ht hcontains
        refine ⟨haccepts, fun u hu => .inl ?_⟩
        rcases hsuccessors u hu with hu | ⟨w, hw, -⟩
        · exact hu
        · cases hw
      have hcount : p.unseen text seen ≤ p.pairCount text := by
        have hlength := List.countP_le_length (p := fun i => !seen.contains i)
          (l := List.range (p.pairCount text))
        rwa [List.length_range] at hlength
      have hk := hpositions k List.mem_cons_self
      obtain ⟨hexplored, -, hall⟩ := explored_of_follow hfollow
        (fun t ht => by rw [List.mem_singleton.mp ht]; exact hk) hfirst
        (by simp only [List.length_singleton]; omega)
      rcases List.mem_cons.mp hi with rfl | hi
      · exact hexplored.not_accepts hreach hk (hall _ (List.mem_singleton_self _))
      · exact ih h hexplored (fun j hj => hpositions j (List.mem_cons_of_mem k hj)) hi

theorem size_slots_of_successor {t u : Thread} (h : u ∈ p.successors text t) :
    u.slots.size = t.slots.size := by
  unfold successors at h
  split at h
  · cases h
  · cases h
  · cases h
  · split at h
    · cases h
    · split_ifs at h
      · rw [List.mem_singleton.mp h]
      · cases h
  · dsimp only at h
    split_ifs at h <;> first | rw [List.mem_singleton.mp h] | cases h
  · rw [List.mem_singleton.mp h, Array.size_setIfInBounds]
  · rcases List.mem_pair.mp h with rfl | rfl <;> rfl

theorem Reaches.size_slots {n : Nat} {t v : Thread} (h : p.Reaches text n t v) :
    v.slots.size = t.slots.size := by
  induction h with
  | here => rfl
  | move hmove _ ih => exact ih.trans (size_slots_of_successor hmove)

/-- A match has the slots that the program asks for. -/
theorem size_of_search {slots : Slots} (h : p.search text = some slots) :
    slots.size = p.slotCount := by
  obtain ⟨i, -, n, v, hreach, -, rfl⟩ := reaches_of_searchFrom h
  rw [hreach.size_slots, firstThread, Array.size_replicate]

/-- A search finds a match of the expression with both its ends, if there is one. -/
theorem search_ofExpr {e : Expr} (h : 0 ∉ e.groups) (text : Array Char) :
    (∀ slots, (ofExpr e).search text = some slots → ∃ i ≤ text.size, ∃ j, e.Matches text i j ∧
      slots[0]? = some (some i) ∧ slots[1]? = some (some j)) ∧
    ((ofExpr e).search text = none → ∀ i ≤ text.size, ∀ j, ¬ e.Matches text i j) := by
  constructor
  · intro slots hslots
    obtain ⟨i, hi, n, v, hreach, hv, rfl⟩ := reaches_of_searchFrom hslots
    rw [List.mem_range] at hi
    exact ⟨i, by omega, v.position, (reaches_ofExpr h).2 n v hreach hv⟩
  · intro hnone i hi j hmatch
    obtain ⟨n, v, hreach, hv⟩ := (reaches_ofExpr h).1 j hmatch
    have hempty : (ofExpr e).Explored text ∅ [] := by
      intro t _ hcontains
      simp at hcontains
    have hrefused := not_accepts_of_searchFrom hnone hempty
      (fun k hk => by rw [List.mem_range] at hk; omega) (List.mem_range.mpr (by omega)) hreach
    rw [hv] at hrefused
    cases hrefused

end Program

end PathTiming.Pattern
