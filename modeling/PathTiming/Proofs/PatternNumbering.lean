import PathTiming.Proofs.PatternNesting

/-! The numbers of the groups that a pattern opens. None is zero, the number of the whole match. -/
namespace PathTiming.Pattern

def Branches.Numbered (b : Branches) : Prop := ∀ i ∈ b.done ++ b.items, 0 ∉ i.expr.groups

namespace Branches.Numbered
variable {b : Branches}

theorem push (h : b.Numbered) {i : Item} (hi : 0 ∉ i.expr.groups) : (b.push i).Numbered := by
  intro j hj
  simp only [Branches.push, List.mem_append, List.mem_cons] at hj
  rcases hj with hj | rfl | hj
  · exact h j (List.mem_append_left _ hj)
  · exact hi
  · exact h j (List.mem_append_right _ hj)

theorem sequence (h : b.Numbered) : 0 ∉ b.sequence.expr.groups := by
  have hitems : ∀ i ∈ b.items, 0 ∉ i.expr.groups := fun i hi => h i (List.mem_append_right _ hi)
  unfold Branches.sequence
  split
  · exact List.not_mem_nil
  · rename_i i hsingle
    exact hitems i (by simp [hsingle])
  · simpa using hitems

theorem next (h : b.Numbered) : b.next.Numbered := by
  intro i hi
  simp only [Branches.next, List.append_nil, List.mem_cons] at hi
  rcases hi with rfl | hi
  · exact h.sequence
  · exact h i (List.mem_append_left _ hi)

theorem whole (h : b.Numbered) : 0 ∉ b.whole.expr.groups := by
  unfold Branches.whole
  dsimp only
  split
  · exact h.sequence
  · rename_i before hdone
    intro hzero
    obtain ⟨e, he, hzero⟩ := List.mem_flatMap.mp (Expr.groups_firstOf_subset _ hzero)
    simp only [List.mem_map, List.mem_reverse, List.mem_cons] at he
    obtain ⟨i, rfl | hi, rfl⟩ := he
    · exact h.sequence hzero
    · exact h i (List.mem_append_left _ (by simpa [hdone] using hi)) hzero

end Branches.Numbered

namespace State

/-- Groups are numbered from one. -/
structure Numbered (s : State) : Prop where
  next : s.nextIndex ≠ 0
  here : s.here.Numbered
  around : ∀ g ∈ s.groups, g.index ≠ some 0 ∧ g.around.Numbered

/-- What a step does to the groups that are open, and to what was read in the innermost one. -/
inductive Effect (s : State) : State → Prop
  | push (flags : Flags) (i : Item) (hi : i.expr.groups = []) : Effect s ({ s with flags }.push i)
  | nextBranch : Effect s { s with here := s.here.next }
  | openGroup (flags : Flags) : Effect s (s.openGroup none flags)
  | openCapture (names : List (List Char)) : Effect s { s with names }.openCapture
  | closeGroup {s' : State} (h : s.closeGroup = .ok s') : Effect s s'
  | repeatLast {s' : State} {least : Nat} {most : Option Nat} {lazy : Bool}
      (h : s.repeatLast least most lazy = .ok s') : Effect s s'

variable {s s' : State} {cs rest : List Char}

theorem effect_of_readLazy {least : Nat} {most : Option Nat}
    (h : s.readLazy least most cs = .ok (s', rest)) : s.Effect s' := by
  unfold readLazy at h
  split at h
  · obtain ⟨s₁, hs, hpair⟩ := ok_of_map h
    cases hpair
    exact .repeatLast hs
  · obtain ⟨s₁, hs, hpair⟩ := ok_of_map h
    cases hpair
    exact .repeatLast hs

theorem effect_of_readExtension (h : s.readExtension cs = .ok (s', rest)) : s.Effect s' := by
  have hname : ∀ {s₁ : State} {name : List Char}, s.openNamed name = .ok s₁ → s.Effect s₁ := by
    intro s₁ name h
    unfold openNamed at h
    split_ifs at h
    cases h
    exact .openCapture _
  have hflags : ∀ {s₁ : State} {flags seen stop}, s.setFlags flags seen stop = .ok s₁ →
      s.Effect s₁ := by
    intro s₁ flags seen stop h
    unfold setFlags at h
    split_ifs at h
    · cases h
      exact .openGroup flags
    · cases h
      exact .push flags ⟨.empty, 0, false⟩ rfl
  unfold readExtension at h
  split at h
  · cases h
  · cases h
  · cases h
  · cases h
  · obtain ⟨x, -, h⟩ := ok_of_bind h
    obtain ⟨s₁, hs, hpair⟩ := ok_of_bind h
    cases hpair
    exact hname hs
  · obtain ⟨x, -, h⟩ := ok_of_bind h
    obtain ⟨s₁, hs, hpair⟩ := ok_of_bind h
    cases hpair
    exact hname hs
  · obtain ⟨x, -, h⟩ := ok_of_bind h
    obtain ⟨s₁, hs, hpair⟩ := ok_of_bind h
    cases hpair
    exact hflags hs

theorem groups_of_atomExpr {f : Flags} {atom : Atom} {e : Expr} (h : atomExpr f atom = .ok e) :
    e.groups = [] := by
  cases atom with
  | char c byte =>
    obtain ⟨s, -, rfl⟩ := ok_of_map h
    exact Expr.groups_ofSet s
  | set s =>
    cases h
    exact Expr.groups_ofSet s
  | look l =>
    cases h
    rfl
  | dot =>
    obtain ⟨s, -, rfl⟩ := ok_of_map h
    exact Expr.groups_ofSet s

theorem effect_of_step {c : Char} (h : s.step c cs = .ok (s', rest)) : s.Effect s' := by
  have hatom : ∀ {atom : Atom} {rest' : List Char},
      (do return (s.push ⟨← atomExpr s.flags atom, 0, true⟩, rest')) = Except.ok (s', rest) →
      s.Effect s' := by
    intro atom rest' h
    obtain ⟨e, he, hpair⟩ := ok_of_bind h
    cases hpair
    exact .push s.flags _ (groups_of_atomExpr he)
  unfold step at h
  split at h
  · unfold readGroup beginGroup at h
    split at h
    · exact effect_of_readExtension h
    · cases h
      exact .openCapture s.names
  · obtain ⟨s₁, hs, hpair⟩ := ok_of_map h
    cases hpair
    exact .closeGroup hs
  · cases h
    exact .nextBranch
  · obtain ⟨x, -, h⟩ := ok_of_bind h
    obtain ⟨y, -, hpair⟩ := ok_of_bind h
    cases hpair
    exact .push s.flags _ (Expr.groups_ofSet _)
  · exact effect_of_readLazy h
  · exact effect_of_readLazy h
  · exact effect_of_readLazy h
  · split_ifs at h
    obtain ⟨x, -, h⟩ := ok_of_bind h
    exact effect_of_readLazy h
  · obtain ⟨x, -, h⟩ := ok_of_bind h
    exact hatom h
  · exact hatom h
  · cases h
    exact .push s.flags _ rfl
  · cases h
    exact .push s.flags _ rfl
  · exact hatom h

theorem Effect.numbered (heffect : s.Effect s') (h : s.Numbered) : s'.Numbered := by
  have hempty : ({} : Branches).Numbered := fun i hi => absurd hi List.not_mem_nil
  cases heffect with
  | push flags i hi => exact ⟨h.next, h.here.push (by simp [hi]), h.around⟩
  | nextBranch => exact ⟨h.next, h.here.next, h.around⟩
  | openGroup flags =>
    refine ⟨h.next, hempty, fun g hg => ?_⟩
    rcases List.mem_cons.mp hg with rfl | hg
    · exact ⟨nofun, h.here⟩
    · exact h.around g hg
  | openCapture names =>
    refine ⟨Nat.succ_ne_zero _, hempty, fun g hg => ?_⟩
    rcases List.mem_cons.mp hg with rfl | hg
    · exact ⟨fun hzero => h.next (Option.some.inj hzero), h.here⟩
    · exact h.around g hg
  | closeGroup hclose =>
    unfold State.closeGroup at hclose
    split at hclose
    · cases hclose
    · rename_i g groups hgroups
      cases hclose
      obtain ⟨hindex, haround⟩ := h.around g (by simp [hgroups])
      refine ⟨h.next, haround.push ?_, fun g' hg' => h.around g' (by simp [hgroups, hg'])⟩
      cases hnumber : g.index with
      | none => exact h.here.whole
      | some n =>
        have hn : 0 ≠ n := fun hzero => hindex (by rw [hnumber, ← hzero])
        simp only [Expr.groups, List.mem_cons, not_or]
        exact ⟨hn, h.here.whole⟩
  | repeatLast hrepeat =>
    unfold State.repeatLast at hrepeat
    split at hrepeat
    · cases hrepeat
    · rename_i last before hitems
      split_ifs at hrepeat
      cases hrepeat
      refine ⟨h.next, fun i hi => ?_, h.around⟩
      have hitem : ∀ i ∈ s.here.done ++ last :: before, 0 ∉ i.expr.groups := by
        rw [← hitems]
        exact h.here
      rcases List.mem_append.mp hi with hi | hi
      · exact hitem i (List.mem_append_left _ hi)
      rcases List.mem_cons.mp hi with rfl | hi
      · intro hzero
        exact hitem last (by simp) (Expr.groups_times_subset _ _ _ _ hzero)
      · exact hitem i (by simp [hi])

end State

theorem Read.numbered {s s' : State} {cs : List Char} (h : Read s cs (.ok s'))
    (hs : s.Numbered) : s'.Numbered := by
  generalize hout : Except.ok s' = out at h
  induction h with
  | fault => cases hout
  | done =>
    cases hout
    exact hs
  | more _ hstep _ ih => exact ih ((State.effect_of_step hstep).numbered hs) hout

/-- No group of a whole pattern has the number of the match. -/
theorem numbered_of_parseItem {cs : List Char} {item : Item} (h : parseItem cs = .ok item) :
    0 ∉ item.expr.groups := by
  obtain ⟨s, hrun, h⟩ := ok_of_bind h
  split_ifs at h
  cases h
  have hstart : ({} : State).Numbered :=
    ⟨Nat.one_ne_zero, fun i hi => absurd hi List.not_mem_nil,
      fun g hg => absurd hg List.not_mem_nil⟩
  exact (((Read.run_eq_iff (Nat.lt_succ_self _)).mp hrun).numbered hstart).here.whole

end PathTiming.Pattern
