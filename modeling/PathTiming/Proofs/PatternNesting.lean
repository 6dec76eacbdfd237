import PathTiming.Proofs.PatternPieces
import PathTiming.Proofs.PatternLanguage

/-! A pattern inside of other groups. It is read there as it is by itself, up to a parenthesis that
closes a group which the pattern did not open. -/
namespace PathTiming.Pattern

theorem bind_eq_map_bind {ε α β γ : Type} {x : Except ε α} {f : α → Except ε β}
    {f' : α → Except ε γ} {g : β → γ} (h : ∀ a, f' a = (f a).map g) :
    (x >>= f') = (x >>= f).map g := by
  cases x with
  | error e => rfl
  | ok a => exact h a

namespace State
variable {s s' : State} {c : Char} {cs rest : List Char}

/-- The same state, with all groups inside of other ones. -/
def within (s : State) (outer : List OpenGroup) : State := { s with groups := s.groups ++ outer }

@[simp] theorem within_flags (s : State) (outer : List OpenGroup) :
    (s.within outer).flags = s.flags := rfl

@[simp] theorem within_names (s : State) (outer : List OpenGroup) :
    (s.within outer).names = s.names := rfl

@[simp] theorem within_here (s : State) (outer : List OpenGroup) :
    (s.within outer).here = s.here := rfl

@[simp] theorem within_groups (s : State) (outer : List OpenGroup) :
    (s.within outer).groups = s.groups ++ outer := rfl

section
variable (s : State) (outer : List OpenGroup)

theorem readExtension_within (cs : List Char) :
    (s.within outer).readExtension cs =
      (s.readExtension cs).map fun x => (x.1.within outer, x.2) := by
  have hname : ∀ name rest, (do return (← (s.within outer).openNamed name, rest)) =
      (do return (← s.openNamed name, rest) : Except SyntaxError (State × List Char)).map
        fun x => (x.1.within outer, x.2) := by
    intro name rest
    unfold openNamed
    rw [within_names]
    split_ifs <;> rfl
  have hflags : ∀ flags seen stop rest,
      (do return (← (s.within outer).setFlags flags seen stop, rest)) =
      (do return (← s.setFlags flags seen stop, rest) : Except SyntaxError (State × List Char)).map
        fun x => (x.1.within outer, x.2) := by
    intro flags seen stop rest
    unfold setFlags
    split_ifs <;> rfl
  unfold readExtension
  split
  · rfl
  · rfl
  · rfl
  · rfl
  · exact bind_eq_map_bind fun x => hname x.1 x.2
  · exact bind_eq_map_bind fun x => hname x.1 x.2
  · exact bind_eq_map_bind fun x => hflags x.1.1 x.1.2.1 x.1.2.2 x.2

theorem readGroup_within (cs : List Char) :
    (s.within outer).readGroup cs = (s.readGroup cs).map fun x => (x.1.within outer, x.2) := by
  unfold readGroup beginGroup
  rw [within_flags]
  split
  · exact s.readExtension_within outer _
  · rfl

theorem closeGroup_within (h : s.groups ≠ []) :
    (s.within outer).closeGroup = s.closeGroup.map (·.within outer) := by
  unfold closeGroup
  rw [within_groups]
  cases hgroups : s.groups with
  | nil => exact absurd hgroups h
  | cons g groups => rfl

theorem repeatLast_within (least : Nat) (most : Option Nat) (lazy : Bool) :
    (s.within outer).repeatLast least most lazy =
      (s.repeatLast least most lazy).map (·.within outer) := by
  unfold repeatLast
  rw [within_here]
  cases s.here.items with
  | nil => rfl
  | cons last before =>
    dsimp only
    split_ifs <;> rfl

theorem readLazy_within (least : Nat) (most : Option Nat) (cs : List Char) :
    (s.within outer).readLazy least most cs =
      (s.readLazy least most cs).map fun x => (x.1.within outer, x.2) := by
  unfold readLazy
  split <;> rw [repeatLast_within] <;> cases s.repeatLast least most _ <;> rfl

/-- What is read inside of other groups is what is read without them, but for a parenthesis that
closes one of them. -/
theorem step_within {c : Char} (h : c = ')' → s.groups ≠ []) (cs : List Char) :
    (s.within outer).step c cs = (s.step c cs).map fun x => (x.1.within outer, x.2) := by
  have hpush : ∀ x : Except SyntaxError Expr,
      (do return ((s.within outer).push ⟨← x, 0, true⟩, cs)) =
      (do return (s.push ⟨← x, 0, true⟩, cs) : Except SyntaxError (State × List Char)).map
        fun x => (x.1.within outer, x.2) := by
    intro x
    cases x <;> rfl
  unfold step
  split
  · exact s.readGroup_within outer cs
  · rw [closeGroup_within s outer (h rfl)]
    cases s.closeGroup <;> rfl
  · rfl
  · exact bind_eq_map_bind fun x => bind_eq_map_bind fun y => rfl
  · exact s.readLazy_within outer 0 (some 1) cs
  · exact s.readLazy_within outer 0 none cs
  · exact s.readLazy_within outer 1 none cs
  · rw [within_here]
    split_ifs
    · rfl
    · exact bind_eq_map_bind fun x => s.readLazy_within outer x.1.1 x.1.2 _
  · exact bind_eq_map_bind fun x => bind_eq_map_bind fun y => rfl
  · exact hpush _
  · rfl
  · rfl
  · exact hpush _

end

theorem step_unopened {s : State} (h : s.groups = []) (cs : List Char) :
    s.step ')' cs = .error .unopenedGroup := by
  show s.closeGroup.map (·, cs) = _
  rw [closeGroup, h]
  rfl

/-- A step that is not at fault for that closes no group but one of the pattern. -/
theorem closes_own {s : State} {c : Char} {cs : List Char}
    {outcome : Except SyntaxError (State × List Char)} (hstep : s.step c cs = outcome)
    (h : outcome ≠ .error .unopenedGroup) : c = ')' → s.groups ≠ [] := by
  rintro rfl hgroups
  rw [step_unopened hgroups] at hstep
  exact h hstep.symm

theorem step_within_eq_ok {s s' : State} {c : Char} {cs rest : List Char}
    (h : c = ')' → s.groups ≠ []) (hstep : s.step c cs = .ok (s', rest)) (outer : List OpenGroup) :
    (s.within outer).step c cs = .ok (s'.within outer, rest) := by
  rw [s.step_within outer h, hstep]
  rfl

end State

/-! ### Whole patterns -/

/-- What is read of a pattern piece by piece, up to its end or the first fault. -/
inductive Read : State → List Char → Except SyntaxError State → Prop
  | done {s : State} {cs : List Char} (h : s.flags.skip cs = []) : Read s cs (.ok s)
  | fault {s : State} {c : Char} {cs rest : List Char} {e : SyntaxError}
      (h : s.flags.skip cs = c :: rest) (hstep : s.step c rest = .error e) : Read s cs (.error e)
  | more {s s' : State} {c : Char} {cs rest rest' : List Char} {outcome : Except SyntaxError State}
      (h : s.flags.skip cs = c :: rest) (hstep : s.step c rest = .ok (s', rest'))
      (hread : Read s' rest' outcome) : Read s cs outcome

namespace Read
variable {s s' : State} {c : Char} {cs rest rest' : List Char}
  {outcome outcome' : Except SyntaxError State} {e : SyntaxError}

theorem length_lt (h : s.flags.skip cs = c :: rest) (hstep : s.step c rest = .ok (s', rest')) :
    rest'.length < cs.length := by
  have hskip := (s.flags.skip_suffix cs).length_le
  have hrest := ((s.stable_step c rest).suffix s' rest' hstep).length_le
  rw [h, List.length_cons] at hskip
  omega

theorem of_run {n : Nat} (h : cs.length < n) : Read s cs (State.run n s cs) := by
  induction n generalizing s cs with
  | zero => omega
  | succ n ih =>
    rw [State.run]
    cases hskip : s.flags.skip cs with
    | nil => exact .done hskip
    | cons c rest =>
      dsimp only
      cases hstep : s.step c rest with
      | error e => exact .fault hskip hstep
      | ok next =>
        have hlength := length_lt hskip hstep
        exact .more hskip hstep (ih (by omega))

/-- What is read is told by the next piece. -/
theorem iff_step : Read s cs outcome ↔
    match s.flags.skip cs with
    | [] => outcome = .ok s
    | c :: rest =>
      match s.step c rest with
      | .error e => outcome = .error e
      | .ok (s', rest') => Read s' rest' outcome := by
  constructor
  · intro h
    cases h with
    | done h => rw [h]
    | fault h hstep => simp only [h, hstep]
    | more h hstep hread => simpa only [h, hstep] using hread
  · intro h
    cases hskip : s.flags.skip cs with
    | nil =>
      simp only [hskip] at h
      exact h ▸ .done hskip
    | cons c rest =>
      simp only [hskip] at h
      cases hstep : s.step c rest with
      | error e =>
        simp only [hstep] at h
        exact h ▸ .fault hskip hstep
      | ok next =>
        simp only [hstep] at h
        exact .more hskip hstep h

theorem done_iff (hskip : s.flags.skip cs = []) : Read s cs outcome ↔ outcome = .ok s := by
  rw [iff_step, hskip]

theorem fault_iff (hskip : s.flags.skip cs = c :: rest) (hstep : s.step c rest = .error e) :
    Read s cs outcome ↔ outcome = .error e := by
  simp only [iff_step (s := s), hskip, hstep]

theorem more_iff (hskip : s.flags.skip cs = c :: rest) (hstep : s.step c rest = .ok (s', rest')) :
    Read s cs outcome ↔ Read s' rest' outcome := by
  rw [iff_step]
  simp only [hskip, hstep]

theorem unique (h : Read s cs outcome) (h' : Read s cs outcome') : outcome = outcome' := by
  induction h with
  | done hskip => exact ((done_iff hskip).mp h').symm
  | fault hskip hstep => exact ((fault_iff hskip hstep).mp h').symm
  | more hskip hstep _ ih => exact ih ((more_iff hskip hstep).mp h')

theorem run_eq_iff {n : Nat} (h : cs.length < n) :
    State.run n s cs = outcome ↔ Read s cs outcome := by
  constructor
  · rintro rfl
    exact of_run h
  · exact unique (of_run h)

/-- Only what is left after blanks and comments is read. -/
theorem of_skip_eq (h : Read s cs outcome) {cs' : List Char}
    (hskip : s.flags.skip cs' = s.flags.skip cs) : Read s cs' outcome := by
  cases h with
  | done h => exact .done (hskip.trans h)
  | fault h hstep => exact .fault (hskip.trans h) hstep
  | more h hstep hread => exact .more (hskip.trans h) hstep hread

/-- A pattern that is valid by itself is read inside of other groups as well, unless it ends in a
comment. Then it takes in what should close the innermost of them. -/
theorem append (h : Read s cs (.ok s')) :
    (∀ outer, ∀ u ∈ tails, ∀ outcome, Read (s'.within outer) u outcome →
      Read (s.within outer) (cs ++ u) outcome) ∨
    '#' ∈ cs ∧ ∀ outer, ∀ u ∈ tails, Read (s.within outer) (cs ++ u) (.ok (s'.within outer)) := by
  generalize hout : Except.ok s' = out at h
  induction h with
  | fault => cases hout
  | @done s cs hskip =>
    obtain rfl : s' = s := Except.ok.inj hout
    rcases s'.flags.skip_append cs with happend | ⟨hmark, -, hnone⟩
    · refine .inl fun outer u hu outcome hread => hread.of_skip_eq ?_
      rw [State.within_flags, happend u hu, hskip, s'.flags.skip_of_mem_tails hu, List.nil_append]
    · exact .inr ⟨hmark, fun outer u hu => .done (hnone u hu)⟩
  | @more s s₁ c cs rest rest' out hskip hstep hread ih =>
    have hown := State.closes_own hstep (nofun)
    have hmem : ∀ d, d ∈ rest → d ∈ cs := fun d hd =>
      (s.flags.skip_suffix cs).mem (hskip ▸ List.mem_cons_of_mem c hd)
    have hskip' : ∀ outer, ∀ u ∈ tails, (s.within outer).flags.skip (cs ++ u) = c :: (rest ++ u) :=
      fun outer u hu => Flags.skip_append_cons hskip (.inr hu)
    -- A piece takes in what stands behind the pattern only as a comment, at the end of it.
    rcases (s.stable_step c rest).same s₁ rest' hstep with hsame | ⟨hmark, rfl, hnone⟩
    · rcases ih hout with hleft | ⟨hmark, htaken⟩
      · refine .inl fun outer u hu outcome hu' => ?_
        have hstep' := State.step_within_eq_ok hown (hsame u hu) outer
        exact .more (hskip' outer u hu) hstep' (hleft outer u hu outcome hu')
      · have hrest := (s.stable_step c rest).suffix s₁ rest' hstep
        refine .inr ⟨hmem _ (hrest.mem hmark), fun outer u hu => ?_⟩
        have hstep' := State.step_within_eq_ok hown (hsame u hu) outer
        exact .more (hskip' outer u hu) hstep' (htaken outer u hu)
    · obtain rfl : out = .ok s₁ := (done_iff s₁.flags.skip_nil).mp hread
      obtain rfl : s' = s₁ := Except.ok.inj hout
      refine .inr ⟨hmem _ hmark, fun outer u hu => ?_⟩
      have hstep' := State.step_within_eq_ok hown (hnone u hu) outer
      exact .more (hskip' outer u hu) hstep' (.done s'.flags.skip_nil)

/-- Where no more than the anchor is left, no group is closed. -/
theorem groups_ne_nil (hpast : State.StepPast s rest) (hgroups : s.groups ≠ [])
    (h : Read s rest (.ok s')) : s'.groups ≠ [] := by
  rcases hpast with hleft | ⟨inner, rfl, hinner⟩
  · rcases List.suffix_cons_iff.mp hleft with rfl | hnil
    · have hskip : s.flags.skip ['$'] = ['$'] := by
        unfold Flags.skip
        cases s.flags.spaced <;> decide
      have hstep : s.step '$' [] = .ok (s.push ⟨.look (s.lineLook false), 0, true⟩, []) := rfl
      have hread := (more_iff hskip hstep).mp h
      cases (done_iff (Flags.skip_nil _)).mp hread
      exact hgroups
    · obtain rfl := List.suffix_nil.mp hnil
      cases (done_iff s.flags.skip_nil).mp h
      exact hgroups
  · -- The brace begins a repetition that has no bounds.
    exfalso
    have hskip : s.flags.skip ('\x7b' :: inner) = '\x7b' :: inner := by
      unfold Flags.skip
      cases s.flags.spaced <;> rfl
    cases h with
    | done hskip' => cases hskip.symm.trans hskip'
    | more hskip' hstep' =>
      cases hskip.symm.trans hskip'
      rw [State.step_brace] at hstep'
      split_ifs at hstep'
      obtain ⟨bounds, hbounds, -⟩ := ok_of_bind hstep'
      exact readBounds_of_skip_eq_ending hinner bounds hbounds

/-- A pattern that is at fault by itself leaves a group around it open, unless it closes that group
itself. -/
theorem groups_ne_nil_of_fault (h : Read s cs (.error e)) (he : e ≠ .unopenedGroup)
    {outer : List OpenGroup} (houter : outer ≠ [])
    (hread : Read (s.within outer) (cs ++ ending) (.ok s')) : s'.groups ≠ [] := by
  generalize hout : Except.error e = out at h
  induction h with
  | done => cases hout
  | @fault s c cs rest e' hskip hstep =>
    -- If the piece is read now, it went beyond the parenthesis, which then closes nothing.
    obtain rfl : e = e' := Except.error.inj hout
    have hown := State.closes_own hstep (fun h => he (Except.error.inj h))
    have hskip' : (s.within outer).flags.skip (cs ++ ending) = c :: (rest ++ ending) :=
      Flags.skip_append_cons hskip (.inr ending_mem_tails)
    cases hpast : s.step c (rest ++ ending) with
    | error e' =>
      have hstep' : (s.within outer).step c (rest ++ ending) = .error e' := by
        rw [s.step_within outer hown, hpast]
        rfl
      cases (fault_iff hskip' hstep').mp hread
    | ok next =>
      obtain ⟨s₁, r⟩ := next
      have hstep' := State.step_within_eq_ok hown hpast outer
      refine groups_ne_nil (s := s₁.within outer) ?_ (by simp [houter])
        ((more_iff hskip' hstep').mp hread)
      exact (s.stable_step c rest).fault e s₁ r hstep hpast
  | @more s s₁ c cs rest rest' out hskip hstep hrest ih =>
    have hown := State.closes_own hstep (nofun)
    have hskip' : (s.within outer).flags.skip (cs ++ ending) = c :: (rest ++ ending) :=
      Flags.skip_append_cons hskip (.inr ending_mem_tails)
    rcases (s.stable_step c rest).same s₁ rest' hstep with hsame | ⟨-, rfl, hnone⟩
    · have hstep' := State.step_within_eq_ok hown (hsame _ ending_mem_tails) outer
      exact ih ((more_iff hskip' hstep').mp hread) hout
    · cases hout
      cases (done_iff s₁.flags.skip_nil).mp hrest

end Read
end PathTiming.Pattern
