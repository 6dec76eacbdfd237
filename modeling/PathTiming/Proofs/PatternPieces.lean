import PathTiming.Proofs.PatternClasses

/-! The pieces of a pattern are read alike with and without a closing parenthesis behind it. Where
one is not complete, and takes in the parenthesis, no more than the anchor is left behind it. -/
namespace PathTiming.Pattern

/-! ### Counted repetitions -/

theorem strict_readDigits (f : Flags) (fuel : Nat) (done : List Char) :
    Strict fun cs => .ok (readDigits f fuel done cs) := by
  induction fuel generalizing done with
  | zero => exact fun cs => .pure done.reverse
  | succ fuel ih =>
    intro cs
    cases cs with
    | nil =>
      exact (StableAt.pure done.reverse).congr_end (List.suffix_refl _) rfl fun _ => rfl
    | cons c cs =>
      by_cases hdigit : c.isDigit
      · exact .cons (.skip f (ih (c :: done) _)) fun cs => by rw [readDigits, if_pos hdigit]
      · refine (StableAt.pure done.reverse).congr (List.suffix_refl _) fun u _ => ?_
        rw [List.cons_append, readDigits, if_neg hdigit]

theorem settled_readDigits (f : Flags) {n : Nat} {cs : List Char} (done : List Char)
    (hn : cs.length ≤ n) : readDigits f (n + 1) done cs = readDigits f n done cs := by
  induction n generalizing done cs with
  | zero =>
    obtain rfl := List.length_eq_zero_iff.mp (Nat.le_zero.mp hn)
    rfl
  | succ n ih =>
    cases cs with
    | nil => rfl
    | cons c cs =>
      have hlength := (f.skip_suffix cs).length_le
      rw [List.length_cons] at hn
      rw [readDigits, readDigits, ih (c :: done) (by omega)]

def boundOf (digits : List Char) : Except SyntaxError (Option Nat) :=
  match Decimal.natural? digits with
  | none => .ok none
  | some n => if n < Nat.pow 2 32 then .ok (some n) else .error .badRepetition

theorem readBound_eq (f : Flags) (cs : List Char) :
    readBound f cs = .ok (readDigits f cs.length [] (Text.trimStart cs)) >>= fun x =>
      (boundOf x.1).map (·, f.skip (Text.trimStart x.2)) := by
  show readBound f cs = (boundOf (readDigits f cs.length [] (Text.trimStart cs)).1).map _
  unfold readBound boundOf
  dsimp only
  cases Decimal.natural? (readDigits f cs.length [] (Text.trimStart cs)).1 with
  | none => rfl
  | some n =>
    dsimp only
    split_ifs <;> rfl

theorem strict_readBound (f : Flags) : Strict (readBound f) := by
  intro cs
  have hdigits : StrictAt (fun cs => .ok (readDigits f cs.length [] (Text.trimStart cs))) cs := by
    have hsettled : Settled fun n cs =>
        (.ok (readDigits f n [] cs) : Except SyntaxError (List Char × List Char)) :=
      fun n cs hn => congrArg Except.ok (settled_readDigits f [] (Nat.le_of_lt hn))
    refine (StableAt.trim (StableAt.fueled (fun n => strict_readDigits f n []) hsettled _)).congr
      (List.suffix_refl _) fun u _ => ?_
    have hlength : (Text.trimStart (cs ++ u)).length ≤ (cs ++ u).length :=
      (List.dropWhile_suffix _).length_le
    rw [← settled_readDigits f [] hlength]
    exact hsettled.eq (Nat.lt_succ_of_le hlength) (Nat.lt_succ_self _)
  exact (StrictAt.bind (k := fun x => (boundOf x.1).map (·, f.skip (Text.trimStart x.2))) hdigits
    fun digits rest _ => .trim (.skip f (.lift (boundOf digits)))).congr (List.suffix_refl _)
    fun u _ => readBound_eq f (cs ++ u)

theorem strict_closeBounds (least : Nat) (most : Option Nat) : Strict (closeBounds least most) := by
  intro cs
  cases most with
  | none => exact (StableAt.error .badRepetition).congr (List.suffix_refl _) fun _ _ => rfl
  | some most =>
    cases cs with
    | nil => exact .nil rfl fun _ _ h => nomatch h
    | cons c cs =>
      by_cases hbrace : c = '\x7d'
      · subst hbrace
        exact .cons (.ite (fun _ => .error .badRepetition) fun _ => .pure (least, some most))
          fun _ => rfl
      · refine (StableAt.error .badRepetition).congr (List.suffix_refl _) fun u _ => ?_
        simp [closeBounds, hbrace]

theorem strict_readUpperBound (f : Flags) (least : Nat) : Strict (readUpperBound f least) := by
  have hmost : Strict fun cs => readBound f cs >>= fun x => closeBounds least x.1 x.2 :=
    fun cs => StrictAt.bind (strict_readBound f cs) fun most rest _ =>
      strict_closeBounds least most rest
  intro cs
  cases cs with
  | nil =>
    exact (hmost []).congr_end (List.suffix_refl _) rfl fun _ => rfl
  | cons c cs =>
    by_cases hbrace : c = '\x7d'
    · subst hbrace
      exact .cons (.pure (least, none)) fun _ => rfl
    · refine (hmost (c :: cs)).congr (List.suffix_refl _) fun u _ => ?_
      simp [readUpperBound, hbrace]

theorem strict_readBoundsEnd (f : Flags) (least : Option Nat) : Strict (readBoundsEnd f least) := by
  intro cs
  cases least with
  | none => exact (StableAt.error .badRepetition).congr (List.suffix_refl _) fun _ _ => rfl
  | some least =>
    cases cs with
    | nil => exact .nil rfl fun _ _ h => nomatch h
    | cons c cs =>
      by_cases hbrace : c = '\x7d'
      · subst hbrace
        exact .cons (.pure (least, some least)) fun _ => rfl
      · by_cases hcomma : c = ','
        · subst hcomma
          exact .cons (.skip f (strict_readUpperBound f least _)) fun _ => rfl
        · refine (StableAt.error .badRepetition).congr (List.suffix_refl _) fun u _ => ?_
          simp [readBoundsEnd, hbrace, hcomma]

theorem strict_readBounds (f : Flags) : Strict (readBounds f) :=
  fun _ => StrictAt.bind (.skip f (strict_readBound f _)) fun least rest _ =>
    strict_readBoundsEnd f least rest

/-- A brace without bounds in it begins no repetition. -/
theorem readBounds_of_skip_eq_ending {f : Flags} {inner : List Char} (h : f.skip inner = ending)
    (outcome : (Nat × Option Nat) × List Char) : readBounds f inner ≠ .ok outcome := by
  have hbound : readBound f ending = .ok (none, ending) := by
    have hskip : f.skip ending = ending := f.skip_of_mem_tails ending_mem_tails
    have htrim : Text.trimStart ending = ending := by decide
    have hdigits : readDigits f ending.length [] ending = ([], ending) := rfl
    rw [readBound_eq, htrim, hdigits]
    show Except.ok (none, f.skip (Text.trimStart ending)) = _
    rw [htrim, hskip]
  intro hok
  obtain ⟨⟨least, rest⟩, hleast, hok⟩ := ok_of_bind hok
  rw [h, hbound] at hleast
  cases hleast
  cases hok

/-! ### Groups -/

theorem strict_readName : Strict readName := by
  intro cs
  have happend : ∀ u, u = [] ∨ u ∈ tails →
      Text.splitOnce ['>'] (cs ++ u) = (Text.splitOnce ['>'] cs).map fun x => (x.1, x.2 ++ u) := by
    intro u hu
    refine splitOnce_append ?_ cs
    rcases hu with rfl | hu
    · exact List.not_mem_nil
    · exact notMem_of_mem_tails hu (by decide)
  cases hsplit : Text.splitOnce ['>'] cs with
  | none =>
    refine (StableAt.error .badGroupName).congr (List.suffix_refl _) fun u hu => ?_
    rw [readName, happend u hu, hsplit]
    rfl
  | some found =>
    obtain ⟨name, rest⟩ := found
    cases name with
    | nil =>
      refine (StableAt.error .badGroupName).congr (List.suffix_refl _) fun u hu => ?_
      rw [readName, happend u hu, hsplit]
      rfl
    | cons c name =>
      refine (StableAt.ite (p := (isNameChar true c && name.all (isNameChar false)) = true)
        (fun _ => .pure (c :: name)) fun _ => .error .badGroupName).congr
        (suffix_of_splitOnce hsplit) fun u hu => ?_
      rw [readName, happend u hu, hsplit]
      rfl

/-- Behind a parenthesis that was taken for something else, no more than the anchor is left. -/
def AnchorLeft {α : Type} (_ : α) (rest : List Char) : Prop := rest <:+ ['$']

theorem stable_readFlags (f : Flags) (seen : List Char) :
    Stable AnchorLeft (readFlags f seen) := by
  intro cs
  induction cs generalizing f seen with
  | nil =>
    refine .nil rfl fun a rest h => ?_
    rw [ending, readFlags, if_pos (.inr rfl)] at h
    split_ifs at h
    cases h
    exact List.suffix_refl _
  | cons c cs ih =>
    suffices h : StableAt AnchorLeft (fun cs => readFlags f seen (c :: cs)) cs from
      .cons h fun _ => rfl
    simp only [readFlags]
    refine .ite (fun _ => .ite (fun _ => .error _) fun _ => .pure _) fun _ => ?_
    refine .ite (fun _ => .error _) fun _ => ?_
    refine .ite (fun _ => ih f (c :: seen)) fun _ => ?_
    cases f.set? c (!seen.contains '-') with
    | none => exact .error .badFlags
    | some f => exact ih f (c :: seen)

namespace State

theorem stable_readExtension (s : State) : Stable AnchorLeft s.readExtension := by
  have hname : Strict fun cs => readName cs >>= fun x => do
      return (← s.openNamed x.1, x.2) :=
    fun cs => StrictAt.finish (h := id) (strict_readName cs)
  have hflags : Stable AnchorLeft fun cs => readFlags s.flags [] cs >>= fun x => do
      return (← s.setFlags x.1.1 x.1.2.1 x.1.2.2, x.2) :=
    fun cs => (stable_readFlags s.flags [] cs).finish (g := fun x => s.setFlags x.1 x.2.1 x.2.2)
      (h := id) fun _ _ _ hrest _ => hrest
  intro cs
  cases cs with
  | nil =>
    exact (hflags []).congr_end (List.suffix_refl _) rfl fun _ => rfl
  | cons c cs =>
    by_cases hlook : c = '=' ∨ c = '!'
    · refine .cons (.error .unsupportedLookAround) fun cs => ?_
      rcases hlook with rfl | rfl <;> rfl
    rw [not_or] at hlook
    by_cases hangle : c = '<'
    · subst hangle
      cases cs with
      | nil =>
        exact (hname []).stableAt.congr_end (List.suffix_cons _ _) rfl fun _ => rfl
      | cons d cs =>
        by_cases hlook' : d = '=' ∨ d = '!'
        · refine (StableAt.error .unsupportedLookAround).congr (List.suffix_refl _) fun u _ => ?_
          rcases hlook' with rfl | rfl <;> rfl
        · rw [not_or] at hlook'
          refine (hname (d :: cs)).stableAt.congr (List.suffix_cons _ _) fun u _ => ?_
          simp [readExtension, hlook']
    by_cases hmark : c = 'P'
    · subst hmark
      cases cs with
      | nil =>
        exact (hflags ['P']).congr_end (List.suffix_refl _) rfl fun _ => rfl
      | cons d cs =>
        by_cases hangle' : d = '<'
        · subst hangle'
          exact (hname cs).stableAt.congr ((List.suffix_cons _ _).trans (List.suffix_cons _ _))
            fun _ _ => rfl
        · refine (hflags ('P' :: d :: cs)).congr (List.suffix_refl _) fun u _ => ?_
          simp [readExtension, hangle']
    · refine (hflags (c :: cs)).congr (List.suffix_refl _) fun u _ => ?_
      simp [readExtension, hlook, hangle, hmark]

theorem stable_beginGroup (s : State) : Stable AnchorLeft s.beginGroup := by
  intro cs
  cases cs with
  | nil =>
    exact (StableAt.pure s.openCapture).congr_end (List.suffix_refl _) rfl fun _ => rfl
  | cons c cs =>
    by_cases hmark : c = '?'
    · subst hmark
      exact .cons (s.stable_readExtension cs) fun _ => rfl
    · refine (StableAt.pure s.openCapture).congr (List.suffix_refl _) fun u _ => ?_
      simp [beginGroup, hmark]

theorem stable_readGroup (s : State) : Stable AnchorLeft s.readGroup :=
  fun cs => .skip s.flags (s.stable_beginGroup (s.flags.skip cs))

theorem strict_readLazy (s : State) (least : Nat) (most : Option Nat) :
    Strict (s.readLazy least most) := by
  intro cs
  have hgreedy : StrictAt (fun cs => (s.repeatLast least most false).map (·, cs)) cs := .lift _
  cases cs with
  | nil =>
    exact hgreedy.congr_end (List.suffix_refl _) rfl fun _ => rfl
  | cons c cs =>
    by_cases hmark : c = '?'
    · subst hmark
      exact .cons (.lift (s.repeatLast least most true)) fun _ => rfl
    · refine hgreedy.congr (List.suffix_refl _) fun u _ => ?_
      simp [readLazy, hmark]

/-! ### Single pieces -/

/-- Characters at which something other than a character begins. -/
def isOperator (c : Char) : Bool :=
  ['(', ')', '|', '[', '?', '*', '+', '\x7b', '\\', '.', '^', '$'].contains c

theorem step_of_not_isOperator {c : Char} (h : isOperator c = false) (s : State) (cs : List Char) :
    s.step c cs = do return (s.push ⟨← atomExpr s.flags (.char c false), 0, true⟩, cs) := by
  unfold step
  split
  all_goals first | rfl | exact absurd h (by decide)

/-- What a piece leaves that was not complete. -/
def StepPast (s : State) (rest : List Char) : Prop :=
  AnchorLeft s rest ∨ ∃ inner, rest = '\x7b' :: inner ∧ s.flags.skip inner = ending

theorem stable_step_class (s : State) : Strict (s.step '[') := by
  intro cs
  refine StableAt.bind (k := fun x =>
    readClass s.flags (x.2.length + 1) [] x.1 x.2 >>= fun y =>
      .ok (s.push ⟨.ofSet y.1.chars, y.1.depth, true⟩, y.2)) (stable_openClass s.flags cs) ?_ ?_
  · intro b rest _
    exact StrictAt.bind (StableAt.fueled (strict_readClass s.flags · [] b)
      (settled_readClass s.flags [] b) rest) fun chars rest _ =>
        .pure (s.push ⟨.ofSet chars.chars, chars.depth, true⟩)
  · intro b r s' rest hr hok
    obtain ⟨outcome, hclass, -⟩ := ok_of_bind hok
    exact readClass_of_unclosable hr outcome hclass

theorem stable_step_escape (s : State) : Stable StepPast (s.step '\\') := by
  intro cs
  refine (stable_readEscape s.flags cs).finish (g := atomExpr s.flags)
    (h := fun expr => s.push ⟨expr, 0, true⟩) ?_
  rintro atom expr rest (hrest | ⟨-, hbrace⟩) _
  · exact .inl hrest
  · exact .inr hbrace

theorem step_brace (s : State) (cs : List Char) :
    s.step '\x7b' cs =
      if s.here.items.isEmpty then .error .nothingToRepeat
      else readBounds s.flags cs >>= fun x => s.readLazy x.1.1 x.1.2 (s.flags.skip x.2) := rfl

theorem strict_step_brace (s : State) : Strict (s.step '\x7b') := by
  intro cs
  simp only [StrictAt, funext s.step_brace]
  refine .ite (fun _ => .error _) fun _ => ?_
  exact StrictAt.bind (strict_readBounds s.flags cs) fun bounds rest _ =>
    .skip s.flags (s.strict_readLazy bounds.1 bounds.2 _)

theorem stable_step (s : State) (c : Char) : Stable StepPast (s.step c) := by
  intro cs
  by_cases hoperator : isOperator c
  · simp only [isOperator, List.contains_eq_mem, List.mem_cons, List.not_mem_nil, or_false,
      decide_eq_true_eq] at hoperator
    obtain rfl | rfl | rfl | rfl | rfl | rfl | rfl | rfl | rfl | rfl | rfl | rfl := hoperator
    · exact (s.stable_readGroup cs).weaken fun _ _ => .inl
    · exact .lift s.closeGroup
    · exact .pure _
    · exact (s.stable_step_class cs).stableAt
    · exact (s.strict_readLazy 0 (some 1) cs).stableAt
    · exact (s.strict_readLazy 0 none cs).stableAt
    · exact (s.strict_readLazy 1 none cs).stableAt
    · exact (s.strict_step_brace cs).stableAt
    · exact s.stable_step_escape cs
    · exact .liftBind (atomExpr s.flags .dot) fun expr => s.push ⟨expr, 0, true⟩
    · exact .pure _
    · exact .pure _
  · refine (StableAt.liftBind (atomExpr s.flags (.char c false)) fun expr =>
      s.push ⟨expr, 0, true⟩).congr (List.suffix_refl _) fun u _ => ?_
    rw [step_of_not_isOperator (by simpa using hoperator)]

end State

end PathTiming.Pattern
