import PathTiming.Proofs.PatternEscapes

/-! Bracketed classes are read alike with and without a closing parenthesis behind the pattern. A
class that is not closed goes on behind it, but no bracket is left there to close it. -/
namespace PathTiming.Pattern
open Unicode (isBlank)

/-- No bracket is left to close a class. -/
def Unclosable {α : Type} (_ : α) (rest : List Char) : Prop := ']' ∉ rest

theorem unclosable_ending : ']' ∉ ending := by decide

theorem strict_readDashes (f : Flags) (fuel : Nat) (b : OpenClass) :
    Strict fun cs => .ok (readDashes f fuel b cs) := by
  induction fuel generalizing b with
  | zero => exact fun cs => .pure b
  | succ fuel ih =>
    have hother : ∀ cs, cs.head? ≠ some '-' → readDashes f (fuel + 1) b cs = (b, cs) := by
      intro cs hcs
      unfold readDashes
      split
      · exact absurd rfl hcs
      · rfl
    intro cs
    cases cs with
    | nil =>
      exact (StableAt.pure b).congr_end (List.suffix_refl _) (congrArg Except.ok (hother _ nofun))
        fun _ => congrArg Except.ok (hother _ fun h => nomatch h)
    | cons c cs =>
      by_cases hdash : c = '-'
      · subst hdash
        exact .cons (.skip f (ih (b.push ⟨.single '-', 0⟩) _)) fun _ => rfl
      · refine (StableAt.pure b).congr (List.suffix_refl _) fun u _ => ?_
        rw [hother]
        simpa using hdash

theorem settled_readDashes (f : Flags) {n : Nat} {cs : List Char} (b : OpenClass)
    (hn : cs.length ≤ n) : readDashes f (n + 1) b cs = readDashes f n b cs := by
  induction n generalizing b cs with
  | zero =>
    obtain rfl := List.length_eq_zero_iff.mp (Nat.le_zero.mp hn)
    rfl
  | succ n ih =>
    cases cs with
    | nil => rfl
    | cons c cs =>
      by_cases hdash : c = '-'
      · subst hdash
        have hlength := (f.skip_suffix cs).length_le
        rw [List.length_cons] at hn
        exact ih _ (by omega)
      · simp [readDashes, hdash]

theorem stable_takeBracket (b : OpenClass) : Stable Unclosable (takeBracket b) := by
  intro cs
  cases cs with
  | nil =>
    refine .nil rfl fun a rest h => ?_
    cases h
    exact unclosable_ending
  | cons c cs => exact (StableAt.pure _).congr (List.suffix_refl _) fun _ _ => rfl

theorem stable_readFirstBracket (f : Flags) (b : OpenClass) :
    Stable Unclosable (readFirstBracket f b) := by
  intro cs
  cases cs with
  | nil =>
    refine .nil rfl fun a rest h => ?_
    cases h
    exact unclosable_ending
  | cons c cs =>
    by_cases hbracket : c = ']'
    · subst hbracket
      cases hitems : b.items.isEmpty with
      | false =>
        refine (StableAt.pure b).congr (List.suffix_refl _) fun u _ => ?_
        simp [readFirstBracket, hitems]
      | true => exact .cons (.skip f (stable_takeBracket b _)) fun cs => if_pos hitems
    · refine (StableAt.pure b).congr (List.suffix_refl _) fun u _ => ?_
      simp [readFirstBracket, hbracket]

theorem stable_openItems (f : Flags) (negated : Bool) :
    Stable Unclosable (openItems f negated) := by
  intro cs
  have hdashes : StrictAt (fun cs => .ok (readDashes f cs.length { negated } cs)) cs := by
    have hsettled : Settled fun n cs =>
        (.ok (readDashes f n { negated } cs) : Except SyntaxError (OpenClass × List Char)) :=
      fun n cs hn => congrArg Except.ok (settled_readDashes f _ (Nat.le_of_lt hn))
    refine (StableAt.fueled (fun n => strict_readDashes f n { negated }) hsettled cs).congr
      (List.suffix_refl _) fun u _ => ?_
    rw [settled_readDashes f _ (Nat.le_refl _)]
  exact (StrictAt.bind (k := fun x => readFirstBracket f x.1 x.2) hdashes
    fun b rest _ => stable_readFirstBracket f b rest).congr (List.suffix_refl _) fun u _ => rfl

theorem stable_openNegation (f : Flags) : Stable Unclosable (openNegation f) := by
  intro cs
  cases cs with
  | nil =>
    exact (stable_openItems f false []).congr_end (List.suffix_refl _) rfl fun _ => rfl
  | cons c cs =>
    by_cases hcaret : c = '^'
    · subst hcaret
      exact .cons (.skip f (stable_openItems f true _)) fun _ => rfl
    · refine (stable_openItems f false (c :: cs)).congr (List.suffix_refl _) fun u _ => ?_
      simp [openNegation, hcaret]

theorem stable_openClass (f : Flags) : Stable Unclosable (openClass f) :=
  fun cs => .skip f (stable_openNegation f (f.skip cs))

theorem splitOnce_append {c : Char} {u : List Char} (hu : c ∉ u) (cs : List Char) :
    Text.splitOnce [c] (cs ++ u) = (Text.splitOnce [c] cs).map fun x => (x.1, x.2 ++ u) := by
  induction cs with
  | nil =>
    induction u with
    | nil => rfl
    | cons d u ih =>
      rw [List.mem_cons, not_or] at hu
      have hnone := ih hu.2
      simp only [List.nil_append] at hnone
      simp [Text.splitOnce, List.isPrefixOf?, hu.1, hnone]
  | cons d cs ih =>
    by_cases hd : c = d
    · simp [Text.splitOnce, List.isPrefixOf?, hd]
    · simp only [List.cons_append, Text.splitOnce, List.isPrefixOf?, beq_iff_eq, hd, if_false, ih]
      cases Text.splitOnce [c] cs <;> rfl

theorem suffix_of_splitOnce {c : Char} {cs before after : List Char}
    (h : Text.splitOnce [c] cs = some (before, after)) : after <:+ cs := by
  induction cs generalizing before with
  | nil => simp [Text.splitOnce] at h
  | cons d cs ih =>
    by_cases hd : c = d
    · simp only [Text.splitOnce, List.isPrefixOf?, beq_iff_eq, hd, if_true] at h
      cases h
      exact List.suffix_cons _ _
    · simp only [Text.splitOnce, List.isPrefixOf?, beq_iff_eq, hd, if_false] at h
      obtain ⟨⟨before', after'⟩, hcs, hsame⟩ := Option.map_eq_some_iff.mp h
      cases hsame
      exact (ih hcs).trans (List.suffix_cons d cs)

theorem namedClass?_append (f : Flags) (negated : Bool) (cs : List Char) {u : List Char}
    (hu : u ∈ tails) : namedClass? f negated (cs ++ u) =
      (namedClass? f negated cs).map fun x => (x.1, x.2 ++ u) := by
  have hcolon : ':' ∉ u := notMem_of_mem_tails hu (by decide)
  unfold namedClass?
  rw [splitOnce_append hcolon]
  cases Text.splitOnce [':'] cs with
  | none => rfl
  | some split =>
    obtain ⟨name, after⟩ := split
    cases after with
    | nil =>
      obtain ⟨more, rfl⟩ := exists_of_mem_tails hu
      rfl
    | cons c after =>
      by_cases hc : c = ']'
      · subst hc
        simp [Function.comp_def]
      · simp [hc]

theorem suffix_of_namedClass? {f : Flags} {negated : Bool} {cs after : List Char}
    {s : Except SyntaxError Charset} (h : namedClass? f negated cs = some (s, after)) :
    ']' :: after <:+ cs := by
  unfold namedClass? at h
  split at h
  · rename_i hsplit
    obtain ⟨_, -, hsame⟩ := Option.map_eq_some_iff.mp h
    cases hsame
    exact suffix_of_splitOnce hsplit
  · cases h

theorem asciiClass?_append (f : Flags) (cs : List Char) {u : List Char} (hu : u ∈ tails) :
    asciiClass? f (cs ++ u) = (asciiClass? f cs).map fun x => (x.1, x.2 ++ u) := by
  cases cs with
  | nil =>
    obtain ⟨more, rfl⟩ := exists_of_mem_tails hu
    rfl
  | cons c cs =>
    by_cases hc : c = ':'
    · subst hc
      cases cs with
      | nil =>
        have hnamed := namedClass?_append f false [] hu
        obtain ⟨more, rfl⟩ := exists_of_mem_tails hu
        exact hnamed
      | cons d cs =>
        by_cases hd : d = '^'
        · subst hd
          exact namedClass?_append f true cs hu
        · have hnamed := namedClass?_append f false (d :: cs) hu
          simpa [asciiClass?, hd] using hnamed
    · simp [asciiClass?, hc]

theorem suffix_of_asciiClass? {f : Flags} {cs after : List Char} {s : Except SyntaxError Charset}
    (h : asciiClass? f cs = some (s, after)) : ']' :: after <:+ cs := by
  unfold asciiClass? at h
  split at h
  · exact (suffix_of_namedClass? h).trans ((List.suffix_cons _ _).trans (List.suffix_cons _ _))
  · exact (suffix_of_namedClass? h).trans (List.suffix_cons _ _)
  · cases h

theorem classOp?_append (c : Char) (cs : List Char) {u : List Char} (hu : u ∈ tails) :
    classOp? (c :: (cs ++ u)) = (classOp? (c :: cs)).map fun x => (x.1, x.2 ++ u) := by
  cases cs with
  | nil =>
    obtain ⟨more, rfl⟩ := exists_of_mem_tails hu
    simp [classOp?]
  | cons d cs =>
    unfold classOp?
    split <;> split <;> simp_all

theorem suffix_of_classOp? {op : ClassOp} {cs rest : List Char}
    (h : classOp? cs = some (op, rest)) :
    ∃ c d, cs = c :: d :: rest := by
  unfold classOp? at h
  split at h <;> cases h <;> exact ⟨_, _, rfl⟩

/-- An item of a class that could not be read by itself ends without a bracket behind it, or is an
assertion. -/
def ClassPast (atom : Atom) (rest : List Char) : Prop := ']' ∉ rest ∨ ∃ look, atom = .look look

theorem stable_classAtom (f : Flags) : Stable ClassPast (classAtom f) := by
  intro cs
  cases cs with
  | nil =>
    refine .nil rfl fun a rest h => ?_
    cases h
    exact .inl (by decide)
  | cons c cs =>
    by_cases hslash : c = '\\'
    · subst hslash
      refine .cons ((stable_readEscape f cs).weaken fun atom rest hpast => ?_) fun _ => rfl
      rcases hpast with hsuffix | ⟨hlook, -⟩
      · exact .inl fun hmem => absurd (hsuffix.mem hmem) (by decide)
      · exact .inr hlook
    · exact .cons (.pure (.char c false)) fun cs => by simp [classAtom]

/-- What is looked for behind the dash is neither a blank nor in a comment. -/
theorem Flags.isLoneDash_append (f : Flags) (c : Char) (cs : List Char) {u : List Char}
    (hu : u ∈ tails) : f.isLoneDash (c :: (cs ++ u)) = f.isLoneDash (c :: cs) := by
  let closes (o : Option Char) : Bool := o == some ']' || o == some '-'
  have htail : ∀ more, closes (u.head?.or more) = false := by
    obtain ⟨more, rfl⟩ := exists_of_mem_tails hu
    exact fun _ => rfl
  have hremark : ∀ d, isBlank d = true ∨ d = '#' → closes (some d) = false := by
    intro d hd
    rw [← Bool.not_eq_true]
    intro hcloses
    simp only [closes, Bool.or_eq_true, beq_iff_eq, Option.some.injEq] at hcloses
    obtain rfl | rfl := hcloses
    · exact absurd hd (by decide)
    · exact absurd hd (by decide)
  have hhead : ∀ cs : List Char, (cs.dropWhile isBlank = [] ∨
      ∃ comment, cs.dropWhile isBlank = '#' :: comment) → closes cs.head? = false := by
    intro cs hcs
    cases cs with
    | nil => rfl
    | cons d cs =>
      apply hremark
      by_cases hd : isBlank d = true
      · exact .inl hd
      · rw [List.dropWhile_cons_of_neg hd] at hcs
        obtain hcs | ⟨comment, hcs⟩ := hcs
        · cases hcs
        · exact .inr (List.head_eq_of_cons_eq hcs)
  show closes (f.peekPast _) = closes (f.peekPast _)
  unfold peekPast
  simp only [List.drop_succ_cons, List.drop_zero]
  cases f.spaced with
  | false =>
    cases cs with
    | nil =>
      have hnone := htail none
      rwa [Option.or_none] at hnone
    | cons d cs => rfl
  | true =>
    simp only [if_true]
    rw [dropWhile_isBlank_append cs hu]
    cases hahead : cs.dropWhile isBlank with
    | nil =>
      rw [List.nil_append]
      obtain ⟨more, rfl⟩ := exists_of_mem_tails hu
      exact (hhead cs (.inl hahead)).symm
    | cons d ahead =>
      by_cases hd : d = '#'
      · subst hd
        simp only [List.cons_append]
        rw [dropWhile_isBlank_append ahead hu]
        cases ahead.dropWhile isBlank with
        | nil =>
          rw [List.nil_append, htail]
          exact (hhead cs (.inr ⟨_, hahead⟩)).symm
        | cons _ _ => rfl
      · simp [hd]

theorem range_look (f : Flags) (first : Atom) (look : Look) (s : Charset) :
    first.range f (.look look) ≠ .ok s := by
  intro h
  obtain ⟨lo, -, h⟩ := ok_of_bind h
  obtain ⟨hi, hhi, -⟩ := ok_of_bind h
  cases hhi

theorem classRangeEnd_look (f : Flags) (look : Look) (cs : List Char)
    (outcome : Charset × List Char) : classRangeEnd f (.look look) cs ≠ .ok outcome := by
  unfold classRangeEnd
  split
  · exact nofun
  · split_ifs
    · exact nofun
    · intro h
      obtain ⟨⟨last, rest⟩, -, h⟩ := ok_of_bind h
      obtain ⟨s, hs, -⟩ := ok_of_bind h
      obtain ⟨lo, hlo, -⟩ := ok_of_bind hs
      cases hlo
  · exact nofun

theorem stable_classRangeEnd (f : Flags) (first : Atom) :
    Stable Unclosable (classRangeEnd f first) := by
  intro cs
  cases cs with
  | nil =>
    refine .nil rfl fun a rest h => ?_
    obtain ⟨_, -, hsame⟩ := ok_of_map h
    cases hsame
    exact unclosable_ending
  | cons c cs =>
    by_cases hdash : c = '-'
    · subst hdash
      have hlone : ∀ u, u = [] ∨ u ∈ tails →
          f.isLoneDash ('-' :: (cs ++ u)) = f.isLoneDash ('-' :: cs) := by
        rintro u (rfl | hu)
        · rw [List.append_nil]
        · exact f.isLoneDash_append '-' cs hu
      cases hdash : f.isLoneDash ('-' :: cs) with
      | true =>
        refine (StableAt.lift (first.item f)).congr (List.suffix_refl _) fun u hu => ?_
        simp [classRangeEnd, hlone u hu, hdash]
      | false =>
        have hlast := StableAt.skip f (stable_classAtom f (f.skip cs))
        refine (hlast.finish (g := first.range f) (h := id) ?_).congr (List.suffix_cons _ _)
          fun u hu => ?_
        · rintro a s rest (hrest | ⟨look, rfl⟩) hrange
          · exact hrest
          · exact absurd hrange (range_look f first look s)
        · simp [classRangeEnd, hlone u hu, hdash]
    · refine (StableAt.lift (first.item f)).congr (List.suffix_refl _) fun u _ => ?_
      simp [classRangeEnd, hdash]

theorem stable_classRange (f : Flags) : Stable Unclosable (classRange f) := by
  intro cs
  refine (stable_classAtom f cs).bind (k := fun x => classRangeEnd f x.1 (f.skip x.2))
    (fun first rest _ => .skip f (stable_classRangeEnd f first _)) ?_
  rintro first r s rest (hr | ⟨look, rfl⟩) hok
  · intro hmem
    have hsuffix := (stable_classRangeEnd f first _).suffix s rest hok
    exact hr ((f.skip_suffix r).mem (hsuffix.mem hmem))
  · exact absurd hok (classRangeEnd_look f look _ _)

/-- A piece of a class that is not a bracket. -/
theorem readClassPiece_of_ne (f : Flags) (outer : List OpenClass) (b : OpenClass) {c : Char}
    (hopen : c ≠ '[') (hclose : c ≠ ']') (cs : List Char) :
    readClassPiece f outer b (c :: cs) =
      match classOp? (c :: cs) with
      | some (op, rest) =>
        .ok (.within { b with left := some (b.value f, op), items := [] } outer, rest)
      | none => do
        let (s, rest) ← classRange f (c :: cs)
        return (.within (b.push ⟨s, 0⟩) outer, rest) := by
  unfold readClassPiece
  split
  · rename_i heq
    cases heq
  · rename_i heq
    cases heq
    exact absurd rfl hopen
  · rename_i heq
    cases heq
    exact absurd rfl hclose
  · rfl

/-- A piece of a class that could not be read by itself does not close the class, and no bracket is
left to close it. -/
def PiecePast (piece : ClassState) (rest : List Char) : Prop :=
  (∃ b outer, piece = .within b outer) ∧ ']' ∉ rest

theorem stable_readClassPiece (f : Flags) (outer : List OpenClass) (b : OpenClass) :
    Stable PiecePast (readClassPiece f outer b) := by
  have hitem : ∀ cs, StableAt PiecePast (fun cs => do
      let (s, rest) ← classRange f cs
      return (ClassState.within (b.push ⟨s, 0⟩) outer, rest)) cs :=
    fun cs => (stable_classRange f cs).map (h := fun s => ClassState.within (b.push ⟨s, 0⟩) outer)
      fun s rest hrest => ⟨⟨_, _, rfl⟩, hrest⟩
  intro cs
  cases cs with
  | nil =>
    refine .nil rfl fun a rest h => ?_
    have hsuffix := (hitem ending).suffix a rest h
    obtain ⟨⟨s, r⟩, -, h⟩ := ok_of_bind h
    cases h
    exact ⟨⟨_, _, rfl⟩, fun hmem => unclosable_ending (hsuffix.mem hmem)⟩
  | cons c cs =>
    by_cases hopen : c = '['
    · subst hopen
      have happend : ∀ u, u = [] ∨ u ∈ tails →
          asciiClass? f (cs ++ u) = (asciiClass? f cs).map fun x => (x.1, x.2 ++ u) := by
        rintro u (rfl | hu)
        · simp
        · exact asciiClass?_append f cs hu
      cases hclass : asciiClass? f cs with
      | some found =>
        obtain ⟨s, after⟩ := found
        have hsuffix : after <:+ '[' :: cs :=
          ((List.suffix_cons ']' after).trans (suffix_of_asciiClass? hclass)).trans
            (List.suffix_cons _ _)
        refine (StableAt.liftBind s fun s => ClassState.within (b.push ⟨s, 0⟩) outer).congr hsuffix
          fun u hu => ?_
        simp only [List.cons_append, readClassPiece, happend u hu, hclass, Option.map_some]
      | none =>
        refine ((stable_openClass f cs).map (h := fun inner => ClassState.within inner (b :: outer))
          fun inner rest hrest => ⟨⟨_, _, rfl⟩, hrest⟩).congr (List.suffix_cons _ _) fun u hu => ?_
        simp only [List.cons_append, readClassPiece, happend u hu, hclass, Option.map_none]
    · by_cases hclose : c = ']'
      · subst hclose
        exact .cons (.liftBind (closeClass f outer b) id) fun _ => rfl
      · have happend : ∀ u, u = [] ∨ u ∈ tails →
            classOp? (c :: (cs ++ u)) = (classOp? (c :: cs)).map fun x => (x.1, x.2 ++ u) := by
          rintro u (rfl | hu)
          · simp
          · exact classOp?_append c cs hu
        cases hop : classOp? (c :: cs) with
        | some found =>
          obtain ⟨op, rest⟩ := found
          obtain ⟨_, _, hcs⟩ := suffix_of_classOp? hop
          have hsuffix : rest <:+ c :: cs := by
            rw [hcs]
            exact (List.suffix_cons _ _).trans (List.suffix_cons _ _)
          refine (StableAt.pure (ClassState.within
            { b with left := some (b.value f, op), items := [] } outer)).congr hsuffix
            fun u hu => ?_
          rw [List.cons_append, readClassPiece_of_ne f outer b hopen hclose, happend u hu, hop]
          rfl
        | none =>
          refine (hitem (c :: cs)).congr (List.suffix_refl _) fun u hu => ?_
          rw [List.cons_append, readClassPiece_of_ne f outer b hopen hclose, happend u hu, hop]
          rfl

theorem length_of_classAtom {f : Flags} {cs rest : List Char} {atom : Atom}
    (h : classAtom f cs = .ok (atom, rest)) : rest.length < cs.length := by
  cases cs with
  | nil => cases h
  | cons c cs =>
    by_cases hslash : c = '\\'
    · subst hslash
      exact Nat.lt_succ_of_le ((stable_readEscape f cs).suffix atom rest h).length_le
    · simp only [classAtom] at h
      cases h
      exact Nat.lt_succ_self _

theorem length_of_classRange {f : Flags} {cs rest : List Char} {s : Charset}
    (h : classRange f cs = .ok (s, rest)) : rest.length < cs.length := by
  obtain ⟨⟨first, r⟩, hfirst, hend⟩ := ok_of_bind h
  have hsuffix := (StableAt.skip f (stable_classRangeEnd f first (f.skip r))).suffix s rest hend
  exact Nat.lt_of_le_of_lt hsuffix.length_le (length_of_classAtom hfirst)

theorem length_of_readClassPiece {f : Flags} {outer : List OpenClass} {b : OpenClass}
    {cs rest : List Char} {piece : ClassState}
    (h : readClassPiece f outer b cs = .ok (piece, rest)) : rest.length < cs.length := by
  cases cs with
  | nil => cases h
  | cons c cs =>
    by_cases hopen : c = '['
    · subst hopen
      simp only [readClassPiece] at h
      cases hclass : asciiClass? f cs with
      | some found =>
        rw [hclass] at h
        obtain ⟨s, -, h⟩ := ok_of_bind h
        cases h
        have hlength := (suffix_of_asciiClass? hclass).length_le
        rw [List.length_cons] at hlength ⊢
        omega
      | none =>
        rw [hclass] at h
        obtain ⟨⟨inner, r⟩, hopen, h⟩ := ok_of_bind h
        cases h
        exact Nat.lt_succ_of_le ((stable_openClass f cs).suffix _ _ hopen).length_le
    · by_cases hclose : c = ']'
      · subst hclose
        obtain ⟨_, -, h⟩ := ok_of_bind h
        cases h
        exact Nat.lt_succ_self _
      · rw [readClassPiece_of_ne f outer b hopen hclose] at h
        split at h
        · rename_i hop
          obtain ⟨_, _, hcs⟩ := suffix_of_classOp? hop
          cases h
          rw [hcs]
          simp only [List.length_cons]
          omega
        · obtain ⟨⟨s, r⟩, hrange, h⟩ := ok_of_bind h
          cases h
          exact length_of_classRange hrange

/-- Without a closing bracket, no piece closes the class. -/
theorem not_closed_of_unclosable {f : Flags} {outer : List OpenClass} {b : OpenClass}
    {cs rest : List Char} (h : ']' ∉ cs) (set : DeepSet) :
    readClassPiece f outer b cs ≠ .ok (.closed set, rest) := by
  intro hpiece
  cases cs with
  | nil => cases hpiece
  | cons c cs =>
    rw [List.mem_cons, not_or] at h
    by_cases hopen : c = '['
    · subst hopen
      simp only [readClassPiece] at hpiece
      split at hpiece
      · obtain ⟨s, -, hpiece⟩ := ok_of_bind hpiece
        cases hpiece
      · obtain ⟨⟨inner, r⟩, -, hpiece⟩ := ok_of_bind hpiece
        cases hpiece
    · rw [readClassPiece_of_ne f outer b hopen (Ne.symm h.1)] at hpiece
      split at hpiece
      · cases hpiece
      · obtain ⟨⟨s, r⟩, -, hpiece⟩ := ok_of_bind hpiece
        cases hpiece

theorem readClass_of_unclosable {f : Flags} {fuel : Nat} {outer : List OpenClass} {b : OpenClass}
    {cs : List Char} (h : ']' ∉ cs) (outcome : DeepSet × List Char) :
    readClass f fuel outer b cs ≠ .ok outcome := by
  induction fuel generalizing outer b cs with
  | zero => exact nofun
  | succ fuel ih =>
    intro hok
    obtain ⟨⟨piece, rest⟩, hpiece, hok⟩ := ok_of_bind hok
    have hskip : ']' ∉ f.skip cs := fun hmem => h ((f.skip_suffix cs).mem hmem)
    cases piece with
    | closed set => exact not_closed_of_unclosable hskip set hpiece
    | within b' outer' =>
      have hsuffix := (stable_readClassPiece f outer b (f.skip cs)).suffix _ _ hpiece
      exact ih (fun hmem => hskip (hsuffix.mem hmem)) hok

theorem strict_readClass (f : Flags) (fuel : Nat) (outer : List OpenClass) (b : OpenClass) :
    Strict (readClass f fuel outer b) := by
  induction fuel generalizing outer b with
  | zero => exact fun cs => .error .unclosedClass
  | succ fuel ih =>
    intro cs
    have hpiece := StableAt.skip f (stable_readClassPiece f outer b (f.skip cs))
    show StrictAt (fun cs => readClass f (fuel + 1) outer b cs) cs
    simp only [readClass]
    refine hpiece.bind (fun piece rest _ => ?_) ?_
    · cases piece with
      | closed set => exact .pure set
      | within b outer => exact ih outer b rest
    · rintro _ r set rest ⟨⟨b', outer', rfl⟩, hr⟩ hok
      exact readClass_of_unclosable hr _ hok

theorem settled_readClass (f : Flags) (outer : List OpenClass) (b : OpenClass) :
    Settled fun n => readClass f n outer b := by
  intro n cs hn
  dsimp only
  induction n generalizing outer b cs with
  | zero => omega
  | succ n ih =>
    have hlength := (f.skip_suffix cs).length_le
    rw [readClass, readClass]
    cases hpiece : readClassPiece f outer b (f.skip cs) with
    | error e => rfl
    | ok outcome =>
      obtain ⟨piece, rest⟩ := outcome
      have hrest := length_of_readClassPiece hpiece
      cases piece with
      | closed set => rfl
      | within b' outer' => exact ih outer' b' rest (by omega)

end PathTiming.Pattern
