import PathTiming.Proofs.PatternReading

/-! Escapes are read alike with and without a closing parenthesis behind the pattern, unless one has
only its backslash there. -/
namespace PathTiming.Pattern

theorem strict_readHexDigits (f : Flags) (count value : Nat) :
    Strict (readHexDigits f count value) := by
  induction count generalizing value with
  | zero => exact fun cs => .pure value
  | succ count ih =>
    intro cs
    cases cs with
    | nil => exact .nil rfl fun _ _ h => nomatch h
    | cons c cs =>
      cases hdigit : hexDigit? c with
      | none => exact .cons (.error .badEscape) fun cs => by rw [readHexDigits, hdigit]
      | some d =>
        exact .cons (.skip f (ih (16 * value + d) _)) fun cs => by rw [readHexDigits, hdigit]

theorem strict_readHexBrace (f : Flags) (fuel value : Nat) (read : Bool) :
    Strict (readHexBrace f fuel value read) := by
  induction fuel generalizing value read with
  | zero => exact fun cs => .error .badEscape
  | succ fuel ih =>
    intro cs
    cases cs with
    | nil => exact .nil rfl fun _ _ h => nomatch h
    | cons c cs =>
      by_cases hbrace : c = '\x7d'
      · cases read with
        | true =>
          exact .cons (.skip f (.pure value)) fun cs => by
            rw [readHexBrace, if_pos hbrace, if_pos rfl]
        | false =>
          exact .cons (.error .badEscape) fun cs => by
            rw [readHexBrace, if_pos hbrace, if_neg Bool.false_ne_true]
      · cases hdigit : hexDigit? c with
        | none =>
          exact .cons (.error .badEscape) fun cs => by rw [readHexBrace, if_neg hbrace, hdigit]
        | some d =>
          exact .cons (.skip f (ih (16 * value + d) true _)) fun cs => by
            rw [readHexBrace, if_neg hbrace, hdigit]

theorem settled_readHexBrace (f : Flags) (value : Nat) (read : Bool) :
    Settled fun n => readHexBrace f n value read := by
  intro n cs hn
  dsimp only
  induction n generalizing value read cs with
  | zero => omega
  | succ n ih =>
    cases cs with
    | nil => rfl
    | cons c cs =>
      have hlength := (f.skip_suffix cs).length_le
      rw [List.length_cons] at hn
      rw [readHexBrace, readHexBrace]
      cases hexDigit? c with
      | none => rfl
      | some d =>
        dsimp only
        rw [ih (16 * value + d) true (f.skip cs) (by omega)]

theorem strict_readCodePoint (f : Flags) {count : Nat} (h : 0 < count) :
    Strict (readCodePoint f count) := by
  intro cs
  cases cs with
  | nil =>
    obtain ⟨count, rfl⟩ := Nat.exists_eq_succ_of_ne_zero (Nat.ne_of_gt h)
    exact .nil rfl fun _ _ h => nomatch h
  | cons c cs =>
    by_cases hbrace : c = '\x7b'
    · subst hbrace
      exact .cons (.fueled_skip (strict_readHexBrace f · 0 false) (settled_readHexBrace f 0 false)
        f cs) fun _ => rfl
    · refine (strict_readHexDigits f count 0 (c :: cs)).congr (List.suffix_refl _) fun u _ => ?_
      simp [readCodePoint, hbrace]

theorem strict_readHex (f : Flags) {count : Nat} (h : 0 < count) : Strict (readHex f count) := by
  intro cs
  have hread (c : Option Char) := StrictAt.finish
    (g := codePointAtom (count == 2 && c != some '\x7b'))
    (h := id) (strict_readCodePoint f h cs)
  cases cs with
  | nil =>
    exact (hread none).congr_end (List.suffix_refl _) rfl fun _ => rfl
  | cons c cs => exact (hread (some c)).congr (List.suffix_refl _) fun u _ => rfl

theorem readBraced_of_notMem {f : Flags} {fuel : Nat} {done cs : List Char} (h : '\x7d' ∉ cs)
    (outcome : List Char × List Char) : readBraced f fuel done cs ≠ .ok outcome := by
  induction fuel generalizing done cs with
  | zero => exact nofun
  | succ fuel ih =>
    cases cs with
    | nil => exact nofun
    | cons c cs =>
      rw [List.mem_cons, not_or] at h
      rw [readBraced, if_neg (Ne.symm h.1)]
      exact ih fun hmem => h.2 ((f.skip_suffix cs).mem hmem)

theorem strict_readBraced (f : Flags) (fuel : Nat) (done : List Char) :
    Strict (readBraced f fuel done) := by
  induction fuel generalizing done with
  | zero => exact fun cs => .error .badEscape
  | succ fuel ih =>
    intro cs
    cases cs with
    | nil => exact .nil rfl fun _ _ h => readBraced_of_notMem (by decide) _ h
    | cons c cs =>
      by_cases hbrace : c = '\x7d'
      · exact .cons (.pure done.reverse) fun cs => by rw [readBraced, if_pos hbrace]
      · exact .cons (.skip f (ih (c :: done) _)) fun cs => by rw [readBraced, if_neg hbrace]

theorem settled_readBraced (f : Flags) (done : List Char) :
    Settled fun n => readBraced f n done := by
  intro n cs hn
  dsimp only
  induction n generalizing done cs with
  | zero => omega
  | succ n ih =>
    cases cs with
    | nil => rfl
    | cons c cs =>
      have hlength := (f.skip_suffix cs).length_le
      rw [List.length_cons] at hn
      rw [readBraced, readBraced, ih (c :: done) (f.skip cs) (by omega)]

theorem strict_readPropertyName (f : Flags) {cs : List Char} (h : cs ≠ []) :
    StrictAt (readPropertyName f) cs := by
  cases cs with
  | nil => exact absurd rfl h
  | cons c cs =>
    by_cases hbrace : c = '\x7b'
    · subst hbrace
      exact .cons (.fueled_skip (strict_readBraced f · []) (settled_readBraced f []) f cs)
        fun _ => rfl
    · by_cases hslash : c = '\\'
      · exact .cons (.error .unknownProperty) fun cs => by simp [readPropertyName, hslash]
      · exact .cons (.skip f (.pure [c])) fun cs => by simp [readPropertyName, hslash]

theorem propertySet_ne_ok {f : Flags} {negated : Bool} {name : List Char}
    (h : namedSet? name = none) (s : Charset) : propertySet f negated name ≠ .ok s := by
  intro hset
  unfold propertySet at hset
  rw [h] at hset
  split_ifs at hset

theorem strict_readProperty (f : Flags) (negated : Bool) : Strict (readProperty f negated) := by
  intro cs
  refine StableAt.skip f (R := fun cs => readPropertyName f cs >>= fun x => do
    return (Atom.set (← propertySet f negated x.1), x.2)) ?_
  generalize f.skip cs = cs
  cases cs with
  | cons c cs => exact StrictAt.finish (strict_readPropertyName f (List.cons_ne_nil c cs))
  | nil =>
    -- The parenthesis is taken for the name of a property, and there is none of that name.
    have hnone : namedSet? [')'] = none := by decide +kernel
    refine .nil rfl fun a rest h => ?_
    obtain ⟨⟨name, rest'⟩, hname, h⟩ := ok_of_bind h
    obtain rfl : [')'] = name := congrArg Prod.fst (Except.ok.inj hname)
    obtain ⟨s, hset, -⟩ := ok_of_bind h
    exact absurd hset (propertySet_ne_ok hnone s)

theorem strict_readWordEdge (f : Flags) (fuel : Nat) (done : List Char) :
    Strict (readWordEdge f fuel done) := by
  induction fuel generalizing done with
  | zero => exact fun cs => .error .badEscape
  | succ fuel ih =>
    intro cs
    cases cs with
    | nil => exact .nil rfl fun _ _ h => nomatch h
    | cons c cs =>
      by_cases hname : c.isAlpha ∨ c = '-'
      · exact .cons (.skip f (ih (c :: done) _)) fun cs => by rw [readWordEdge, if_pos hname]
      · by_cases hbrace : c = '\x7d'
        · exact .cons (.lift (wordEdge (String.ofList done.reverse))) fun cs => by
            rw [readWordEdge, if_neg hname, if_pos hbrace]
        · exact .cons (.error .badEscape) fun cs => by
            rw [readWordEdge, if_neg hname, if_neg hbrace]

theorem settled_readWordEdge (f : Flags) (done : List Char) :
    Settled fun n => readWordEdge f n done := by
  intro n cs hn
  dsimp only
  induction n generalizing done cs with
  | zero => omega
  | succ n ih =>
    cases cs with
    | nil => rfl
    | cons c cs =>
      have hlength := (f.skip_suffix cs).length_le
      rw [List.length_cons] at hn
      rw [readWordEdge, readWordEdge, ih (c :: done) (f.skip cs) (by omega)]

/-- Behind a word assertion with an open brace stands a repetition without bounds. -/
def OpenBrace (f : Flags) (atom : Atom) (rest : List Char) : Prop :=
  (∃ look, atom = .look look) ∧ ∃ inner, rest = '\x7b' :: inner ∧ f.skip inner = ending

theorem stable_readBoundary (f : Flags) : Stable (OpenBrace f) (readBoundary f) := by
  have hplain : ∀ cs, cs.head? ≠ some '\x7b' →
      readBoundary f cs = .ok (.look (.word .boundary f.unicode), cs) := by
    intro cs hcs
    unfold readBoundary
    split
    · exact absurd rfl hcs
    · rfl
  have hbrace : ∀ inner c rest, f.skip inner = c :: rest → readBoundary f ('\x7b' :: inner) =
      if c.isAlpha ∨ c = '-' then
        readWordEdge f (rest.length + 2) [] (c :: rest) >>= fun x =>
          .ok (.look (.word x.1 f.unicode), x.2)
      else .ok (.look (.word .boundary f.unicode), '\x7b' :: inner) := by
    intro inner c rest hskip
    simp only [readBoundary, hskip]
    rfl
  intro cs
  cases cs with
  | nil =>
    exact (StableAt.pure _).congr_end (List.suffix_refl _) (hplain [] nofun)
      fun _ => hplain _ (by simp)
  | cons c inner =>
    by_cases hc : c = '\x7b'
    · subst hc
      cases hskip : f.skip inner with
      | nil =>
        -- Nothing stands in the brace. Before the ending, it is taken for that of a repetition.
        constructor
        · intro a rest hok
          simp [readBoundary, hskip] at hok
        · intro a rest hok
          simp [readBoundary, hskip] at hok
        · intro _ a rest _ hok
          rcases f.skip_append inner with htail | ⟨-, -, hnone⟩
          · have hskip' := htail ending ending_mem_tails
            rw [hskip, List.nil_append] at hskip'
            rw [List.cons_append, hbrace _ ')' ['$'] hskip', if_neg (by decide)] at hok
            cases hok
            exact ⟨⟨_, rfl⟩, _, rfl, hskip'⟩
          · simp [readBoundary, hnone ending ending_mem_tails] at hok
      | cons c rest =>
        by_cases hname : c.isAlpha ∨ c = '-'
        · have hedge := StableAt.fueled (strict_readWordEdge f · []) (settled_readWordEdge f [])
            (c :: rest)
          have hatom := StrictAt.finish (g := Except.ok)
            (h := fun edge => Atom.look (.word edge f.unicode)) hedge
          have hsuffix : c :: rest <:+ '\x7b' :: inner := by
            rw [← hskip]
            exact (f.skip_suffix inner).trans (List.suffix_cons _ inner)
          refine hatom.stableAt.congr hsuffix fun u hu => ?_
          rw [List.cons_append, hbrace _ c (rest ++ u) (Flags.skip_append_cons hskip hu),
            if_pos hname]
          rfl
        · refine (StableAt.pure (.look (.word .boundary f.unicode))).congr (List.suffix_refl _)
            fun u hu => ?_
          rw [List.cons_append, hbrace _ c (rest ++ u) (Flags.skip_append_cons hskip hu),
            if_neg hname]
    · refine (StableAt.pure _).congr (List.suffix_refl _) fun u _ => hplain _ ?_
      simpa using hc

/-- A backslash at the end of a pattern takes the parenthesis behind it, and a word assertion may
leave its open brace. -/
def EscapePast (f : Flags) (atom : Atom) (rest : List Char) : Prop :=
  rest <:+ ['$'] ∨ OpenBrace f atom rest

theorem stable_readEscape (f : Flags) : Stable (EscapePast f) (readEscape f) := by
  intro cs
  cases cs with
  | nil =>
    have hmeta : isMeta ')' = true := by decide +kernel
    have hending : readEscape f ending = .ok (.char ')' false, ['$']) := by
      simp [readEscape, ending, hmeta]
    refine .nil rfl fun a rest h => .inl ?_
    rw [hending] at h
    cases h
    exact List.suffix_refl _
  | cons c rest =>
    suffices h : StableAt (EscapePast f) (fun rest => readEscape f (c :: rest)) rest from
      .cons h fun _ => rfl
    unfold readEscape
    dsimp only
    refine .ite (fun _ => .skip f (strict_readHex f (by decide) _).stableAt) fun _ => ?_
    refine .ite (fun _ => .skip f (strict_readHex f (by decide) _).stableAt) fun _ => ?_
    refine .ite (fun _ => .skip f (strict_readHex f (by decide) _).stableAt) fun _ => ?_
    refine .ite (fun _ => (strict_readProperty f false rest).stableAt) fun _ => ?_
    refine .ite (fun _ => (strict_readProperty f true rest).stableAt) fun _ => ?_
    refine .ite (fun _ => .lift _) fun _ => ?_
    refine .ite (fun _ => .lift _) fun _ => ?_
    refine .ite (fun _ => .lift _) fun _ => ?_
    refine .ite (fun _ => .pure _) fun _ => ?_
    refine .ite (fun _ => .pure _) fun _ => ?_
    refine .ite (fun _ => .pure _) fun _ => ?_
    refine .ite (fun _ => .pure _) fun _ => ?_
    refine .ite (fun _ => .pure _) fun _ => ?_
    refine .ite (fun _ => .pure _) fun _ => ?_
    refine .ite (fun _ => .pure _) fun _ => ?_
    refine .ite (fun _ => .pure _) fun _ => ?_
    refine .ite (fun _ => .pure _) fun _ => ?_
    refine .ite (fun _ => ?_) fun _ => ?_
    · exact (stable_readBoundary f rest).weaken fun _ _ => .inr
    refine .ite (fun _ => .pure _) fun _ => ?_
    refine .ite (fun _ => .pure _) fun _ => ?_
    refine .ite (fun _ => .pure _) fun _ => ?_
    exact .ite (fun _ => .error _) fun _ => .pure _

end PathTiming.Pattern
