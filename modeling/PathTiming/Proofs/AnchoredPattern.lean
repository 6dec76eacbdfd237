import PathTiming.Pattern.Basic
import PathTiming.Proofs.PatternNumbering
import PathTiming.Proofs.PatternSearch

/-! Patterns match whole texts. A pattern is compiled between two anchors, by writing it into a
group between them. If it is valid by itself, the anchors bind all of it, and it matches from the
first character of a text to the last one. A pattern that closes the group around it escapes them. -/
namespace PathTiming.Pattern

/-- The group around a pattern that is anchored, behind the condition for the start of the text. -/
def anchorGroup : OpenGroup := ⟨none, {}, { items := [⟨.look .textStart, 0, true⟩] }⟩

/-- The pattern is valid, and is read alike with a closing parenthesis behind it: it ends in a
comment, which takes in the parenthesis. -/
def EndsInComment (cs : List Char) : Prop :=
  ∃ item, parseItem cs = .ok item ∧ parseItem (cs ++ [')']) = .ok item

theorem parseItem_eq_ok_iff {cs : List Char} {item : Item} :
    parseItem cs = .ok item ↔ ∃ s, Read {} cs (.ok s) ∧ s.groups = [] ∧ s.here.whole = item := by
  constructor
  · intro h
    obtain ⟨s, hrun, h⟩ := ok_of_bind h
    split_ifs at h with hgroups
    exact ⟨s, (Read.run_eq_iff (Nat.lt_succ_self _)).mp hrun, List.isEmpty_iff.mp hgroups,
      Except.ok.inj h⟩
  · rintro ⟨s, hread, hgroups, rfl⟩
    have hrun := (Read.run_eq_iff (Nat.lt_succ_self _)).mpr hread
    unfold parseItem
    rw [hrun]
    show (if s.groups.isEmpty then _ else _) = _
    rw [hgroups]
    rfl

theorem read_anchored_iff {source : String} {outcome : Except SyntaxError State} :
    Read {} (anchored source) outcome ↔
      Read (({} : State).within [anchorGroup]) (source.toList ++ ending) outcome := by
  have hstart : ({} : State).step '^' ("(?:".toList ++ source.toList ++ ending) =
      .ok (({} : State).push ⟨.look .textStart, 0, true⟩,
        "(?:".toList ++ source.toList ++ ending) := rfl
  have hgroup : (({} : State).push ⟨.look .textStart, 0, true⟩).step '('
      ("?:".toList ++ source.toList ++ ending) =
      .ok (({} : State).within [anchorGroup], source.toList ++ ending) := rfl
  exact (Read.more_iff rfl hstart).trans (Read.more_iff rfl hgroup)

/-- Behind a pattern that is valid by itself, the group around it is closed, and the condition for
the end of the text follows. -/
theorem read_ending {s : State} (hgroups : s.groups = []) :
    Read (s.within [anchorGroup]) ending (.ok { s with
      flags := {}
      groups := []
      here := { items := [⟨.look .textEnd, 0, true⟩,
        ⟨s.here.whole.expr, s.here.whole.depth + 1, true⟩, ⟨.look .textStart, 0, true⟩] } }) := by
  have hclose : (s.within [anchorGroup]).step ')' ['$'] = .ok ({ s with
      flags := {}
      groups := []
      here := anchorGroup.around.push ⟨s.here.whole.expr, s.here.whole.depth + 1, true⟩ },
      ['$']) := by
    show (s.within [anchorGroup]).closeGroup.map (·, ['$']) = _
    rw [State.closeGroup, State.within_groups, hgroups]
    rfl
  refine .more ?_ hclose (.more rfl rfl (.done rfl))
  exact (s.within [anchorGroup]).flags.skip_of_mem_tails ending_mem_tails

theorem parseItem_anchored {source : String} {item : Item}
    (h : parseItem source.toList = .ok item) :
    (¬ EndsInComment source.toList ∧
      parseItem (anchored source) = .ok ⟨item.expr.anchored, item.depth + 2, true⟩) ∨
    (EndsInComment source.toList ∧ '#' ∈ source.toList ∧
      ∀ whole, parseItem (anchored source) ≠ .ok whole) := by
  obtain ⟨s, hread, hgroups, rfl⟩ := parseItem_eq_ok_iff.mp h
  have hself : s.within [] = s := by
    rw [State.within, List.append_nil]
  rcases hread.append with hleft | ⟨hmark, htaken⟩
  · refine .inl ⟨?_, ?_⟩
    · rintro ⟨_, -, hcomment⟩
      obtain ⟨s', hread', -⟩ := parseItem_eq_ok_iff.mp hcomment
      have hclose : Read s [')'] (.error .unopenedGroup) :=
        .fault (s.flags.skip_of_mem_tails (by simp [tails])) (State.step_unopened hgroups [])
      rw [← hself] at hclose
      cases (hleft [] [')'] (by simp [tails]) _ hclose).unique hread'
    · have hwhole := hleft [anchorGroup] ending ending_mem_tails _ (read_ending hgroups)
      refine parseItem_eq_ok_iff.mpr ⟨_, read_anchored_iff.mpr hwhole, rfl, ?_⟩
      simp [Branches.whole, Branches.sequence, Expr.anchored]
  · refine .inr ⟨⟨_, h, ?_⟩, hmark, ?_⟩
    · have hsame := htaken [] [')'] (by simp [tails])
      rw [hself] at hsame
      exact parseItem_eq_ok_iff.mpr ⟨s, hsame, hgroups, rfl⟩
    · intro whole hwhole
      obtain ⟨s', hread', hgroups', -⟩ := parseItem_eq_ok_iff.mp hwhole
      have hsame := htaken [anchorGroup] ending ending_mem_tails
      cases (hsame.unique (read_anchored_iff.mp hread'))
      simp at hgroups'

/-- Behind a pattern that leaves groups open, the innermost one of them is closed. -/
theorem read_ending_of_open {s : State} (hopen : s.groups ≠ []) :
    ∃ outcome, Read (s.within [anchorGroup]) ending outcome ∧
      ∀ s', outcome = .ok s' → s'.groups ≠ [] := by
  obtain ⟨g, groups, hgroups⟩ := List.exists_cons_of_ne_nil hopen
  have hread : Read (s.within [anchorGroup]) ending _ := Read.of_run (Nat.lt_succ_self _)
  refine ⟨_, hread, fun s' hs' => ?_⟩
  rw [hs'] at hread
  have hskip := (s.within [anchorGroup]).flags.skip_of_mem_tails ending_mem_tails
  have hclose : ∃ s₁, (s.within [anchorGroup]).step ')' ['$'] = .ok (s₁, ['$']) ∧
      s₁.groups ≠ [] := by
    show ∃ s₁, (s.within [anchorGroup]).closeGroup.map (·, ['$']) = _ ∧ _
    rw [State.closeGroup, State.within_groups, hgroups]
    exact ⟨_, rfl, by simp⟩
  obtain ⟨s₁, hstep, hs₁⟩ := hclose
  exact Read.groups_ne_nil (.inl (List.suffix_refl _)) hs₁ ((Read.more_iff hskip hstep).mp hread)

/-- A pattern that is at fault by itself is accepted only if it closes a group that it did not
open. -/
theorem eq_unopenedGroup_of_parseItem {source : String} {e : SyntaxError} {whole : Item}
    (h : parseItem source.toList = .error e) (hwhole : parseItem (anchored source) = .ok whole) :
    e = .unopenedGroup := by
  obtain ⟨s', hread', hgroups', -⟩ := parseItem_eq_ok_iff.mp hwhole
  have hanchored := read_anchored_iff.mp hread'
  have halone : Read {} source.toList (State.run (source.toList.length + 1) {} source.toList) :=
    Read.of_run (Nat.lt_succ_self _)
  cases hrun : State.run (source.toList.length + 1) {} source.toList with
  | error e' =>
    rw [hrun] at halone
    obtain rfl : e' = e := by
      unfold parseItem at h
      rw [hrun] at h
      exact Except.error.inj h
    by_contra he
    exact halone.groups_ne_nil_of_fault he (List.cons_ne_nil _ _) hanchored hgroups'
  | ok s =>
    rw [hrun] at halone
    have hopen : s.groups ≠ [] := by
      intro hgroups
      rw [parseItem_eq_ok_iff.mpr ⟨s, halone, hgroups, rfl⟩] at h
      cases h
    rcases halone.append with hleft | ⟨-, htaken⟩
    · obtain ⟨outcome, hending, hstays⟩ := read_ending_of_open hopen
      cases (hleft _ _ ending_mem_tails _ hending).unique hanchored
      exact absurd hgroups' (hstays _ rfl)
    · cases (htaken _ _ ending_mem_tails).unique hanchored
      simp at hgroups'

theorem compile_eq_ok_iff {source : String} {p : Pattern} :
    compile source = .ok p ↔ ∃ whole, parseItem (anchored source) = .ok whole ∧
      whole.depth ≤ maxDepth ∧ whole.expr.fits = true ∧ p = ⟨source, .ofExpr whole.expr⟩ := by
  constructor
  · intro h
    obtain ⟨expr, hparse, h⟩ := ok_of_bind h
    obtain ⟨whole, hwhole, hparse⟩ := ok_of_bind hparse
    split_ifs at hparse with hdeep
    cases hparse
    split_ifs at h with hfits
    cases h
    exact ⟨whole, hwhole, Nat.le_of_not_lt hdeep, hfits, rfl⟩
  · rintro ⟨whole, hwhole, hdepth, hfits, rfl⟩
    have hparse : parse (anchored source) = .ok whole.expr := by
      unfold parse
      rw [hwhole]
      exact if_neg (Nat.not_lt_of_le hdepth)
    unfold compile
    rw [hparse]
    exact if_pos hfits

/-- A search between anchors finds the whole text or nothing. -/
theorem search_anchored {e : Expr} (h : 0 ∉ e.groups) (text : Array Char) :
    ((Program.ofExpr e.anchored).search text = none ∧ ¬ e.Matches text 0 text.size) ∨
    (∃ slots, (Program.ofExpr e.anchored).search text = some slots ∧
      slots[0]? = some (some 0) ∧ slots[1]? = some (some text.size) ∧
      e.Matches text 0 text.size) := by
  have hgroups : 0 ∉ e.anchored.groups := by
    simpa [Expr.anchored, Expr.groups] using h
  obtain ⟨hfound, hnone⟩ := Program.search_ofExpr hgroups text
  cases hsearch : (Program.ofExpr e.anchored).search text with
  | none =>
    refine .inl ⟨rfl, fun hmatch => ?_⟩
    have hanchored := (Expr.matches_anchored_iff (Nat.zero_le _)).mpr ⟨rfl, rfl, hmatch⟩
    exact hnone hsearch 0 (Nat.zero_le _) _ hanchored
  | some slots =>
    obtain ⟨i, hi, j, hmatch, hstart, hstop⟩ := hfound slots hsearch
    obtain ⟨rfl, rfl, hwhole⟩ := (Expr.matches_anchored_iff hi).mp hmatch
    exact .inr ⟨slots, rfl, hstart, hstop, hwhole⟩

theorem groupText_zero {slots : Slots} {text : String} (hstart : slots[0]? = some (some 0))
    (hstop : slots[1]? = some (some text.toList.toArray.size)) :
    groupText text.toList.toArray slots 0 = some text := by
  unfold groupText
  simp [Array.getD_eq_getD_getElem?, hstart, hstop]

/-- A match gives one capture for each group, and what a group took is a slice of the text. -/
theorem captures_slices {p : Pattern} {text : String} {groups : List (Option String)}
    (h : p.captures text = some groups) :
    groups.length = p.program.slotCount / 2 ∧
      ∀ group, some group ∈ groups → group.toList <:+: text.toList := by
  obtain ⟨slots, hslots, rfl⟩ := Option.map_eq_some_iff.mp h
  refine ⟨?_, fun group hgroup => ?_⟩
  · rw [List.length_map, List.length_range, Program.size_of_search hslots]
  · obtain ⟨index, -, htext⟩ := List.mem_map.mp hgroup
    unfold groupText at htext
    split at htext
    · obtain rfl := Option.some.inj htext
      rw [String.toList_ofList, Array.toList_extract, List.extract_eq_take_drop]
      exact (List.take_prefix _ _).isInfix.trans (List.drop_suffix _ _).isInfix
    · cases htext

/-- An anchored expression matches just the texts of which it matches all, as group 0. -/
theorem fullMatch_anchored {e : Expr} (h : 0 ∉ e.groups) (source text : String) :
    let p : Pattern := ⟨source, .ofExpr e.anchored⟩
    (p.isFullMatch text = true ↔ e.Matches text.toList.toArray 0 text.toList.toArray.size) ∧
    (p.captures text).isSome = p.isFullMatch text ∧
    ∀ groups, p.captures text = some groups → groups[0]? = some (some text) := by
  intro p
  refine ⟨?_, Option.isSome_map, ?_⟩
  · show ((Program.ofExpr e.anchored).search text.toList.toArray).isSome = true ↔ _
    rcases search_anchored h text.toList.toArray with ⟨hnone, hmatch⟩ | ⟨slots, hsome, -, -, hmatch⟩
    · rw [hnone]
      exact iff_of_false Bool.false_ne_true hmatch
    · rw [hsome]
      exact iff_of_true rfl hmatch
  · intro groups hgroups
    obtain ⟨slots, hslots, rfl⟩ := Option.map_eq_some_iff.mp hgroups
    rcases search_anchored h text.toList.toArray with
      ⟨hnone, -⟩ | ⟨slots', hsome, hstart, hstop, -⟩
    · cases hnone.symm.trans hslots
    · obtain rfl : slots' = slots := Option.some.inj (hsome.symm.trans hslots)
      obtain ⟨hsize, -⟩ := Array.getElem?_eq_some_iff.mp hstop
      have hpairs : 0 < slots'.size / 2 := by omega
      rw [List.getElem?_map, List.getElem?_range hpairs, Option.map_some]
      exact congrArg some (groupText_zero hstart hstop)

/-- A pattern that is valid by itself is accepted unless it ends in a comment, or the anchors make
it too deep or too large. Then it matches just the texts of which it matches all, and captures them
as group 0. A pattern that is not valid is accepted only if it closes a group that it did not open. -/
theorem compile_fullMatch (source : String) :
    (∀ item, parseItem source.toList = .ok item →
      ((∃ p, compile source = .ok p) ↔ ¬ EndsInComment source.toList ∧
        item.depth + 2 ≤ maxDepth ∧ item.expr.anchored.fits = true) ∧
      (EndsInComment source.toList → '#' ∈ source.toList) ∧
      ∀ p, compile source = .ok p → ∀ text : String,
        (p.isFullMatch text = true ↔
          item.expr.Matches text.toList.toArray 0 text.toList.toArray.size) ∧
        (p.captures text).isSome = p.isFullMatch text ∧
        ∀ groups, p.captures text = some groups → groups[0]? = some (some text)) ∧
    ∀ e, parseItem source.toList = .error e → ∀ p, compile source = .ok p → e = .unopenedGroup := by
  constructor
  · intro item hitem
    have hgroups : 0 ∉ item.expr.groups := numbered_of_parseItem hitem
    rcases parseItem_anchored hitem with ⟨hclosed, hwhole⟩ | ⟨hcomment, hmark, hnone⟩
    · have hcompile : ∀ p, compile source = .ok p ↔ item.depth + 2 ≤ maxDepth ∧
          item.expr.anchored.fits = true ∧ p = ⟨source, .ofExpr item.expr.anchored⟩ := by
        intro p
        simp [compile_eq_ok_iff, hwhole]
      refine ⟨?_, fun hcomment => absurd hcomment hclosed, ?_⟩
      · simp [hcompile, hclosed]
      · intro p hp text
        obtain ⟨-, -, rfl⟩ := (hcompile p).mp hp
        exact fullMatch_anchored hgroups source text
    · have hrefused : ∀ p, compile source ≠ .ok p := by
        intro p hp
        obtain ⟨whole, hwhole, -⟩ := compile_eq_ok_iff.mp hp
        exact hnone whole hwhole
      refine ⟨⟨?_, ?_⟩, fun _ => hmark, fun p hp => absurd hp (hrefused p)⟩
      · rintro ⟨p, hp⟩
        exact absurd hp (hrefused p)
      · rintro ⟨hclosed, -⟩
        exact absurd hcomment hclosed
  · intro e herror p hp
    obtain ⟨whole, hwhole, -⟩ := compile_eq_ok_iff.mp hp
    exact eq_unopenedGroup_of_parseItem herror hwhole

theorem compile_fullMatch_alternatives : ∃ p, compile "a|bc" = .ok p ∧
    p.isFullMatch "bc" = true ∧ p.isFullMatch "abc" = false := by
  have hitem : parseItem "a|bc".toList =
      .ok ⟨.alt (.literal ['a']) (.literal ['b', 'c']), 2, true⟩ := rfl
  have hfits : (Expr.alt (.literal ['a']) (.literal ['b', 'c'])).anchored.fits = true := by
    decide +kernel
  obtain ⟨haccept, hcomment, hmatch⟩ := (compile_fullMatch "a|bc").1 _ hitem
  have hclosed : ¬ EndsInComment "a|bc".toList := fun h => absurd (hcomment h) (by decide)
  obtain ⟨p, hp⟩ := haccept.mpr ⟨hclosed, by decide, hfits⟩
  refine ⟨p, hp, (hmatch p hp "bc").1.mpr ?_, Bool.eq_false_iff.mpr ?_⟩
  · exact .inr ⟨by decide, rfl⟩
  · rw [ne_eq, (hmatch p hp "abc").1]
    rintro (⟨-, hsize⟩ | ⟨hspelled, -⟩)
    · exact absurd hsize (by decide)
    · exact absurd hspelled (by decide)

/-- A group that is closed before another is opened leaves each anchor one alternative. -/
theorem compile_escaped : parse "a)|(b".toList = .error .unopenedGroup ∧
    ∃ p, compile "a)|(b" = .ok p ∧ p.isFullMatch "ax" = true := by
  refine ⟨by decide +kernel, ?_⟩
  have hmatch : (compile "a)|(b").toOption.map (·.isFullMatch "ax") = some true := by
    decide +kernel
  cases hcompile : compile "a)|(b" with
  | error e =>
    rw [hcompile] at hmatch
    cases hmatch
  | ok p =>
    rw [hcompile] at hmatch
    exact ⟨p, rfl, Option.some.inj hmatch⟩

end PathTiming.Pattern
