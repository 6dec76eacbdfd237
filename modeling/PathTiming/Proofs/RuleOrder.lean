import PathTiming.Proofs.BlockStep
import PathTiming.Proofs.RuleLines

/-! Lines of a rules file with different keys may come in any order. -/
namespace PathTiming

def RuleEntry.key : RuleEntry → String
  | .toggle which _ => which.key
  | .barSet _ _ => "bds"
  | .clockType _ => "ckt"
  | .clockCells _ | .clockInstances _ | .clockPatterns _ => "ckp"
  | .clockOverride _ => "ckm"
  | .defaultClass _ => "dpc"
  | .pathClass _ _ => "pc"
  | .cellClass _ _ => "cc"
  | .drivePattern _ | .driveCell _ _ => "dc"
  | .holdCheck _ _ => "hcd"

namespace RuleEntry

/-- The key of a line with a single colon, whether it is the key of a rule or not. -/
def keyOf? (line : String) : Option String :=
  match Text.splitOn ':' (content line.toList) with
  | [key, _] => some (String.ofList (Text.trim key))
  | _ => none

section
variable {words : List String} {entry : RuleEntry}

theorem key_of_readClockType (h : readClockType words = .ok entry) : entry.key = "ckt" := by
  unfold readClockType at h
  split at h
  · obtain ⟨pattern, -, h⟩ := ok_of_bind h
    split at h <;> cases h <;> rfl
  · cases h

theorem key_of_readClockPins (h : readClockPins words = .ok entry) : entry.key = "ckp" := by
  unfold readClockPins at h
  split at h
  · cases h
  · cases h
    rfl
  · cases h
    rfl
  · obtain ⟨patterns, -, h⟩ := ok_of_bind h
    cases h
    rfl
  · cases h

theorem key_of_readClass {key : String} {make : String → Pattern → RuleEntry}
    (hmake : ∀ tag pattern, (make tag pattern).key = key)
    (h : readClass key make words = .ok entry) : entry.key = key := by
  unfold readClass at h
  split at h
  · obtain ⟨pattern, -, h⟩ := ok_of_bind h
    cases h
    exact hmake _ pattern
  · cases h

theorem key_of_readDrive (h : readDrive words = .ok entry) : entry.key = "dc" := by
  unfold readDrive at h
  split at h
  · split at h
    · obtain ⟨pattern, -, h⟩ := ok_of_bind h
      cases h
      rfl
    · split at h <;> cases h
      rfl
  · cases h

theorem key_of_readHoldCheck {value : List Char} (h : readHoldCheck value = .ok entry) :
    entry.key = "hcd" := by
  unfold readHoldCheck at h
  split at h
  · cases h
  · split at h <;> cases h <;> rfl

end

theorem key_of_ofKeyValue {key : String} {value : List Char} {entry : RuleEntry}
    (h : ofKeyValue key value = .ok entry) : entry.key = key := by
  unfold ofKeyValue at h
  cases htoggle : Toggle.ofKey? key with
  | some t =>
    rw [htoggle] at h
    obtain rfl := Except.ok.inj h
    have hkey := List.find?_some htoggle
    simpa [RuleEntry.key] using hkey
  | none =>
    rw [htoggle] at h
    dsimp only at h
    -- one case for each key, and a last one for the keys that are unknown
    split at h
    · split at h <;> cases h
      rfl
    · exact key_of_readClockType h
    · exact key_of_readClockPins h
    · split at h
      · cases h
      · obtain ⟨pattern, -, rfl⟩ := ok_of_map h
        rfl
    · cases h
      rfl
    · exact key_of_readClass (fun _ _ => rfl) h
    · exact key_of_readClass (fun _ _ => rfl) h
    · exact key_of_readDrive h
    · exact key_of_readHoldCheck h
    · cases h

theorem keyOf?_of_ofLine? {line : String} {entry : RuleEntry}
    (h : ofLine? line = .ok (some entry)) : keyOf? line = some entry.key := by
  unfold ofLine? at h
  unfold keyOf? content
  dsimp only at h
  generalize Text.splitOn ':' (Text.trim (line.toList.takeWhile (· != '#'))) = pieces at h ⊢
  split at h
  · cases h
  · split at h
    · obtain ⟨entry', hentry, h⟩ := ok_of_map h
      obtain rfl := Option.some.inj h
      exact congrArg some (key_of_ofKeyValue hentry).symm
    · cases h

end RuleEntry

theorem Toggles.set_comm {t u : Toggle} (h : t ≠ u) (ts : Toggles) (a b : Bool) :
    (ts.set t a).set u b = (ts.set u b).set t a := by
  unfold set
  congr 1
  funext v
  by_cases hu : v = u
  · subst hu
    simp [Ne.symm h]
  · simp [hu]

namespace RuleSet

/-- Rules with different keys do not touch the same entry of a table. -/
theorem add_add_comm (r : RuleSet) {a b : RuleEntry} (h : a.key ≠ b.key) :
    (r.add a).add b = (r.add b).add a := by
  cases a with
  | toggle t x =>
    cases b with
    | toggle u y =>
      -- all switches are in one table, so that the keys must tell them apart
      have htu : t ≠ u := fun he => h (congrArg Toggle.key he)
      simp only [add, Toggles.set_comm htu]
    | _ => rfl
  | _ => cases b <;> first | rfl | exact absurd rfl h

end RuleSet

/-! ### Steps that commute -/

section
variable {σ α κ : Type} {step : σ → α → σ} {key : α → κ}

theorem foldl_step_comm (hstep : ∀ s a b, key a ≠ key b → step (step s a) b = step (step s b) a)
    {a : α} {others : List α} (h : ∀ b ∈ others, key b ≠ key a) (s : σ) :
    others.foldl step (step s a) = step (others.foldl step s) a := by
  induction others generalizing s with
  | nil => rfl
  | cons b others ih =>
    have hb : key b ≠ key a := h b List.mem_cons_self
    have hothers : ∀ c ∈ others, key c ≠ key a := fun c hc => h c (List.mem_cons_of_mem b hc)
    calc others.foldl step (step (step s a) b)
        = others.foldl step (step (step s b) a) := by rw [hstep s a b (Ne.symm hb)]
      _ = step (others.foldl step (step s b)) a := ih hothers (step s b)

/-- Only the order of the steps with one key counts. -/
theorem foldl_eq_of_filter_eq [DecidableEq κ]
    (hstep : ∀ s a b, key a ≠ key b → step (step s a) b = step (step s b) a) {xs ys : List α}
    (h : ∀ k, xs.filter (key · = k) = ys.filter (key · = k)) (s : σ) :
    xs.foldl step s = ys.foldl step s := by
  induction xs generalizing ys s with
  | nil =>
    have hys : ys = [] := List.eq_nil_iff_forall_not_mem.mpr fun y hy => by
      have hmem : y ∈ ys.filter (key · = key y) := List.mem_filter.mpr ⟨hy, by simp⟩
      rw [← h] at hmem
      exact absurd hmem List.not_mem_nil
    rw [hys]
  | cons x xs ih =>
    -- the first step with the key of `x` in the other list is `x`, and can be made first there
    have hx : ys.filter (key · = key x) = x :: xs.filter (key · = key x) := by
      rw [← h, List.filter_cons_of_pos (by simp)]
    obtain ⟨before, after, rfl, hbefore, -, hafter⟩ := List.filter_eq_cons_iff.mp hx
    have hne : ∀ y ∈ before, key y ≠ key x := by simpa using hbefore
    have hrest : ∀ k, xs.filter (key · = k) = (before ++ after).filter (key · = k) := by
      intro k
      by_cases hk : key x = k
      · subst hk
        have hnone : before.filter (key · = key x) = [] := List.filter_eq_nil_iff.mpr hbefore
        rw [List.filter_append, hnone, hafter, List.nil_append]
      · have hall := h k
        rw [List.filter_cons_of_neg (by simp [hk]), List.filter_append,
          List.filter_cons_of_neg (by simp [hk]), ← List.filter_append] at hall
        exact hall
    rw [List.foldl_cons, ih hrest, List.foldl_append, List.foldl_append,
      foldl_step_comm hstep hne, List.foldl_cons]

end

namespace RuleSet
open RuleEntry (entryOf? keyOf?)

def lastDefault (last : Option String) : RuleEntry → Option String
  | .defaultClass tag => some tag
  | _ => last

theorem lastDefault_comm (last : Option String) {a b : RuleEntry} (h : a.key ≠ b.key) :
    lastDefault (lastDefault last a) b = lastDefault (lastDefault last b) a := by
  cases a with
  | defaultClass tag =>
    cases b with
    | defaultClass tag' => exact absurd rfl h
    | _ => rfl
  | _ => cases b <;> rfl

theorem requestedDefault?_tag (entries : List (Nat × RuleEntry)) :
    (requestedDefault? entries).map (·.2) = (entries.map (·.2)).foldl lastDefault none := by
  unfold requestedDefault?
  rw [List.foldl_map]
  change _ = List.foldl _ ((none : Option (Nat × String)).map Prod.snd) entries
  refine (List.foldl_hom (Option.map Prod.snd) ?_).symm
  rintro last ⟨n, entry⟩
  cases entry <;> rfl

/-- Both outcomes are failures, or they have the same rules, and the same warnings but for the
lines. -/
inductive Agree : Except RulesError (RuleSet × List Diagnostic) →
    Except RulesError (RuleSet × List Diagnostic) → Prop
  | error (e e' : RulesError) : Agree (.error e) (.error e')
  | ok (rules : RuleSet) {warnings warnings' : List Diagnostic}
      (h : warnings.map (·.renumber fun _ => 0) = warnings'.map (·.renumber fun _ => 0)) :
      Agree (.ok (rules, warnings)) (.ok (rules, warnings'))

theorem ofEntries_agree {entries others : List (Nat × RuleEntry)} (file : FileId)
    (h : ∀ k, (entries.map (·.2)).filter (·.key = k) = (others.map (·.2)).filter (·.key = k)) :
    Agree (.ok (ofEntries file entries)) (.ok (ofEntries file others)) := by
  have hrules : (entries.map (·.2)).foldl add {} = (others.map (·.2)).foldl add {} :=
    foldl_eq_of_filter_eq (fun r _ _ => add_add_comm r) h {}
  have htag : (requestedDefault? entries).map (·.2) = (requestedDefault? others).map (·.2) := by
    rw [requestedDefault?_tag, requestedDefault?_tag]
    exact foldl_eq_of_filter_eq (fun last _ _ => lastDefault_comm last) h none
  unfold ofEntries
  rw [hrules]
  cases hentries : requestedDefault? entries with
  | none =>
    rw [hentries, Option.map_none, eq_comm, Option.map_eq_none_iff] at htag
    rw [htag]
    exact .ok _ rfl
  | some requested =>
    obtain ⟨n, tag⟩ := requested
    rw [hentries, Option.map_some, eq_comm, Option.map_eq_some_iff] at htag
    obtain ⟨⟨n', tag'⟩, hothers, rfl⟩ := htag
    rw [hothers]
    dsimp only
    split <;> exact .ok _ rfl

theorem filter_filterMap_entryOf? (lines : List String) (k : String) :
    (lines.filterMap entryOf?).filter (·.key = k) =
      (lines.filter (keyOf? · = some k)).filterMap entryOf? := by
  rw [List.filter_filterMap, List.filterMap_filter]
  apply List.filterMap_congr
  intro line _
  cases hentry : entryOf? line with
  | none => simp
  | some entry =>
    rw [RuleEntry.keyOf?_of_ofLine? (RuleEntry.entryOf?_eq_some_iff.mp hentry)]
    by_cases hk : entry.key = k <;> simp [hk, Option.filter]

theorem map_snd_filterMap_entryAt? (first : Nat) (lines : List String) :
    ((numbered first lines).filterMap entryAt?).map (·.2) = lines.filterMap entryOf? := by
  conv_rhs => rw [← map_snd_numbered first lines, List.filterMap_map]
  rw [List.map_filterMap]
  refine congrArg (List.filterMap · _) (funext fun line => ?_)
  rw [entryAt?, Option.map_map]
  exact Option.map_id'

theorem ofFile_of_no_error {file : SourceFile} (h : ¬ ∃ e, ofFile file = .error e) :
    ofFile file = .ok (ofEntries file.id ((numbered 1 file.lines).filterMap entryAt?)) := by
  rw [ofFile_eq] at h ⊢
  unfold ofLines at h ⊢
  split at h
  · exact absurd ⟨_, rfl⟩ h
  · rfl

/-- Only the order of the lines with one key counts. -/
theorem ofFile_reorder {f g : SourceFile} (hid : f.id = g.id) (hperm : f.lines.Perm g.lines)
    (hkeys : ∀ k, f.lines.filter (keyOf? · = some k) = g.lines.filter (keyOf? · = some k)) :
    Agree (ofFile f) (ofFile g) := by
  have hfaults : (∃ e, ofFile f = .error e) ↔ ∃ e, ofFile g = .error e := by
    rw [ofFile_eq, ofFile_eq, exists_ofLines_eq_error_iff, exists_ofLines_eq_error_iff]
    exact exists_congr fun line => and_congr_left' hperm.mem_iff
  by_cases hf : ∃ e, ofFile f = .error e
  · obtain ⟨e', hg⟩ := hfaults.mp hf
    obtain ⟨e, hf⟩ := hf
    rw [hf, hg]
    exact .error e e'
  · -- the numbers of the lines have changed, but neither the rules nor the tag depend on them
    have hg : ¬ ∃ e, ofFile g = .error e := fun hg => hf (hfaults.mpr hg)
    rw [ofFile_of_no_error hf, ofFile_of_no_error hg, hid]
    apply ofEntries_agree
    intro k
    rw [map_snd_filterMap_entryAt?, map_snd_filterMap_entryAt?, filter_filterMap_entryOf?,
      filter_filterMap_entryOf?, hkeys]

theorem ofFile_move {f g : SourceFile} (hid : f.id = g.id) {before block after : List String}
    {line key : String} (hf : f.lines = before ++ line :: block ++ after)
    (hg : g.lines = before ++ block ++ line :: after) (hline : keyOf? line = some key)
    (hblock : ∀ other ∈ block, keyOf? other ≠ some key) : Agree (ofFile f) (ofFile g) := by
  apply ofFile_reorder hid
  · have hmove : (line :: (block ++ after)).Perm (block ++ line :: after) := List.perm_middle.symm
    simpa [hf, hg] using hmove.append_left before
  · intro k
    by_cases hk : key = k
    · subst hk
      have hnone : block.filter (keyOf? · = some key) = [] := by
        rw [List.filter_eq_nil_iff]
        simpa using hblock
      simp [hf, hg, hline, hnone]
    · simp [hf, hg, hline, hk]

/-- If no two lines have one key, there is no order to keep. -/
theorem filter_eq_of_perm {lines others : List String} (hperm : lines.Perm others)
    (hkeys : lines.Pairwise (keyOf? · ≠ keyOf? ·)) (k : String) :
    lines.filter (keyOf? · = some k) = others.filter (keyOf? · = some k) := by
  have hfiltered := hperm.filter (keyOf? · = some k)
  have hpairwise := hkeys.filter (keyOf? · = some k)
  have hmem : ∀ line ∈ lines.filter (keyOf? · = some k), keyOf? line = some k := by simp
  cases hlines : lines.filter (keyOf? · = some k) with
  | nil =>
    rw [hlines] at hfiltered
    exact hfiltered.nil_eq
  | cons line rest =>
    rw [hlines] at hfiltered hpairwise hmem
    cases rest with
    | nil => exact hfiltered.singleton_eq
    | cons next rest =>
      have hne := (List.pairwise_cons.mp hpairwise).1 next List.mem_cons_self
      exact absurd ((hmem line (by simp)).trans (hmem next (by simp)).symm) hne

/-- Two neighbouring lines with different keys may change places. So a default class may be asked
for before or behind the classes, and lines that have keys of their own may come in any order. -/
theorem ofFile_swap (f g : SourceFile) (hid : f.id = g.id) :
    (∀ before line other after key otherKey, f.lines = before ++ line :: other :: after →
        g.lines = before ++ other :: line :: after → keyOf? line = some key →
        keyOf? other = some otherKey → key ≠ otherKey → Agree (ofFile f) (ofFile g)) ∧
      (∀ before line block after, f.lines = before ++ line :: block ++ after →
        g.lines = before ++ block ++ line :: after → keyOf? line = some "dpc" →
        (∀ other ∈ block, keyOf? other ≠ some "dpc") → Agree (ofFile f) (ofFile g)) ∧
      (∀ before block others after, f.lines = before ++ block ++ after →
        g.lines = before ++ others ++ after → block.Perm others →
        block.Pairwise (keyOf? · ≠ keyOf? ·) → Agree (ofFile f) (ofFile g)) := by
  refine ⟨?_, fun before line block after hf hg => ofFile_move hid hf hg, ?_⟩
  · intro before line other after key otherKey hf hg hline hother hne
    have hblock : ∀ l ∈ [other], keyOf? l ≠ some key := by
      rintro l hl
      rw [List.mem_singleton.mp hl, hother]
      exact fun he => hne (Option.some.inj he).symm
    exact ofFile_move hid (by simpa using hf) (by simpa using hg) hline hblock
  · intro before block others after hf hg hperm hkeys
    apply ofFile_reorder hid
    · rw [hf, hg]
      exact (hperm.append_left before).append_right after
    · intro k
      simp only [hf, hg, List.filter_append, filter_eq_of_perm hperm hkeys k]

theorem ofFile_swap_defaultBeforeClass :
    (∃ rules, ofFile (firstRules "pc: A a\ndpc: A\n") = .ok (rules, []) ∧
        ofFile (firstRules "dpc: A\npc: A a\n") = .ok (rules, []) ∧
        rules.defaultClass = some "A") ∧
      Agree (ofFile (firstRules "ckm: B\nckt: y C\nckm_with_non_clock_cell: true\n"))
        (ofFile (firstRules "ckm_with_non_clock_cell: true\nckt: y C\nckm: B\n")) := by
  have hid : ∀ text other, (firstRules text).id = (firstRules other).id := fun _ _ => rfl
  have hclass : ((ofFile (firstRules "pc: A a\ndpc: A\n")).toOption.map fun outcome =>
      (outcome.1.defaultClass, outcome.2)) = some (some "A", []) := by
    decide +kernel
  have hswap := (ofFile_swap (firstRules "pc: A a\ndpc: A\n") (firstRules "dpc: A\npc: A a\n")
    (hid _ _)).1 [] "pc: A a" "dpc: A" [] "pc" "dpc" (by decide +kernel) (by decide +kernel)
    (by decide +kernel) (by decide +kernel) (by decide)
  have hclock : Agree (ofFile (firstRules "ckm: B\nckt: y C\nckm_with_non_clock_cell: true\n"))
      (ofFile (firstRules "ckm_with_non_clock_cell: true\nckt: y C\nckm: B\n")) := by
    obtain ⟨-, -, hany⟩ := ofFile_swap
      (firstRules "ckm: B\nckt: y C\nckm_with_non_clock_cell: true\n")
      (firstRules "ckm_with_non_clock_cell: true\nckt: y C\nckm: B\n") (hid _ _)
    refine hany [] ["ckm: B", "ckt: y C", "ckm_with_non_clock_cell: true"]
      ["ckm_with_non_clock_cell: true", "ckt: y C", "ckm: B"] [] ?_ ?_ ?_ ?_
    · decide +kernel
    · decide +kernel
    · decide +kernel
    · decide +kernel
  refine ⟨?_, hclock⟩
  cases hf : ofFile (firstRules "pc: A a\ndpc: A\n") with
  | error e =>
    rw [hf] at hclass
    cases hclass
  | ok outcome =>
    rw [hf] at hclass hswap
    obtain ⟨rules, warnings⟩ := outcome
    obtain ⟨hdefault, rfl⟩ := Prod.mk.inj (Option.some.inj hclass)
    generalize ofFile (firstRules "dpc: A\npc: A a\n") = moved at hswap
    cases hswap with
    | ok _ hwarnings =>
      have hnone := List.map_eq_nil_iff.mp hwarnings.symm
      exact ⟨rules, rfl, by rw [hnone], hdefault⟩

end RuleSet

end PathTiming
