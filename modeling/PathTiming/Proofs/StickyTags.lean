import Mathlib.Data.List.Nodup
import PathTiming.Proofs.SegmentPartition

/-! What the class of a key says about the key. Classes depend on the keys before, and patterns may
overlap, but every class that a table declares is held by a key that its pattern matches. -/
namespace PathTiming

namespace Keyed
variable {κ α : Type} [DecidableEq κ] {t : Keyed κ α}

theorem mem_of_get? {key : κ} {value : α} (h : t.get? key = some value) :
    (key, value) ∈ t.entries := by
  obtain ⟨entry, hentry, rfl⟩ := Option.map_eq_some_iff.mp h
  have hkey : entry.1 = key := by simpa using List.find?_some hentry
  subst hkey
  exact List.mem_of_find?_eq_some hentry

/-- If no key occurs twice, the value of a key is the one it stands with. -/
theorem get?_eq_some_iff_mem (h : t.keys.Nodup) (key : κ) (value : α) :
    t.get? key = some value ↔ (key, value) ∈ t.entries := by
  refine ⟨mem_of_get?, fun hmem => ?_⟩
  have hkey : t.contains key = true :=
    (contains_iff_mem_keys t key).mpr (List.mem_map_of_mem (f := (·.1)) hmem)
  obtain ⟨other, hother⟩ := Option.isSome_iff_exists.mp hkey
  have heq : (key, other) = (key, value) :=
    List.inj_on_of_nodup_map h (mem_of_get? hother) hmem rfl
  rw [hother, (Prod.mk.inj heq).2]

theorem keys_insert (t : Keyed κ α) (key : κ) (value : α) :
    (t.insert key value).keys = if key ∈ t.keys then t.keys else t.keys ++ [key] :=
  keys_alter t key _

theorem nodup_keys_insert (h : t.keys.Nodup) (key : κ) (value : α) :
    (t.insert key value).keys.Nodup := by
  rw [keys_insert]
  split_ifs with hkey
  · exact h
  · exact List.nodup_append_comm.mp (List.nodup_cons.mpr ⟨hkey, h⟩)

end Keyed

namespace ClassTable
variable {table : ClassTable} {default : Option String} {key tag : String}

def Matches (table : ClassTable) (tag key : String) : Prop :=
  ∃ pattern, table.get? tag = some pattern ∧ pattern.isFullMatch key = true

/-- A class matches a key, and none that was declared before it does. -/
def IsFirstMatch (table : ClassTable) (tag key : String) : Prop :=
  ∃ before pattern after, table.entries = before ++ (tag, pattern) :: after ∧
    pattern.isFullMatch key = true ∧ ∀ entry ∈ before, entry.2.isFullMatch key = false

/-- The class of a key regardless of other keys: the first that matches, or else the default. -/
def Decides (table : ClassTable) (default : Option String) (key : String)
    (tag? : Option String) : Prop :=
  (∃ tag, tag? = some tag ∧ table.IsFirstMatch tag key) ∨
    tag? = default ∧ ∀ tag, ¬ table.Matches tag key

theorem firstMatch?_eq_some_iff : table.firstMatch? key = some tag ↔
    table.IsFirstMatch tag key := by
  unfold firstMatch? IsFirstMatch
  rw [Option.map_eq_some_iff]
  constructor
  · rintro ⟨⟨_, pattern⟩, hfind, rfl⟩
    obtain ⟨hmatch, before, after, hentries, hbefore⟩ := List.find?_eq_some_iff_append.mp hfind
    exact ⟨before, pattern, after, hentries, hmatch, fun e he => by simpa using hbefore e he⟩
  · rintro ⟨before, pattern, after, hentries, hmatch, hbefore⟩
    refine ⟨(tag, pattern), List.find?_eq_some_iff_append.mpr ?_, rfl⟩
    exact ⟨hmatch, before, after, hentries, fun e he => by simpa using hbefore e he⟩

theorem IsFirstMatch.matches (h : table.keys.Nodup) (hfirst : table.IsFirstMatch tag key) :
    table.Matches tag key := by
  obtain ⟨before, pattern, after, hentries, hmatch, -⟩ := hfirst
  refine ⟨pattern, (Keyed.get?_eq_some_iff_mem h tag pattern).mpr ?_, hmatch⟩
  rw [hentries]
  exact List.mem_append_right _ List.mem_cons_self

theorem not_matches_of_firstMatch?_eq_none (h : table.firstMatch? key = none) (tag : String) :
    ¬ table.Matches tag key := by
  rintro ⟨pattern, hget, hmatch⟩
  have hnone : table.entries.find? (fun entry => entry.2.isFullMatch key) = none :=
    Option.map_eq_none_iff.mp h
  exact List.find?_eq_none.mp hnone _ (Keyed.mem_of_get? hget) hmatch

theorem decides_firstMatch? (table : ClassTable) (default : Option String) (key : String) :
    table.Decides default key ((table.firstMatch? key).or default) := by
  cases hfirst : table.firstMatch? key with
  | some tag => exact .inl ⟨tag, rfl, firstMatch?_eq_some_iff.mp hfirst⟩
  | none => exact .inr ⟨rfl, not_matches_of_firstMatch?_eq_none hfirst⟩

end ClassTable

section
variable {table : ClassTable} {default current : Option String} {key : String}
  {keys : List String}

/-- A class is kept as long as it matches. Otherwise the class before does not matter. -/
theorem nextTag_cases (table : ClassTable) (default current : Option String) (key : String) :
    (∃ tag, current = some tag ∧ table.Matches tag key ∧
        nextTag table default current key = some tag) ∨
      (∀ tag ∈ current, ¬ table.Matches tag key) ∧
        nextTag table default current key = (table.firstMatch? key).or default := by
  unfold nextTag
  cases hpattern : current.bind table.get? with
  | none =>
    refine .inr ⟨?_, rfl⟩
    rintro tag htag ⟨pattern, hget, -⟩
    rw [Option.mem_def.mp htag, Option.bind_some, hget] at hpattern
    cases hpattern
  | some pattern =>
    obtain ⟨tag, rfl, hget⟩ := Option.bind_eq_some_iff.mp hpattern
    cases hmatch : pattern.isFullMatch key with
    | true => exact .inl ⟨tag, rfl, ⟨pattern, hget, hmatch⟩, by simp [hmatch]⟩
    | false =>
      refine .inr ⟨?_, by simp [hmatch]⟩
      rintro tag' htag ⟨pattern', hget', hmatch'⟩
      cases htag
      rw [hget, Option.some.injEq] at hget'
      rw [← hget', hmatch] at hmatch'
      cases hmatch'

/-- The class of each key comes from the class before it. -/
theorem exists_before_of_tagsFrom {i : Nat} {tag? : Option String} (hkey : keys[i]? = some key)
    (htag : (tagsFrom table default current keys)[i]? = some tag?) :
    ∃ before, (current :: tagsFrom table default current keys)[i]? = some before ∧
      tag? = nextTag table default before key := by
  induction keys generalizing current i with
  | nil => cases hkey
  | cons first keys ih =>
    cases i with
    | zero =>
      cases hkey
      cases htag
      exact ⟨current, rfl, rfl⟩
    | succ i => exact ih hkey htag

/-- Classes do not depend on the keys that follow. -/
theorem tagsFrom_prefix (later : List String) :
    tagsFrom table default current keys <+: tagsFrom table default current (keys ++ later) := by
  induction keys generalizing current with
  | nil => exact List.nil_prefix
  | cons key keys ih => exact List.cons_prefix_cons.mpr ⟨rfl, ih⟩

/-- Where no two classes match one key, the classes of other keys do not matter. -/
theorem tagsFrom_eq_map (h : table.keys.Nodup) (hone : ∀ key ∈ keys, ∀ tag tag',
      table.Matches tag key → table.Matches tag' key → tag = tag') :
    tagsFrom table default current keys =
      keys.map fun key => (table.firstMatch? key).or default := by
  induction keys generalizing current with
  | nil => rfl
  | cons key keys ih =>
    have hnext : nextTag table default current key = (table.firstMatch? key).or default := by
      obtain ⟨tag, -, hmatch, hkept⟩ | ⟨-, hnext⟩ := nextTag_cases table default current key
      · rw [hkept]
        cases hfirst : table.firstMatch? key with
        | none => exact absurd hmatch (ClassTable.not_matches_of_firstMatch?_eq_none hfirst tag)
        | some first =>
          have hmatch' := (ClassTable.firstMatch?_eq_some_iff.mp hfirst).matches h
          rw [hone key List.mem_cons_self tag first hmatch hmatch']
          rfl
      · exact hnext
    rw [tagsFrom, List.map_cons, ih fun key hkey => hone key (List.mem_cons_of_mem _ hkey), hnext]

/-- The class of a key matches the key, or no class does and the key has the default. -/
theorem matches_or_default_of_nextTag (h : table.keys.Nodup) {tag? : Option String}
    (htag : tag? = nextTag table default current key) :
    (∃ tag, tag? = some tag ∧ table.Matches tag key) ∨
      tag? = default ∧ ∀ tag, ¬ table.Matches tag key := by
  obtain ⟨tag, -, hmatch, hkept⟩ | ⟨-, hnext⟩ := nextTag_cases table default current key
  · exact .inl ⟨tag, htag.trans hkept, hmatch⟩
  · have hdecides := table.decides_firstMatch? default key
    rw [← hnext, ← htag] at hdecides
    exact hdecides.imp_left fun ⟨tag, heq, hfirst⟩ => ⟨tag, heq, hfirst.matches h⟩

end

/-- In a table that holds no class twice, as all tables that are made by insertions, every key has a
class that matches it, or the default if there is none. A class changes only at a key that it does
not match, and then to the first class that matches. Later keys do not matter, and without overlaps
earlier ones do not matter either. -/
theorem stickyTags_meaning {table : ClassTable} (h : table.keys.Nodup) (default : Option String)
    (keys : List String) :
    (stickyTags table default keys).length = keys.length ∧
    (∀ (i : Nat) (key : String) (tag? : Option String), keys[i]? = some key →
      (stickyTags table default keys)[i]? = some tag? →
        ((∃ tag, tag? = some tag ∧ table.Matches tag key) ∨
          tag? = default ∧ ∀ tag, ¬ table.Matches tag key) ∧
        (tag? = none ↔ default = none ∧ ∀ tag, ¬ table.Matches tag key)) ∧
    (∀ (i : Nat) (key : String) (before tag? : Option String), keys[i]? = some key →
      (default :: stickyTags table default keys)[i]? = some before →
      (stickyTags table default keys)[i]? = some tag? → tag? ≠ before →
        (∀ tag ∈ before, ¬ table.Matches tag key) ∧ table.Decides default key tag?) ∧
    (∀ later, stickyTags table default keys <+: stickyTags table default (keys ++ later)) ∧
    ((∀ key ∈ keys, ∀ tag tag', table.Matches tag key → table.Matches tag' key → tag = tag') →
      stickyTags table default keys = keys.map fun key => (table.firstMatch? key).or default) := by
  refine ⟨length_tagsFrom table default default keys, ?_, ?_, tagsFrom_prefix, tagsFrom_eq_map h⟩
  · intro i key tag? hkey htag
    obtain ⟨before, -, hnext⟩ := exists_before_of_tagsFrom hkey htag
    have hcases := matches_or_default_of_nextTag h hnext
    refine ⟨hcases, ?_⟩
    obtain ⟨tag, rfl, hmatch⟩ | ⟨rfl, hnone⟩ := hcases
    · exact ⟨fun hnil => (Option.some_ne_none tag hnil).elim,
        fun hnil => absurd hmatch (hnil.2 tag)⟩
    · exact ⟨fun hnil => ⟨hnil, hnone⟩, fun hnil => hnil.1⟩
  · intro i key before tag? hkey hbefore htag hne
    obtain ⟨before', hbefore', hnext⟩ := exists_before_of_tagsFrom hkey htag
    obtain rfl : before' = before := Option.some.inj (hbefore'.symm.trans hbefore)
    obtain ⟨tag, rfl, -, hkept⟩ | ⟨hleft, hfirst⟩ := nextTag_cases table default before' key
    · exact absurd (hnext.trans hkept) hne
    · refine ⟨hleft, ?_⟩
      rw [hnext, hfirst]
      exact table.decides_firstMatch? default key

/-- Two classes that overlap. The second one matches every key. -/
def overlapping (core any : Pattern) : ClassTable :=
  (({} : ClassTable).insert "CORE" core).insert "ANY" any

theorem stickyTags_meaning_overlapping :
    ∃ core any, (Pattern.compile "core/.*").toOption = some core ∧
      (Pattern.compile ".*").toOption = some any ∧
      (overlapping core any).keys.Nodup ∧
      stickyTags (overlapping core any) (some "LOST") ["io/a", "core/b"] =
        [some "ANY", some "ANY"] ∧
      (overlapping core any).Matches "ANY" "core/b" ∧
      ¬ (overlapping core any).Matches "LOST" "io/a" ∧
      (overlapping core any).Decides (some "LOST") "io/a" (some "ANY") := by
  have htags : ((Pattern.compile "core/.*").toOption.bind fun core =>
      (Pattern.compile ".*").toOption.map fun any =>
        stickyTags (overlapping core any) (some "LOST") ["io/a", "core/b"]) =
      some [some "ANY", some "ANY"] := by
    decide +kernel
  obtain ⟨core, hcore, htags⟩ := Option.bind_eq_some_iff.mp htags
  obtain ⟨any, hany, htags⟩ := Option.map_eq_some_iff.mp htags
  have hempty : ({} : ClassTable).keys.Nodup := List.nodup_nil
  have hkeys : (overlapping core any).keys.Nodup :=
    Keyed.nodup_keys_insert (Keyed.nodup_keys_insert hempty "CORE" core) "ANY" any
  obtain ⟨-, hmatches, hchanges, -⟩ :=
    stickyTags_meaning hkeys (some "LOST") ["io/a", "core/b"]
  rw [htags] at hmatches hchanges
  obtain ⟨⟨tag, htag, hmatch⟩ | ⟨hlost, -⟩, -⟩ := hmatches 1 "core/b" (some "ANY") rfl rfl
  · obtain ⟨hleft, hdecides⟩ :=
      hchanges 0 "io/a" (some "LOST") (some "ANY") rfl rfl rfl (by decide)
    cases htag
    exact ⟨core, any, hcore, hany, hkeys, htags, hmatch, hleft "LOST" rfl, hdecides⟩
  · exact absurd hlost (by decide)

end PathTiming
