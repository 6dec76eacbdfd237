import PathTiming.Proofs.RuleOrder
import PathTiming.Proofs.SegmentPartition

/-! The default class of a rules file is a class that the file declares. A request for any other
class is dropped, and this is the only thing that a rules file is warned about. -/
namespace PathTiming

namespace RuleEntry

/-- What stands behind the key of a line, without the blanks around it. -/
def valueOf? (line : String) : Option String :=
  match Text.splitOn ':' (content line.toList) with
  | [_, value] => some (String.ofList (Text.trim value))
  | _ => none

theorem exists_pieces_of_keyOf? {line key : String} (h : keyOf? line = some key) :
    ∃ k v, Text.splitOn ':' (content line.toList) = [k, v] ∧ String.ofList (Text.trim k) = key := by
  unfold keyOf? at h
  rcases hpieces : Text.splitOn ':' (content line.toList) with _ | ⟨k, _ | ⟨v, _ | ⟨w, rest⟩⟩⟩
  · rw [hpieces] at h
    cases h
  · rw [hpieces] at h
    cases h
  · rw [hpieces] at h
    exact ⟨k, v, rfl, Option.some.inj h⟩
  · rw [hpieces] at h
    cases h

theorem exists_valueOf? {line key : String} (h : keyOf? line = some key) :
    ∃ value, valueOf? line = some value := by
  obtain ⟨k, v, hpieces, -⟩ := exists_pieces_of_keyOf? h
  unfold valueOf?
  rw [hpieces]
  exact ⟨_, rfl⟩

theorem ofLine?_of_keyOf? {line key value : String} (hkey : keyOf? line = some key)
    (hvalue : valueOf? line = some value) :
    ofLine? line = (ofKeyValue key value.toList).map some := by
  obtain ⟨k, v, hpieces, rfl⟩ := exists_pieces_of_keyOf? hkey
  have hfull : (content line.toList).isEmpty = false := by
    rw [List.isEmpty_eq_false_iff]
    intro hnil
    rw [hnil] at hpieces
    cases hpieces
  unfold valueOf? at hvalue
  rw [hpieces] at hvalue
  cases hvalue
  unfold content at hpieces hfull
  unfold ofLine?
  dsimp only
  rw [hfull, if_neg Bool.false_ne_true, hpieces, String.toList_ofList]

def requested? : RuleEntry → Option String
  | .defaultClass tag => some tag
  | _ => none

def declared? : RuleEntry → Option String
  | .pathClass tag _ => some tag
  | _ => none

theorem ofLine?_of_request {line tag : String} (hkey : keyOf? line = some "dpc")
    (hvalue : valueOf? line = some tag) : ofLine? line = .ok (some (.defaultClass tag)) := by
  have htag : ofKeyValue "dpc" tag.toList = .ok (.defaultClass (String.ofList tag.toList)) := rfl
  rw [ofLine?_of_keyOf? hkey hvalue, htag, String.ofList_toList]
  rfl

/-- A line asks for a default class if its key says so. -/
theorem bind_requested?_eq_some_iff (line tag : String) :
    (entryOf? line).bind requested? = some tag ↔
      keyOf? line = some "dpc" ∧ valueOf? line = some tag := by
  constructor
  · intro h
    obtain ⟨entry, hentry, htag⟩ := Option.bind_eq_some_iff.mp h
    have hline := entryOf?_eq_some_iff.mp hentry
    cases entry with
    | defaultClass asked =>
      cases htag
      have hkey : keyOf? line = some "dpc" := keyOf?_of_ofLine? hline
      obtain ⟨value, hvalue⟩ := exists_valueOf? hkey
      rw [ofLine?_of_request hkey hvalue] at hline
      cases hline
      exact ⟨hkey, hvalue⟩
    | _ => cases htag
  · rintro ⟨hkey, hvalue⟩
    rw [entryOf?_eq_some_iff.mpr (ofLine?_of_request hkey hvalue)]
    rfl

theorem bind_requested?_eq_none_iff (line : String) :
    (entryOf? line).bind requested? = none ↔ keyOf? line ≠ some "dpc" := by
  constructor
  · intro h hkey
    obtain ⟨value, hvalue⟩ := exists_valueOf? hkey
    rw [(bind_requested?_eq_some_iff line value).mpr ⟨hkey, hvalue⟩] at h
    cases h
  · intro h
    cases hrequest : (entryOf? line).bind requested? with
    | none => rfl
    | some tag => exact absurd ((bind_requested?_eq_some_iff line tag).mp hrequest).1 h

theorem words_of_readClass {key : String} {make : String → Pattern → RuleEntry}
    {words : List String} {entry : RuleEntry} (h : readClass key make words = .ok entry) :
    ∃ tag source pattern, words = [tag, source] ∧ entry = make tag pattern := by
  unfold readClass at h
  split at h
  · obtain ⟨pattern, -, h⟩ := ok_of_bind h
    cases h
    exact ⟨_, _, pattern, rfl, rfl⟩
  · cases h

/-- A line of a rule for a class of pins names the class and a pattern. -/
def Declares (line tag : String) : Prop :=
  keyOf? line = some "pc" ∧ ∃ value source, valueOf? line = some value ∧
    (Text.words value.toList).map String.ofList = [tag, source]

theorem bind_declared?_eq_some_iff {line : String} (hok : faultOf? line = none) (tag : String) :
    (entryOf? line).bind declared? = some tag ↔ Declares line tag := by
  have hread : ∀ value : String, ofKeyValue "pc" value.toList =
      readClass "pc" .pathClass ((Text.words value.toList).map String.ofList) := fun _ => rfl
  constructor
  · intro h
    obtain ⟨entry, hentry, htag⟩ := Option.bind_eq_some_iff.mp h
    have hline := entryOf?_eq_some_iff.mp hentry
    cases entry with
    | pathClass declared pattern =>
      cases htag
      have hkey : keyOf? line = some "pc" := keyOf?_of_ofLine? hline
      obtain ⟨value, hvalue⟩ := exists_valueOf? hkey
      rw [ofLine?_of_keyOf? hkey hvalue, hread] at hline
      obtain ⟨entry, hclass, hentry⟩ := ok_of_map hline
      obtain ⟨tag, source, _, hwords, rfl⟩ := words_of_readClass hclass
      cases hentry
      exact ⟨hkey, value, source, hvalue, hwords⟩
    | _ => cases htag
  · rintro ⟨hkey, value, source, hvalue, hwords⟩
    have hline := ofLine?_of_keyOf? hkey hvalue
    rw [hread, hwords] at hline
    cases hclass : readClass "pc" .pathClass [tag, source] with
    | error cause =>
      rw [hclass] at hline
      simp [faultOf?, hline, Except.map] at hok
    | ok entry =>
      obtain ⟨_, _, pattern, hpair, rfl⟩ := words_of_readClass hclass
      cases hpair
      rw [hclass] at hline
      rw [entryOf?_eq_some_iff.mpr hline]
      rfl

end RuleEntry

/-- The last of the numbered lines that give a value is followed by lines that give none. -/
theorem getLast?_filterMap_numbered {α : Type} (f : String → Option α) (first : Nat)
    (lines : List String) (n : Nat) (a : α) :
    ((numbered first lines).filterMap fun l => (f l.2).map (l.1, ·)).getLast? = some (n, a) ↔
      ∃ before line after, lines = before ++ line :: after ∧ n = first + before.length ∧
        f line = some a ∧ ∀ later ∈ after, f later = none := by
  rw [getLast?_filterMap_eq_some]
  constructor
  · rintro ⟨before, ⟨m, line⟩, after, hlines, hline, hafter⟩
    obtain ⟨value, hvalue, hpair⟩ := Option.map_eq_some_iff.mp hline
    cases hpair
    rw [List.append_cons] at hlines
    have hnumber : [(m, line)] = numbered (first + before.length) [line] :=
      eq_numbered_of_append hlines
    have htexts := congrArg (List.map Prod.snd) hlines
    rw [map_snd_numbered, List.map_append, List.map_append, List.append_assoc] at htexts
    refine ⟨before.map (·.2), line, after.map (·.2), htexts, ?_, hvalue, ?_⟩
    · rw [List.length_map]
      simpa [numbered] using hnumber
    · intro later hlater
      obtain ⟨l, hl, rfl⟩ := List.mem_map.mp hlater
      exact Option.map_eq_none_iff.mp (hafter l hl)
  · rintro ⟨before, line, after, rfl, rfl, hline, hafter⟩
    refine ⟨numbered first before, (first + before.length, line),
      numbered (first + before.length + 1) after, ?_, ?_, ?_⟩
    · rw [numbered_append, numbered]
    · rw [hline]
      rfl
    · intro l hl
      rw [hafter l.2 (mem_of_mem_numbered hl)]
      rfl

namespace RuleSet
open RuleEntry (entryOf? faultOf? keyOf? valueOf? Declares)

/-- The line `n` is the last one that asks for a default class, and `tag` is what it asks for. -/
def LastRequest (f : SourceFile) (n : Nat) (tag : String) : Prop :=
  ∃ before line after, f.lines = before ++ line :: after ∧ n = before.length + 1 ∧
    keyOf? line = some "dpc" ∧ valueOf? line = some tag ∧
    ∀ later ∈ after, keyOf? later ≠ some "dpc"

theorem foldl_request (entries : List (Nat × RuleEntry)) (last : Option (Nat × String)) :
    entries.foldl (fun last (n, entry) =>
        match entry with
        | .defaultClass tag => some (n, tag)
        | _ => last) last =
      (entries.filterMap fun e => e.2.requested?.map (e.1, ·)).getLast?.or last := by
  induction entries generalizing last with
  | nil => rfl
  | cons entry entries ih =>
    obtain ⟨n, entry⟩ := entry
    rw [List.foldl_cons, ih]
    cases entry with
    | defaultClass tag => simp [RuleEntry.requested?, List.getLast?_cons, Option.or_some]
    | _ => rfl

theorem requestedDefault?_entries (lines : List (Nat × String)) :
    requestedDefault? (lines.filterMap entryAt?) =
      (lines.filterMap fun l =>
        ((entryOf? l.2).bind RuleEntry.requested?).map (l.1, ·)).getLast? := by
  have hlast : requestedDefault? (lines.filterMap entryAt?) = _ :=
    foldl_request (lines.filterMap entryAt?) none
  rw [hlast, Option.or_none, List.filterMap_filterMap]
  congr 2
  funext l
  unfold entryAt?
  cases entryOf? l.2 <;> rfl

theorem requestedDefault?_eq_some_iff (f : SourceFile) (n : Nat) (tag : String) :
    requestedDefault? ((numbered 1 f.lines).filterMap entryAt?) = some (n, tag) ↔
      LastRequest f n tag := by
  rw [requestedDefault?_entries,
    getLast?_filterMap_numbered fun line => (entryOf? line).bind RuleEntry.requested?]
  simp only [RuleEntry.bind_requested?_eq_some_iff, RuleEntry.bind_requested?_eq_none_iff,
    and_assoc, Nat.add_comm 1]
  rfl

theorem mem_keys_add (r : RuleSet) (entry : RuleEntry) (tag : String) :
    tag ∈ (r.add entry).pathClasses.keys ↔
      entry.declared? = some tag ∨ tag ∈ r.pathClasses.keys := by
  cases entry with
  | pathClass declared pattern =>
    have hinsert : (r.add (.pathClass declared pattern)).pathClasses =
      r.pathClasses.insert declared pattern := rfl
    rw [hinsert, ← Keyed.contains_iff_mem_keys, ← Keyed.contains_iff_mem_keys, Keyed.contains,
      Keyed.contains, Keyed.get?_insert]
    by_cases hd : declared = tag <;> simp [RuleEntry.declared?, hd]
  | _ => exact (or_iff_right (by simp [RuleEntry.declared?])).symm

theorem mem_keys_foldl_add (entries : List RuleEntry) (r : RuleSet) (tag : String) :
    tag ∈ (entries.foldl add r).pathClasses.keys ↔
      (∃ entry ∈ entries, entry.declared? = some tag) ∨ tag ∈ r.pathClasses.keys := by
  induction entries generalizing r with
  | nil => simp
  | cons entry entries ih =>
    rw [List.foldl_cons, ih, mem_keys_add, List.exists_mem_cons_iff, ← or_assoc]
    exact or_congr_left or_comm

/-- The classes of the rules are those that some line declares. -/
theorem mem_keys_rules_iff {lines : List String} (hok : ∀ line ∈ lines, faultOf? line = none)
    (tag : String) : tag ∈ ((lines.filterMap entryOf?).foldl add {}).pathClasses.keys ↔
      ∃ line ∈ lines, Declares line tag := by
  have hempty : tag ∉ ({} : RuleSet).pathClasses.keys := List.not_mem_nil
  rw [mem_keys_foldl_add, or_iff_left hempty]
  constructor
  · rintro ⟨entry, hentry, htag⟩
    obtain ⟨line, hline, hentry⟩ := List.mem_filterMap.mp hentry
    refine ⟨line, hline, (RuleEntry.bind_declared?_eq_some_iff (hok line hline) tag).mp ?_⟩
    rw [hentry]
    exact htag
  · rintro ⟨line, hline, htag⟩
    obtain ⟨entry, hentry, htag⟩ := Option.bind_eq_some_iff.mp
      ((RuleEntry.bind_declared?_eq_some_iff (hok line hline) tag).mpr htag)
    exact ⟨entry, List.mem_filterMap.mpr ⟨line, hline, hentry⟩, htag⟩

theorem defaultClass_foldl_add (entries : List RuleEntry) (r : RuleSet) :
    (entries.foldl add r).defaultClass = r.defaultClass := by
  induction entries generalizing r with
  | nil => rfl
  | cons entry entries ih =>
    rw [List.foldl_cons, ih]
    cases entry <;> rfl

/-- What becomes of the last request for a default class. -/
inductive DefaultResolved (f : SourceFile) (rules : RuleSet) : List Diagnostic → Prop
  | unasked (hnone : ∀ n tag, ¬ LastRequest f n tag) (hdefault : rules.defaultClass = none) :
      DefaultResolved f rules []
  | declared {n : Nat} {tag : String} (hlast : LastRequest f n tag)
      (hmem : tag ∈ rules.pathClasses.keys) (hdefault : rules.defaultClass = some tag) :
      DefaultResolved f rules []
  | dropped {n : Nat} {tag : String} (hlast : LastRequest f n tag)
      (hmem : tag ∉ rules.pathClasses.keys) (hdefault : rules.defaultClass = none) :
      DefaultResolved f rules [droppedDefaultWarning (f.location n) tag]

section
variable {f : SourceFile} {rules : RuleSet} {warnings : List Diagnostic}

theorem lastRequest_unique {n m : Nat} {tag other : String} (h : LastRequest f n tag)
    (h' : LastRequest f m other) : n = m ∧ tag = other := by
  rw [← requestedDefault?_eq_some_iff] at h h'
  rw [h] at h'
  cases h'
  exact ⟨rfl, rfl⟩

theorem faultOf?_of_ofFile (h : ofFile f = .ok (rules, warnings)) :
    ∀ line ∈ f.lines, faultOf? line = none := by
  intro line hline
  cases hfault : faultOf? line with
  | none => rfl
  | some cause =>
    have hfails : ∃ e, ofLines f.id (numbered 1 f.lines) = .error e :=
      (exists_ofLines_eq_error_iff f.id 1 f.lines).mpr ⟨line, hline, by rw [hfault]; rfl⟩
    obtain ⟨e, he⟩ := hfails
    rw [← ofFile_eq, h] at he
    cases he

theorem ofEntries_of_ofFile (h : ofFile f = .ok (rules, warnings)) :
    ofEntries f.id ((numbered 1 f.lines).filterMap entryAt?) = (rules, warnings) := by
  have hno : ¬ ∃ e, ofFile f = .error e := by
    rintro ⟨e, he⟩
    rw [h] at he
    cases he
  exact Except.ok.inj ((ofFile_of_no_error hno).symm.trans h)

theorem resolved_of_ofFile (h : ofFile f = .ok (rules, warnings)) :
    DefaultResolved f rules warnings := by
  have hentries := ofEntries_of_ofFile h
  have hnone := defaultClass_foldl_add
    (((numbered 1 f.lines).filterMap entryAt?).map (·.2)) {}
  unfold ofEntries at hentries
  dsimp only at hentries
  cases hrequest : requestedDefault? ((numbered 1 f.lines).filterMap entryAt?) with
  | none =>
    rw [hrequest] at hentries
    cases hentries
    refine .unasked (fun n tag hlast => ?_) hnone
    rw [← requestedDefault?_eq_some_iff, hrequest] at hlast
    cases hlast
  | some request =>
    obtain ⟨n, tag⟩ := request
    have hlast := (requestedDefault?_eq_some_iff f n tag).mp hrequest
    rw [hrequest] at hentries
    dsimp only at hentries
    split_ifs at hentries with hcontains
    · cases hentries
      exact .declared hlast ((Keyed.contains_iff_mem_keys _ tag).mp hcontains) rfl
    · cases hentries
      refine .dropped hlast (fun hmem => hcontains ?_) hnone
      exact (Keyed.contains_iff_mem_keys _ tag).mpr hmem

theorem pathClasses_ofEntries (id : FileId) (entries : List (Nat × RuleEntry)) :
    (ofEntries id entries).1.pathClasses = ((entries.map (·.2)).foldl add {}).pathClasses := by
  unfold ofEntries
  dsimp only
  split
  · rfl
  · split <;> rfl

theorem mem_keys_iff_of_ofFile (h : ofFile f = .ok (rules, warnings)) (tag : String) :
    tag ∈ rules.pathClasses.keys ↔ ∃ line ∈ f.lines, Declares line tag := by
  have hrules : rules.pathClasses = ((f.lines.filterMap entryOf?).foldl add {}).pathClasses := by
    have hclasses := pathClasses_ofEntries f.id ((numbered 1 f.lines).filterMap entryAt?)
    rw [ofEntries_of_ofFile h, map_snd_filterMap_entryAt?] at hclasses
    exact hclasses
  rw [hrules, mem_keys_rules_iff (faultOf?_of_ofFile h)]

theorem DefaultResolved.mem_keys (h : DefaultResolved f rules warnings) :
    ∀ tag ∈ rules.defaultClass, tag ∈ rules.pathClasses.keys := by
  cases h with
  | unasked hnone hdefault => simp [hdefault]
  | declared hlast hmem hdefault => simpa [hdefault] using hmem
  | dropped hlast hmem hdefault => simp [hdefault]

theorem DefaultResolved.defaultClass_eq_some_iff (h : DefaultResolved f rules warnings)
    (tag : String) : rules.defaultClass = some tag ↔
      (∃ n, LastRequest f n tag) ∧ tag ∈ rules.pathClasses.keys := by
  cases h with
  | unasked hnone hdefault => simp [hdefault, hnone]
  | @declared n asked hlast hmem hdefault =>
    rw [hdefault]
    constructor
    · rintro ⟨⟩
      exact ⟨⟨n, hlast⟩, hmem⟩
    · rintro ⟨⟨m, hlast'⟩, -⟩
      rw [(lastRequest_unique hlast hlast').2]
  | @dropped n asked hlast hmem hdefault =>
    rw [hdefault]
    constructor
    · rintro ⟨⟩
    · rintro ⟨⟨m, hlast'⟩, hmem'⟩
      rw [(lastRequest_unique hlast hlast').2] at hmem
      exact absurd hmem' hmem

theorem DefaultResolved.warnings_of_notMem (h : DefaultResolved f rules warnings) {n : Nat}
    {tag : String} (hlast : LastRequest f n tag) (hmem : tag ∉ rules.pathClasses.keys) :
    warnings = [droppedDefaultWarning (f.location n) tag] := by
  cases h with
  | unasked hnone hdefault => exact absurd hlast (hnone n tag)
  | declared hlast' hmem' hdefault =>
    rw [(lastRequest_unique hlast' hlast).2] at hmem'
    exact absurd hmem' hmem
  | dropped hlast' hmem' hdefault =>
    obtain ⟨rfl, rfl⟩ := lastRequest_unique hlast' hlast
    rfl

theorem DefaultResolved.warnings_of_forall_mem (h : DefaultResolved f rules warnings)
    (hall : ∀ n tag, LastRequest f n tag → tag ∈ rules.pathClasses.keys) : warnings = [] := by
  cases h with
  | unasked hnone hdefault => rfl
  | declared hlast hmem hdefault => rfl
  | dropped hlast hmem hdefault => exact absurd (hall _ _ hlast) hmem

theorem DefaultResolved.exists_dropped_iff (h : DefaultResolved f rules warnings) :
    (∃ d ∈ warnings, d.code = droppedDefaultClass) ↔
      ∃ n tag, LastRequest f n tag ∧ tag ∉ rules.pathClasses.keys := by
  constructor
  · rintro ⟨d, hd, -⟩
    by_contra hnone
    have hall : ∀ n tag, LastRequest f n tag → tag ∈ rules.pathClasses.keys :=
      fun n tag hlast => by_contra fun hmem => hnone ⟨n, tag, hlast, hmem⟩
    rw [h.warnings_of_forall_mem hall] at hd
    cases hd
  · rintro ⟨n, tag, hlast, hmem⟩
    rw [h.warnings_of_notMem hlast hmem]
    exact ⟨_, List.mem_singleton_self _, rfl⟩

end

end RuleSet

/-! ### Classes of segments -/

section
variable {table : ClassTable} {default : Option String}

theorem mem_keys_of_firstMatch? {key tag : String} (h : table.firstMatch? key = some tag) :
    tag ∈ table.keys := by
  obtain ⟨entry, hentry, rfl⟩ := Option.map_eq_some_iff.mp h
  exact List.mem_map_of_mem (List.mem_of_find?_eq_some hentry)

/-- A class is taken from the table, or it is the default, or it is kept. -/
theorem mem_keys_nextTag (hdefault : ∀ tag ∈ default, tag ∈ table.keys) {current : Option String}
    (hcurrent : ∀ tag ∈ current, tag ∈ table.keys) (key : String) :
    ∀ tag ∈ nextTag table default current key, tag ∈ table.keys := by
  intro tag htag
  unfold nextTag at htag
  dsimp only at htag
  split_ifs at htag
  · exact hcurrent tag htag
  · rcases Option.or_eq_some_iff.mp htag with hfirst | ⟨-, hdef⟩
    · exact mem_keys_of_firstMatch? hfirst
    · exact hdefault tag hdef

theorem mem_keys_tagsFrom (hdefault : ∀ tag ∈ default, tag ∈ table.keys) {current : Option String}
    (hcurrent : ∀ tag ∈ current, tag ∈ table.keys) (keys : List String) :
    ∀ class? ∈ tagsFrom table default current keys, ∀ tag ∈ class?, tag ∈ table.keys := by
  induction keys generalizing current with
  | nil => simp [tagsFrom]
  | cons key keys ih =>
    have hnext := mem_keys_nextTag hdefault hcurrent key
    intro class? hmem
    rcases List.mem_cons.mp hmem with rfl | hmem
    · exact hnext
    · exact ih hnext class? hmem

theorem mem_keys_segmentPins (hdefault : ∀ tag ∈ default, tag ∈ table.keys) (pins : List Pin) :
    ∀ s ∈ (segmentPins pins table default).1 ++ (segmentPins pins table default).2,
      ∀ tag ∈ s.tag, tag ∈ table.keys := by
  have hsegments := segmentsOf_segmentPins pins table default
  have htags := mem_keys_tagsFrom hdefault hdefault (pins.map (·.name))
  intro s hs
  -- the class of a segment is that of the pins in its run
  have hrun : ∃ run ∈ segmentRuns pins table default, run.tag = s.tag := by
    rcases List.mem_append.mp hs with hs | hs
    · have hmem := List.mem_map_of_mem (f := (·.tag)) hs
      rwa [hsegments.latency_tags, List.mem_map] at hmem
    · have hmem := List.mem_map_of_mem (f := (·.tag)) hs
      rwa [hsegments.delta_tags, List.mem_map] at hmem
  obtain ⟨run, hrun, htag⟩ := hrun
  have hfirst := hsegments.partition.tagged run hrun run.start (Nat.le_refl _)
    (hsegments.partition.nonempty run hrun)
  rw [← htag]
  exact htags run.tag (List.mem_of_getElem? hfirst)

end

def PathSegments.all (s : PathSegments) : List Segment :=
  s.dataLatency ++ s.dataDelta ++ (s.launchLatency ++ s.launchDelta) ++
    (s.captureLatency ++ s.captureDelta)

theorem PathSegments.mem_keys_ofPath {rules : RuleSet}
    (hdefault : ∀ tag ∈ rules.defaultClass, tag ∈ rules.pathClasses.keys) (p : TimingPath) :
    ∀ s ∈ (PathSegments.ofPath p rules).all, ∀ tag ∈ s.tag, tag ∈ rules.pathClasses.keys := by
  intro s hs
  rcases List.mem_append.mp hs with hs | hs
  · rcases List.mem_append.mp hs with hs | hs
    · exact mem_keys_segmentPins hdefault p.dataPins s hs
    · exact mem_keys_segmentPins hdefault p.launchClockPins s hs
  · exact mem_keys_segmentPins hdefault p.capturePins s hs

end PathTiming
