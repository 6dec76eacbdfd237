import PathTiming.Proofs.PathInvariant
import PathTiming.Proofs.ReportSession

/-! Paths that were read from reports: each is the path of a block, and no name in it has a blank. -/
namespace PathTiming

def Text.BlankFree (s : String) : Prop := ∀ c ∈ s.toList, Unicode.isBlank c = false

instance (s : String) : Decidable (Text.BlankFree s) :=
  decidable_of_iff (s.toList.all (!Unicode.isBlank ·) = true) (by simp [Text.BlankFree])

namespace Block

theorem blankFree_firstWord (text : List Char) : Text.BlankFree (firstWord text) := by
  intro c hc
  unfold firstWord at hc
  rw [String.toList_ofList] at hc
  cases hwords : Text.words text with
  | nil =>
    rw [hwords] at hc
    cases hc
  | cons word words =>
    rw [hwords] at hc
    have hmem : word ∈ Text.words text := by
      rw [hwords]
      exact List.mem_cons_self
    obtain ⟨t, ht, rfl⟩ := List.mem_map.mp hmem
    exact ((Text.spelled_tokens text).of_mem ht).2 c hc

section
variable {rules : RuleSet} {line : Nat} {b b' : Block}

theorem readHeading?_endpoint {text : List Char} (h : b.readHeading? text = some b') :
    b'.path.endpoint = b.path.endpoint ∨ ∃ rest, b'.path.endpoint = firstWord rest := by
  unfold readHeading? at h
  dsimp only at h
  split at h
  · cases h
    exact .inr ⟨_, rfl⟩
  split at h
  · cases h
    exact .inl rfl
  split at h
  · cases h
    exact .inl rfl
  split at h
  · cases h
    exact .inl rfl
  split_ifs at h <;> cases h <;> exact .inl rfl

theorem PinStep.ends {row : PinRow} (h : PinStep rules b line row b') :
    b'.path.startpoint = b.path.startpoint ∧ b'.path.endpoint = b.path.endpoint := by
  obtain ⟨_, _, _, _, _, _, _, _, _, _, _, rfl⟩ := h.eq
  exact ⟨rfl, rfl⟩

/-- Only a heading names the endpoint, and no line names another startpoint. -/
theorem Step.ends {text : List Char} {atEnd : Bool} (h : Step rules line text b b' atEnd) :
    b'.path.startpoint = b.path.startpoint ∧
      (b'.path.endpoint = b.path.endpoint ∨ ∃ rest, b'.path.endpoint = firstWord rest) := by
  cases h with
  | skip => exact ⟨rfl, .inl rfl⟩
  | heading hs hb => exact ⟨(readHeading?_samePins hb).startpoint, readHeading?_endpoint hb⟩
  | tableHeader ht => exact ⟨rfl, .inl rfl⟩
  | clockEdge hs hr ht =>
    unfold readClockEdge
    split_ifs <;> exact ⟨rfl, .inl rfl⟩
  | labelled hs hr hb => cases hb <;> exact ⟨rfl, .inl rfl⟩
  | pinRow hs hr hrow hb => exact ⟨hb.ends.1, .inl hb.ends.2⟩
  | slack hs hr ht => exact ⟨rfl, .inl rfl⟩

end

end Block

theorem BlockText.blankFree_of_read {rules : RuleSet} {t : BlockText} {r : BlockReading}
    (h : t.read rules = .ok r) :
    Text.BlankFree r.block.path.startpoint ∧ Text.BlankFree r.block.path.endpoint := by
  refine Block.feedLines_induction
    (P := fun b => Text.BlankFree b.path.startpoint ∧ Text.BlankFree b.path.endpoint) h
    ⟨Block.blankFree_firstWord t.startpoint, fun c hc => by cases hc⟩ ?_
  intro b b' l atEnd _ hb hf
  obtain ⟨hstart, hend | ⟨rest, hend⟩⟩ := (Block.feed_step hf).ends
  · rwa [hstart, hend]
  · rw [hstart, hend]
    exact ⟨hb.1, Block.blankFree_firstWord rest⟩

namespace Report

theorem Scans.exists_range {r : Report} {file : SourceFile} {ranges : List ScanRange}
    {found : List Scan} (h : r.Scans file ranges found) {s : Scan} (hs : s ∈ found) :
    ∃ range ∈ ranges, r.scan file range = .ok s := by
  induction h with
  | nil => cases hs
  | @cons range s' ranges found hscan hrest ih =>
    rcases List.mem_cons.mp hs with rfl | hs
    · exact ⟨range, List.mem_cons_self, hscan⟩
    · obtain ⟨later, hlater, hscan⟩ := ih hs
      exact ⟨later, List.mem_cons_of_mem range hlater, hscan⟩

/-- A path that is added to a report is the path of a block. -/
theorem exists_block_of_mem_read {r : Report} {file : SourceFile} {ranges : List ScanRange}
    {p : TimingPath} (hp : p ∈ (r.read file ranges).report.paths.drop r.paths.length) :
    ∃ range ∈ ranges, ∃ t ∈ range.blocks file, ∃ reading, t.read r.rules = .ok reading ∧
      p = reading.block.finish (header file).through := by
  obtain ⟨found, h⟩ | ⟨before, range, after, found, e, rfl, h, he⟩ := r.scans_or_error file ranges
  · rw [read_of_scans h, List.drop_left] at hp
    obtain ⟨s, hs, hp⟩ := List.mem_flatMap.mp hp
    obtain ⟨range, hrange, hscan⟩ := h.exists_range hs
    obtain ⟨harvest, hgather, hpaths, -⟩ := Scan.exists_gather_of_ofRange hscan
    rw [hpaths] at hp
    obtain ⟨closed, hclosed, rfl⟩ := List.mem_map.mp hp
    obtain ⟨t, ht, reading, hread, hpath⟩ := Harvest.exists_read_of_mem_gather hgather hclosed
    exact ⟨range, hrange, t, ht, reading, hread, hpath⟩
  · rw [read_of_error h he after, List.drop_length] at hp
    cases hp

/-- The first path of a report that was empty is one that is added. -/
theorem exists_added_of_first {r : Report} {file : SourceFile} {ranges : List ScanRange}
    {α : Type} {f : TimingPath → α} {a : α} (hr : r.paths = [])
    (h : (r.read file ranges).report.paths[0]?.map f = some a) :
    ∃ p ∈ (r.read file ranges).report.paths.drop r.paths.length, f p = a := by
  obtain ⟨p, hp, hf⟩ := Option.map_eq_some_iff.mp h
  rw [hr, List.length_nil, List.drop_zero]
  exact ⟨p, List.mem_of_getElem? hp, hf⟩

end Report

namespace TimingPath

/-- The path was added to a report when some file was read. -/
def IsParsed (p : TimingPath) : Prop :=
  ∃ (r : Report) (file : SourceFile) (ranges : List ScanRange),
    p ∈ (r.read file ranges).report.paths.drop r.paths.length

/-- All paths of a report that was empty before it read a file were read. -/
theorem isParsed_of_mem_read {r : Report} {file : SourceFile} {ranges : List ScanRange}
    {p : TimingPath} (hr : r.paths = []) (hp : p ∈ (r.read file ranges).report.paths) :
    p.IsParsed := by
  refine ⟨r, file, ranges, ?_⟩
  rwa [hr, List.length_nil, List.drop_zero]

theorem IsParsed.wellPlaced {p : TimingPath} (h : p.IsParsed) : ∃ file, p.WellPlaced file := by
  obtain ⟨r, file, ranges, hp⟩ := h
  obtain ⟨range, -, t, ht, reading, hread, rfl⟩ := Report.exists_block_of_mem_read hp
  exact ⟨file, ScanRange.wellPlaced_of_read ht hread _⟩

structure NamesBlankFree (p : TimingPath) : Prop where
  startpoint : Text.BlankFree p.startpoint
  endpoint : Text.BlankFree p.endpoint
  pins : ∀ pin ∈ p.launchPins ++ p.capturePins, Text.BlankFree pin.name

theorem IsParsed.namesBlankFree {p : TimingPath} (h : p.IsParsed) : p.NamesBlankFree := by
  obtain ⟨file, hplaced⟩ := h.wellPlaced
  obtain ⟨r, file', ranges, hp⟩ := h
  obtain ⟨range, -, t, ht, reading, hread, rfl⟩ := Report.exists_block_of_mem_read hp
  obtain ⟨hstart, hend⟩ := BlockText.blankFree_of_read hread
  constructor
  · rwa [Block.finish_eq]
  · rwa [Block.finish_eq]
  · exact fun pin hpin => (hplaced.pins pin hpin).2.2.blankFree

end TimingPath

theorem Report.path_eq_ok {r : Report} {index : Nat} {p : TimingPath}
    (hp : r.paths[index]? = some p) : r.path index = .ok p := by
  unfold path
  rw [hp]

namespace Session

theorem isParsed_step {s : Session} (h : ∀ p ∈ s.report.paths, p.IsParsed) (call : ReadCall) :
    ∀ p ∈ (s.step call).report.paths, p.IsParsed := by
  have hread : ∀ file ranges, ∀ p ∈ (s.report.read file ranges).report.paths, p.IsParsed := by
    intro file ranges p hp
    obtain ⟨later, hlater⟩ := s.report.paths_prefix_read file ranges
    rw [← hlater] at hp
    rcases List.mem_append.mp hp with hp | hp
    · exact h p hp
    · refine ⟨s.report, file, ranges, ?_⟩
      rwa [← hlater, List.drop_left]
  cases call with
  | parse file ranges => exact hread file ranges
  | load disk path ranges =>
    intro p hp
    unfold step Report.load at hp
    dsimp only at hp
    split at hp
    · exact h p hp
    · exact hread _ ranges p hp

theorem isParsed_run {s : Session} (h : ∀ p ∈ s.report.paths, p.IsParsed)
    (calls : List ReadCall) : ∀ p ∈ (s.run calls).report.paths, p.IsParsed := by
  induction calls generalizing s with
  | nil => exact h
  | cons call calls ih => exact ih (isParsed_step h call)

/-- Whatever is read, a report that was empty in the beginning has paths that were read only. -/
theorem isParsed_of_mem_run {rules : RuleSet} {sources : Sources} {calls : List ReadCall}
    {p : TimingPath} (hp : p ∈ ((⟨{ rules }, sources⟩ : Session).run calls).report.paths) :
    p.IsParsed := by
  have hnone : ∀ p ∈ (⟨{ rules }, sources⟩ : Session).report.paths, p.IsParsed :=
    fun p hp => absurd hp List.not_mem_nil
  exact isParsed_run hnone calls p hp

end Session

end PathTiming
