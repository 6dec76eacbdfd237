import Mathlib.Data.List.Forall2
import Mathlib.Data.List.TakeWhile
import PathTiming.CommandLine.Run
import PathTiming.Proofs.LineIndex

/-! Rules files are judged line by line. -/
namespace PathTiming

namespace Text
open Unicode (isBlank)

theorem trim_of_blank {cs : List Char} (h : ∀ c ∈ cs, isBlank c = true) : trim cs = [] := by
  have hstart : trimStart cs = [] := List.dropWhile_eq_nil_iff.mpr h
  rw [trim, hstart]
  rfl

theorem trim_append_left {lead : List Char} (h : ∀ c ∈ lead, isBlank c = true) (cs : List Char) :
    trim (lead ++ cs) = trim cs := by
  rw [trim, trimStart, List.dropWhile_append_of_pos h]
  rfl

theorem trim_append_right {trail : List Char} (h : ∀ c ∈ trail, isBlank c = true)
    (cs : List Char) : trim (cs ++ trail) = trim cs := by
  by_cases hblank : cs.dropWhile isBlank = []
  · have hcs : ∀ c ∈ cs, isBlank c = true := List.dropWhile_eq_nil_iff.mp hblank
    rw [trim_of_blank hcs, trim_append_left hcs, trim_of_blank h]
  · have hstart : trimStart (cs ++ trail) = trimStart cs ++ trail := by
      rw [trimStart, List.dropWhile_append, if_neg (by simpa using hblank)]
      rfl
    have hend : ∀ c ∈ trail.reverse, isBlank c = true := fun c hc => h c (List.mem_reverse.mp hc)
    rw [trim, hstart, dropEndWhile, List.reverse_append, List.dropWhile_append_of_pos hend]
    rfl

end Text

namespace RuleEntry
open Unicode (isBlank)

/-- What a line says: its text before a remark, without the blanks around it. -/
def content (line : List Char) : List Char := Text.trim (line.takeWhile (· != '#'))

theorem ofLine?_congr {line other : String} (h : content line.toList = content other.toList) :
    ofLine? line = ofLine? other := by
  unfold content at h
  unfold ofLine?
  rw [h]

/-- A line with nothing but blanks before its remark, if it has one. -/
def IsRemark (line : String) : Prop := ∀ c ∈ line.toList.takeWhile (· != '#'), isBlank c = true

instance (line : String) : Decidable (IsRemark line) :=
  List.decidableBAll (isBlank · = true) (line.toList.takeWhile (· != '#'))

/-- `line` is `code` with blanks around it and a remark behind. -/
def Dressed (code line : List Char) : Prop :=
  ∃ lead trail remark, line = lead ++ code ++ trail ++ remark ∧
    (∀ c ∈ lead, isBlank c = true) ∧ (∀ c ∈ trail, isBlank c = true) ∧
    (remark = [] ∨ remark.head? = some '#')

/-- The lines differ in the blanks around them and in their remarks only. -/
def SameCode (line other : List Char) : Prop := ∃ code, Dressed code line ∧ Dressed code other

theorem ne_hash_of_blank {cs : List Char} (h : ∀ c ∈ cs, isBlank c = true) :
    ∀ c ∈ cs, (c != '#') = true := by
  rintro c hc
  have hblank := h c hc
  rw [bne_iff_ne]
  rintro rfl
  exact absurd hblank (by decide)

theorem content_of_dressed {code line : List Char} (h : Dressed code line) :
    content line = content code := by
  obtain ⟨lead, trail, remark, rfl, hlead, htrail, hremark⟩ := h
  have hbefore : remark.takeWhile (· != '#') = [] := by
    rcases hremark with rfl | hremark
    · rfl
    · cases remark with
      | nil => rfl
      | cons c remark =>
        obtain rfl : c = '#' := by simpa using hremark
        rfl
  have hfront : content (lead ++ code ++ trail ++ remark) = content (code ++ trail ++ remark) := by
    rw [content, List.append_assoc, List.append_assoc,
      List.takeWhile_append_of_pos (ne_hash_of_blank hlead), Text.trim_append_left hlead,
      ← List.append_assoc]
    rfl
  rw [hfront, content, content, List.append_assoc, List.takeWhile_append]
  by_cases hcode : (code.takeWhile (· != '#')).length = code.length
  · -- the code has no remark of its own
    have hall : code.takeWhile (· != '#') = code := (List.takeWhile_prefix _).eq_of_length hcode
    rw [if_pos hcode, List.takeWhile_append_of_pos (ne_hash_of_blank htrail), hbefore,
      List.append_nil, Text.trim_append_right htrail, hall]
  · rw [if_neg hcode]

theorem dressed_self (line : List Char) : Dressed line line :=
  ⟨[], [], [], by simp, by simp, by simp, .inl rfl⟩

theorem dressed_withoutReturn (line : List Char) :
    Dressed (SourceFile.withoutReturn line) line := by
  unfold SourceFile.withoutReturn
  split
  · rename_i h
    refine ⟨[], ['\r'], [], ?_, by simp, List.forall_mem_singleton.mpr rfl, .inl rfl⟩
    have hline := List.dropLast_append_getLast? '\r' h
    simp [hline]
  · exact dressed_self line

theorem content_withoutReturn (line : List Char) :
    content (SourceFile.withoutReturn line) = content line :=
  (content_of_dressed (dressed_withoutReturn line)).symm

theorem ofLine?_of_isRemark {line : String} (h : IsRemark line) : ofLine? line = .ok none := by
  have hcontent : content line.toList = [] := Text.trim_of_blank h
  unfold content at hcontent
  unfold ofLine?
  rw [hcontent]
  rfl

def entryOf? (line : String) : Option RuleEntry := (ofLine? line).toOption.join

theorem entryOf?_eq_some_iff {line : String} {entry : RuleEntry} :
    entryOf? line = some entry ↔ ofLine? line = .ok (some entry) := by
  rw [entryOf?, Option.join_eq_some_iff]
  cases ofLine? line <;> simp [Except.toOption]

def faultOf? (line : String) : Option RuleFault :=
  match ofLine? line with
  | .error cause => some cause
  | .ok _ => none

end RuleEntry

def RulesError.renumber (ρ : Nat → Nat) : RulesError → RulesError
  | .unreadable cause => .unreadable cause
  | .fault n cause => .fault (ρ n) cause

def Diagnostic.renumber (ρ : Nat → Nat) (d : Diagnostic) : Diagnostic :=
  { d with location.line := ρ d.location.line }

namespace RuleSet
open RuleEntry (entryOf? faultOf? IsRemark SameCode)

def entryAt? (line : Nat × String) : Option (Nat × RuleEntry) :=
  (entryOf? line.2).map (line.1, ·)

def faultAt? (line : Nat × String) : Option RulesError := (faultOf? line.2).map (.fault line.1)

/-- The lines are read up to the first fault; without one, all rules count. -/
theorem readEntries_eq (lines : List (Nat × String)) :
    readEntries lines =
      match lines.findSome? faultAt? with
      | some e => .error e
      | none => .ok (lines.filterMap entryAt?) := by
  induction lines with
  | nil => rfl
  | cons line rest ih =>
    obtain ⟨n, text⟩ := line
    -- a fault ends the reading; a rule counts only if no later line is at fault
    cases hline : RuleEntry.ofLine? text with
    | error cause => simp [readEntries, hline, faultAt?, faultOf?]
    | ok entry =>
      have hfault : faultAt? (n, text) = none := by simp [faultAt?, faultOf?, hline]
      cases entry with
      | none =>
        have hentry : entryAt? (n, text) = none := by
          simp [entryAt?, entryOf?, hline, Except.toOption]
        simp [readEntries, hline, ih, hfault, hentry]
      | some entry =>
        have hentry : entryAt? (n, text) = some (n, entry) := by
          simp [entryAt?, entryOf?, hline, Except.toOption]
        simp only [readEntries, hline, ih, List.findSome?_cons, hfault]
        cases rest.findSome? faultAt? with
        | none => simp [hentry, Except.map]
        | some e => rfl

/-- The rules of numbered entries, with the warning about the default class if there is one. -/
def ofEntries (id : FileId) (entries : List (Nat × RuleEntry)) : RuleSet × List Diagnostic :=
  let rules := (entries.map (·.2)).foldl add {}
  match requestedDefault? entries with
  | none => (rules, [])
  | some (n, tag) =>
    if rules.pathClasses.contains tag then ({ rules with defaultClass := some tag }, [])
    else (rules, [droppedDefaultWarning ⟨id, n⟩ tag])

def ofLines (id : FileId) (lines : List (Nat × String)) :
    Except RulesError (RuleSet × List Diagnostic) :=
  match lines.findSome? faultAt? with
  | some e => .error e
  | none => .ok (ofEntries id (lines.filterMap entryAt?))

theorem ofFile_eq (file : SourceFile) : ofFile file = ofLines file.id (numbered 1 file.lines) := by
  have hlines : file.linesFrom 1 = numbered 1 file.lines := file.linesFrom_eq_numbered 1
  unfold ofFile ofLines
  rw [hlines, readEntries_eq]
  cases (numbered 1 file.lines).findSome? faultAt? with
  | some e => rfl
  | none =>
    change (match requestedDefault? ((numbered 1 file.lines).filterMap entryAt?) with
      | none => _
      | some (n, tag) => _) = Except.ok (ofEntries file.id _)
    unfold ofEntries
    dsimp only
    cases requestedDefault? ((numbered 1 file.lines).filterMap entryAt?) with
    | none => rfl
    | some requested =>
      dsimp only
      split <;> rfl

theorem ofLines_eq_error_iff (id : FileId) (lines : List (Nat × String)) (e : RulesError) :
    ofLines id lines = .error e ↔ lines.findSome? faultAt? = some e := by
  unfold ofLines
  cases lines.findSome? faultAt? <;> simp

theorem exists_ofLines_eq_error_iff (id : FileId) (first : Nat) (lines : List String) :
    (∃ e, ofLines id (numbered first lines) = .error e) ↔
      ∃ line ∈ lines, (faultOf? line).isSome = true := by
  simp only [ofLines_eq_error_iff, ← Option.isSome_iff_exists, List.findSome?_isSome_iff, faultAt?,
    Option.isSome_map]
  constructor
  · rintro ⟨l, hl, hfault⟩
    exact ⟨l.2, mem_of_mem_numbered hl, hfault⟩
  · rintro ⟨line, hmem, hfault⟩
    obtain ⟨n, hl⟩ := exists_mem_numbered hmem first
    exact ⟨(n, line), hl, hfault⟩

/-- The first line at fault decides. -/
theorem findSome?_numbered_iff (first : Nat) (lines : List String) (e : RulesError) :
    (numbered first lines).findSome? faultAt? = some e ↔
      ∃ before line after cause, lines = before ++ line :: after ∧
        (∀ earlier ∈ before, faultOf? earlier = none) ∧ faultOf? line = some cause ∧
        e = .fault (first + before.length) cause := by
  rw [List.findSome?_eq_some_iff]
  constructor
  · rintro ⟨before, ⟨n, line⟩, after, hlines, hfault, hbefore⟩
    obtain ⟨cause, hcause, rfl⟩ := Option.map_eq_some_iff.mp hfault
    have hnumber : [(n, line)] = numbered (first + before.length) [line] :=
      eq_numbered_of_append (by rw [hlines, List.append_assoc, List.singleton_append])
    obtain rfl : n = first + before.length := by simpa [numbered] using hnumber
    refine ⟨before.map (·.2), line, after.map (·.2), cause, ?_, ?_, hcause, by simp⟩
    · rw [← map_snd_numbered first lines, hlines, List.map_append, List.map_cons]
    · intro earlier hmem
      obtain ⟨l, hl, rfl⟩ := List.mem_map.mp hmem
      exact Option.map_eq_none_iff.mp (hbefore l hl)
  · rintro ⟨before, line, after, cause, rfl, hbefore, hcause, rfl⟩
    refine ⟨numbered first before, (first + before.length, line), _,
      numbered_append first before (line :: after), ?_, ?_⟩
    · rw [faultAt?, hcause]
      rfl
    · intro l hl
      rw [faultAt?, hbefore _ (mem_of_mem_numbered hl)]
      rfl

theorem lines_ofText_of_notMem {line : String} (h : '\n' ∉ line.toList) (id : FileId)
    (name : String) : (SourceFile.ofText id name line).lines =
      [String.ofList (SourceFile.withoutReturn line.toList)] := by
  rw [SourceFile.lines, SourceFile.ofText, Text.lines, Text.splitOn_of_notMem h]
  rfl

theorem notMem_newline_of_mem_lines {file : SourceFile} {line : String} (h : line ∈ file.lines) :
    '\n' ∉ line.toList := by
  obtain ⟨piece, hpiece, rfl⟩ := List.mem_map.mp h
  have hnl : '\n' ∉ piece :=
    Text.sep_notMem_of_mem_splitOn (SourceFile.mem_splitOn_of_mem_lines hpiece)
  rw [String.toList_ofList]
  unfold SourceFile.withoutReturn
  split
  · exact fun hm => hnl (List.dropLast_subset _ hm)
  · exact hnl

theorem ofText_eq_error_iff {line : String} (h : '\n' ∉ line.toList) (e : RulesError) :
    ofText line = .error e ↔ ∃ cause, faultOf? line = some cause ∧ e = .fault 1 cause := by
  have hfault : faultOf? (String.ofList (SourceFile.withoutReturn line.toList)) =
      faultOf? line := by
    have hcode : RuleEntry.ofLine? (String.ofList (SourceFile.withoutReturn line.toList)) =
        RuleEntry.ofLine? line := by
      apply RuleEntry.ofLine?_congr
      rw [String.toList_ofList, RuleEntry.content_withoutReturn]
    unfold faultOf?
    rw [hcode]
  rw [ofText, ofFile_eq, ofLines_eq_error_iff, lines_ofText_of_notMem h, numbered, numbered,
    List.findSome?_singleton, faultAt?, hfault, Option.map_eq_some_iff]
  simp only [eq_comm]

theorem exists_ofText_eq_ok_iff {line : String} (h : '\n' ∉ line.toList) :
    (∃ outcome, ofText line = .ok outcome) ↔ faultOf? line = none := by
  have herror := ofText_eq_error_iff h
  cases hline : ofText line with
  | error e =>
    obtain ⟨cause, hcause, -⟩ := (herror e).mp hline
    simp [hcause]
  | ok outcome =>
    cases hcause : faultOf? line with
    | none => simp
    | some cause => exact absurd ((herror _).mpr ⟨cause, hcause, rfl⟩) (by simp [hline])

/-- The error of a file is that of the first line that fails on its own. -/
theorem ofFile_eq_error_iff (f : SourceFile) (e : RulesError) :
    ofFile f = .error e ↔ ∃ before line after cause, f.lines = before ++ line :: after ∧
      (∀ earlier ∈ before, ∃ outcome, ofText earlier = .ok outcome) ∧
      ofText line = .error (.fault 1 cause) ∧ e = .fault (before.length + 1) cause := by
  rw [ofFile_eq, ofLines_eq_error_iff, findSome?_numbered_iff]
  refine exists_congr fun before => exists_congr fun line => exists_congr fun after =>
    exists_congr fun cause => and_congr_right fun hlines => ?_
  have hnl : ∀ l ∈ f.lines, '\n' ∉ l.toList := fun l => notMem_newline_of_mem_lines
  have hline : ofText line = .error (.fault 1 cause) ↔ faultOf? line = some cause := by
    rw [ofText_eq_error_iff (hnl line (by simp [hlines]))]
    simp
  have hbefore : ∀ earlier ∈ before,
      (∃ outcome, ofText earlier = .ok outcome) ↔ faultOf? earlier = none :=
    fun earlier hmem => exists_ofText_eq_ok_iff (hnl earlier (by simp [hlines, hmem]))
  rw [hline, forall₂_congr hbefore, Nat.add_comm]

theorem exists_ofFile_eq_error_iff (f : SourceFile) :
    (∃ e, ofFile f = .error e) ↔ ∃ line ∈ f.lines, ∃ e, ofText line = .error e := by
  rw [ofFile_eq, exists_ofLines_eq_error_iff]
  refine exists_congr fun line => and_congr_right fun hmem => ?_
  simp only [ofText_eq_error_iff (notMem_newline_of_mem_lines hmem), Option.isSome_iff_exists]
  constructor
  · rintro ⟨cause, hcause⟩
    exact ⟨.fault 1 cause, cause, hcause, rfl⟩
  · rintro ⟨e, cause, hcause, -⟩
    exact ⟨cause, hcause⟩

/-! ### Blanks and remarks -/

theorem ofLines_congr {lines others : List String}
    (h : List.Forall₂ (fun line other => RuleEntry.ofLine? line = RuleEntry.ofLine? other)
      lines others) (id : FileId) (first : Nat) :
    ofLines id (numbered first lines) = ofLines id (numbered first others) := by
  -- both parts of an outcome go through the lines in step, so one induction serves both
  have hboth : (numbered first lines).findSome? faultAt? =
        (numbered first others).findSome? faultAt? ∧
      (numbered first lines).filterMap entryAt? = (numbered first others).filterMap entryAt? := by
    induction h generalizing first with
    | nil => exact ⟨rfl, rfl⟩
    | cons hline _ ih =>
      obtain ⟨hfaults, hentries⟩ := ih (first + 1)
      simp only [numbered, List.findSome?_cons, List.filterMap_cons, faultAt?, entryAt?, faultOf?,
        entryOf?, hline] at hfaults hentries ⊢
      exact ⟨by rw [hfaults], by rw [hentries]⟩
  rw [ofLines, hboth.1, hboth.2, ofLines]

theorem ofFile_congr_of_sameCode {f g : SourceFile} (hid : f.id = g.id)
    (h : List.Forall₂ SameCode (Text.lines f.chars.toList) (Text.lines g.chars.toList)) :
    ofFile f = ofFile g := by
  rw [ofFile_eq, ofFile_eq, hid]
  apply ofLines_congr
  rw [SourceFile.lines, SourceFile.lines, List.forall₂_map_left_iff, List.forall₂_map_right_iff]
  refine h.imp ?_
  rintro line other ⟨code, hline, hother⟩
  apply RuleEntry.ofLine?_congr
  rw [String.toList_ofList, String.toList_ofList, RuleEntry.content_withoutReturn,
    RuleEntry.content_withoutReturn, RuleEntry.content_of_dressed hline,
    RuleEntry.content_of_dressed hother]

/-! ### Line numbers -/

/-- An outcome with other line numbers in its error or its warnings. -/
def renumber (ρ : Nat → Nat) :
    Except RulesError (RuleSet × List Diagnostic) → Except RulesError (RuleSet × List Diagnostic)
  | .error e => .error (e.renumber ρ)
  | .ok (rules, warnings) => .ok (rules, warnings.map (·.renumber ρ))

theorem requestedDefault?_map (ρ : Nat → Nat) (entries : List (Nat × RuleEntry)) :
    requestedDefault? (entries.map (Prod.map ρ id)) =
      (requestedDefault? entries).map (Prod.map ρ id) := by
  unfold requestedDefault?
  rw [List.foldl_map]
  change List.foldl _ ((none : Option (Nat × String)).map (Prod.map ρ id)) entries = _
  refine List.foldl_hom (Option.map (Prod.map ρ id)) ?_
  rintro last ⟨n, entry⟩
  cases entry <;> rfl

theorem ofEntries_map (ρ : Nat → Nat) (file : FileId) (entries : List (Nat × RuleEntry)) :
    ofEntries file (entries.map (Prod.map ρ id)) =
      ((ofEntries file entries).1, (ofEntries file entries).2.map (·.renumber ρ)) := by
  have hrules : (entries.map (Prod.map ρ id)).map (·.2) = entries.map (·.2) := by
    rw [List.map_map]
    rfl
  unfold ofEntries
  rw [hrules, requestedDefault?_map]
  cases requestedDefault? entries with
  | none => rfl
  | some requested =>
    dsimp only [Option.map_some, Prod.map_fst, Prod.map_snd, id]
    split <;> rfl

theorem faultAt?_map (ρ : Nat → Nat) (line : Nat × String) :
    faultAt? (Prod.map ρ id line) = (faultAt? line).map (·.renumber ρ) := by
  rw [faultAt?, faultAt?, Option.map_map]
  rfl

theorem entryAt?_map (ρ : Nat → Nat) (line : Nat × String) :
    entryAt? (Prod.map ρ id line) = (entryAt? line).map (Prod.map ρ id) := by
  rw [entryAt?, entryAt?, Option.map_map]
  rfl

theorem ofLines_map (ρ : Nat → Nat) (file : FileId) (lines : List (Nat × String)) :
    ofLines file (lines.map (Prod.map ρ id)) = renumber ρ (ofLines file lines) := by
  have hfaults : (lines.map (Prod.map ρ id)).findSome? faultAt? =
      (lines.findSome? faultAt?).map (·.renumber ρ) := by
    rw [List.findSome?_map, List.map_findSome?]
    exact congrArg (lines.findSome? ·) (funext (faultAt?_map ρ))
  have hentries : (lines.map (Prod.map ρ id)).filterMap entryAt? =
      (lines.filterMap entryAt?).map (Prod.map ρ id) := by
    rw [List.filterMap_map, List.map_filterMap]
    exact congrArg (lines.filterMap ·) (funext (entryAt?_map ρ))
  unfold ofLines
  rw [hfaults, hentries, ofEntries_map]
  cases lines.findSome? faultAt? <;> rfl

theorem filterMap_filter_of_none {α β : Type} {keep : α → Bool} {f : α → Option β} {xs : List α}
    (h : ∀ x ∈ xs, keep x = false → f x = none) :
    (xs.filter keep).filterMap f = xs.filterMap f := by
  rw [List.filterMap_filter]
  apply List.filterMap_congr
  intro x hx
  cases hkeep : keep x with
  | true => rw [if_pos rfl]
  | false => rw [if_neg (by simp), h x hx hkeep]

theorem ofLines_filter {keep : Nat × String → Bool} {lines : List (Nat × String)}
    (h : ∀ line ∈ lines, keep line = false → IsRemark line.2) (file : FileId) :
    ofLines file (lines.filter keep) = ofLines file lines := by
  have hline : ∀ line ∈ lines, keep line = false → RuleEntry.ofLine? line.2 = .ok none :=
    fun line hmem hkeep => RuleEntry.ofLine?_of_isRemark (h line hmem hkeep)
  have hfaults : (lines.filter keep).filterMap faultAt? = lines.filterMap faultAt? := by
    apply filterMap_filter_of_none
    intro line hmem hkeep
    rw [faultAt?, faultOf?, hline line hmem hkeep]
    rfl
  have hentries : (lines.filter keep).filterMap entryAt? = lines.filterMap entryAt? := by
    apply filterMap_filter_of_none
    intro line hmem hkeep
    rw [entryAt?, entryOf?, hline line hmem hkeep]
    rfl
  rw [ofLines, ofLines, hentries, ← List.head?_filterMap, ← List.head?_filterMap, hfaults]

def nthNumber (lines : List (Nat × String)) (n : Nat) : Nat :=
  (lines[n - 1]?.map (·.1)).getD n

theorem eq_map_nthNumber {lines : List (Nat × String)} {texts : List String}
    (h : lines.map (·.2) = texts) :
    lines = (numbered 1 texts).map (Prod.map (nthNumber lines) id) := by
  apply List.ext_getElem?
  intro i
  rw [← h, List.getElem?_map, getElem?_numbered, List.getElem?_map]
  cases hline : lines[i]? with
  | none => rfl
  | some line => simp [nthNumber, hline]

end RuleSet

theorem Run.run_get_bind {α : Type} (k : RunState → Run α) (s : RunState) :
    (get >>= k).run.run s = (k s).run.run s := rfl

/-- A run with a fault in its rules file knows the text of that file, and has emitted nothing. -/
theorem Run.loadRules_of_fault {o : Options} {s : RunState} {path : String} {sources : Sources}
    {file : SourceFile} {e : RulesError} (hpath : rulesFile? o s.disk = some path)
    (hload : s.sources.load s.disk path = .ok (sources, file))
    (hfault : RuleSet.ofFile file = .error e) :
    (loadRules o).run.run s = (.error (.rules e), { s with sources }) := by
  have hresult : RuleSet.load s.sources s.disk path = (sources, .error e) := by
    rw [RuleSet.load, hload]
    exact congrArg (sources, ·) hfault
  rw [loadRules, run_get_bind, hpath]
  dsimp only
  rw [hresult]
  rfl

namespace RuleSet
open RuleEntry (IsRemark SameCode)

def unmarked (marked : Nat → Bool) (file : SourceFile) : List (Nat × String) :=
  (numbered 1 file.lines).filter fun line => !marked line.1

/-- A rules file fails exactly if one of its lines fails on its own, for the reason of the first
such line, and then leaves no rules and no messages. Blanks around a line and remarks behind it
do not count, and lines of blanks and remarks only move the other lines. -/
theorem ofFile_line_by_line (f : SourceFile) :
    ((∃ e, ofFile f = .error e) ↔ ∃ line ∈ f.lines, ∃ e, ofText line = .error e) ∧
      (∀ e, ofFile f = .error e ↔ ∃ before line after cause, f.lines = before ++ line :: after ∧
        (∀ earlier ∈ before, ∃ outcome, ofText earlier = .ok outcome) ∧
        ofText line = .error (.fault 1 cause) ∧ e = .fault (before.length + 1) cause) ∧
      (∀ o s path sources e, Run.rulesFile? o s.disk = some path →
        s.sources.load s.disk path = .ok (sources, f) → ofFile f = .error e →
        (Run.loadRules o).run.run s = (.error (.rules e), { s with sources })) ∧
      (∀ g : SourceFile, g.id = f.id →
        List.Forall₂ SameCode (Text.lines f.chars.toList) (Text.lines g.chars.toList) →
        ofFile g = ofFile f) ∧
      (∀ (g : SourceFile) (inserted : Nat → Bool), g.id = f.id →
        (∀ line ∈ numbered 1 g.lines, inserted line.1 = true → IsRemark line.2) →
        (unmarked inserted g).map (·.2) = f.lines →
        ofFile g = renumber (nthNumber (unmarked inserted g)) (ofFile f)) := by
  refine ⟨exists_ofFile_eq_error_iff f, ofFile_eq_error_iff f,
    fun o s path sources e => Run.loadRules_of_fault, ?_, ?_⟩
  · exact fun g hid h => (ofFile_congr_of_sameCode hid.symm h).symm
  · intro g inserted hid hremarks hlines
    rw [ofFile_eq f, ofFile_eq g, hid, ← ofLines_map, ← eq_map_nthNumber hlines]
    refine (ofLines_filter (fun line hmem hline => hremarks line hmem ?_) f.id).symm
    simpa using hline

def firstRules (text : String) : SourceFile := .ofText ⟨0⟩ "rules" text

def runBeside (text : String) : RunState :=
  { disk := { files := ⟨[(["rules"], .ok text.toUTF8)]⟩ } }

theorem ofFile_line_by_line_driveWithoutCell :
    ofFile (firstRules "dpc: A\ndc: 1\n") = .error (.fault 2 .driveShape) ∧
      ofFile (firstRules "\tdpc: A # top\r\ndc: 1\r\n") = .error (.fault 2 .driveShape) ∧
      ofFile (firstRules "dpc: A\n# drive\n\ndc: 1\n") = .error (.fault 4 .driveShape) ∧
      (Run.loadRules { report := "report", config := some "rules" }).run.run
          (runBeside "dpc: A\ndc: 1\n") =
        (.error (.rules (.fault 2 .driveShape)),
          { runBeside "dpc: A\ndc: 1\n" with sources := ⟨#[firstRules "dpc: A\ndc: 1\n"]⟩ }) := by
  obtain ⟨-, hfirst, hrun, hdressed, hinserted⟩ :=
    ofFile_line_by_line (firstRules "dpc: A\ndc: 1\n")
  have hfault : ofFile (firstRules "dpc: A\ndc: 1\n") = .error (.fault 2 .driveShape) := by
    refine (hfirst _).mpr ⟨["dpc: A"], "dc: 1", [], .driveShape, by decide +kernel, ?_, rfl, rfl⟩
    simp only [List.mem_singleton, forall_eq]
    exact ⟨_, rfl⟩
  have hremark : SameCode "dpc: A".toList "\tdpc: A # top\r".toList :=
    ⟨"dpc: A".toList, RuleEntry.dressed_self _, ['\t'], [' '], "# top\r".toList, by decide,
      List.forall_mem_singleton.mpr rfl, List.forall_mem_singleton.mpr rfl, .inr (by decide)⟩
  have hreturn : SameCode "dc: 1".toList "dc: 1\r".toList :=
    ⟨"dc: 1".toList, RuleEntry.dressed_self _, RuleEntry.dressed_withoutReturn "dc: 1\r".toList⟩
  have hsame : List.Forall₂ SameCode (Text.lines (firstRules "dpc: A\ndc: 1\n").chars.toList)
      (Text.lines (firstRules "\tdpc: A # top\r\ndc: 1\r\n").chars.toList) :=
    .cons hremark (.cons hreturn .nil)
  have hmoved : nthNumber (unmarked (fun n => n == 2 || n == 3)
      (firstRules "dpc: A\n# drive\n\ndc: 1\n")) 2 = 4 := by
    decide +kernel
  have hread : (runBeside "dpc: A\ndc: 1\n").disk.readText "rules" = .ok "dpc: A\ndc: 1\n" := by
    decide +kernel
  refine ⟨hfault, ?_, ?_, ?_⟩
  · exact (hdressed (firstRules "\tdpc: A # top\r\ndc: 1\r\n") rfl hsame).trans hfault
  · rw [hinserted (firstRules "dpc: A\n# drive\n\ndc: 1\n") (fun n => n == 2 || n == 3) rfl
      (by decide +kernel) (by decide +kernel), hfault, renumber, RulesError.renumber, hmoved]
  · refine hrun _ _ "rules" _ _ rfl ?_ hfault
    rw [Sources.load, hread]
    rfl

end RuleSet

end PathTiming
