import Mathlib.Data.List.Basic
import Mathlib.Tactic.Common
import PathTiming.Source.File
import PathTiming.Text.Split

/-! The index of a text finds the pieces between its newlines. -/
namespace PathTiming

namespace Text

/-- Joins pieces with one separator between neighbours. -/
def join (sep : Char) : List (List Char) → List Char
  | [] => []
  | piece :: rest => piece ++ rest.flatMap (sep :: ·)

theorem splitOn_ne_nil (sep : Char) (cs : List Char) : splitOn sep cs ≠ [] := by
  induction cs with
  | nil => simp [splitOn]
  | cons c cs ih =>
    unfold splitOn
    split
    · simp
    · split <;> simp

theorem splitOn_cons_of_ne {sep c : Char} (h : c ≠ sep) (cs : List Char) :
    ∃ piece rest, splitOn sep cs = piece :: rest ∧ splitOn sep (c :: cs) = (c :: piece) :: rest := by
  obtain ⟨piece, rest, hs⟩ := List.exists_cons_of_ne_nil (splitOn_ne_nil sep cs)
  exact ⟨piece, rest, hs, by simp [splitOn, h, hs]⟩

theorem splitOn_sep_cons (sep : Char) (cs : List Char) :
    splitOn sep (sep :: cs) = [] :: splitOn sep cs := by
  simp [splitOn]

theorem join_splitOn (sep : Char) (cs : List Char) : join sep (splitOn sep cs) = cs := by
  induction cs with
  | nil => rfl
  | cons c cs ih =>
    obtain ⟨piece, rest, hs⟩ := List.exists_cons_of_ne_nil (splitOn_ne_nil sep cs)
    rw [hs] at ih
    by_cases hc : c = sep
    · subst c
      rw [splitOn_sep_cons, hs]
      simpa [join] using ih
    · simpa [splitOn, hc, hs, join] using ih

theorem sep_notMem_of_mem_splitOn {sep : Char} {cs piece : List Char}
    (h : piece ∈ splitOn sep cs) : sep ∉ piece := by
  induction cs generalizing piece with
  | nil => simp_all [splitOn]
  | cons c cs ih =>
    by_cases hc : c = sep
    · subst c
      rw [splitOn_sep_cons] at h
      rcases List.mem_cons.mp h with rfl | h
      · simp
      · exact ih h
    · obtain ⟨first, rest, hs, hcs⟩ := splitOn_cons_of_ne hc cs
      rw [hcs] at h
      rcases List.mem_cons.mp h with rfl | h
      · have hfirst : sep ∉ first := ih (by simp [hs])
        simp [hfirst, Ne.symm hc]
      · exact ih (by simp [hs, h])

theorem splitOn_of_notMem {sep : Char} {cs : List Char} (h : sep ∉ cs) : splitOn sep cs = [cs] := by
  induction cs with
  | nil => rfl
  | cons c cs ih =>
    have hc : c ≠ sep := fun he => h (by simp [he])
    have hcs : sep ∉ cs := fun hm => h (List.mem_cons_of_mem c hm)
    rw [splitOn, if_neg hc, ih hcs]

theorem splitOn_append (sep : Char) (as bs : List Char) :
    splitOn sep (as ++ sep :: bs) = splitOn sep as ++ splitOn sep bs := by
  induction as with
  | nil => exact splitOn_sep_cons sep bs
  | cons c as ih =>
    by_cases hc : c = sep
    · subst hc
      rw [List.cons_append, splitOn_sep_cons, splitOn_sep_cons, ih, List.cons_append]
    · obtain ⟨piece, rest, hsplit, hcons⟩ := splitOn_cons_of_ne hc as
      rw [hcons, List.cons_append, splitOn, if_neg hc, ih, hsplit]
      rfl

theorem splitOn_append_sep {sep : Char} {piece : List Char} (h : sep ∉ piece) (cs : List Char) :
    splitOn sep (piece ++ sep :: cs) = piece :: splitOn sep cs := by
  rw [splitOn_append, splitOn_of_notMem h, List.singleton_append]

/-- A text is divided at the first separator. -/
theorem splitOnce_eq_some_iff {sep : Char} {cs before after : List Char} :
    splitOnce [sep] cs = some (before, after) ↔ cs = before ++ sep :: after ∧ sep ∉ before := by
  induction cs generalizing before with
  | nil => simp [splitOnce]
  | cons c cs ih =>
    by_cases hc : sep = c
    · subst hc
      have hfirst : splitOnce [sep] (sep :: cs) = some ([], cs) := by
        simp [splitOnce, List.isPrefixOf?]
      rw [hfirst]
      cases before with
      | nil => simp
      | cons d before =>
        have hno : ¬ (sep :: cs = d :: before ++ sep :: after ∧ sep ∉ d :: before) := by
          rintro ⟨heq, hmem⟩
          cases heq
          exact hmem List.mem_cons_self
        simpa using hno
    · have hrest : splitOnce [sep] (c :: cs) =
          (splitOnce [sep] cs).map fun parts => (c :: parts.1, parts.2) := by
        simp [splitOnce, List.isPrefixOf?, hc]
      rw [hrest, Option.map_eq_some_iff]
      constructor
      · rintro ⟨⟨front, back⟩, hsplit, heq⟩
        cases heq
        obtain ⟨rfl, hmem⟩ := ih.mp hsplit
        exact ⟨rfl, by simp [hc, hmem]⟩
      · rintro ⟨heq, hmem⟩
        cases before with
        | nil =>
          cases heq
          exact absurd rfl hc
        | cons d before =>
          cases heq
          have hbefore : sep ∉ before := fun h => hmem (List.mem_cons_of_mem _ h)
          exact ⟨(before, after), ih.mpr ⟨rfl, hbefore⟩, rfl⟩

theorem splitOnce_eq_none_iff {sep : Char} {cs : List Char} :
    splitOnce [sep] cs = none ↔ sep ∉ cs := by
  constructor
  · intro h hmem
    obtain ⟨before, after, rfl, hbefore⟩ := List.eq_append_cons_of_mem hmem
    rw [splitOnce_eq_some_iff.mpr ⟨rfl, hbefore⟩] at h
    cases h
  · intro h
    cases hsplit : splitOnce [sep] cs with
    | none => rfl
    | some parts =>
      obtain ⟨rfl, -⟩ := splitOnce_eq_some_iff.mp hsplit
      exact absurd (List.mem_append_right _ List.mem_cons_self) h

theorem dropSuffix?_eq_some_iff {suffix cs rest : List Char} :
    dropSuffix? suffix cs = some rest ↔ cs = rest ++ suffix := by
  unfold dropSuffix?
  rw [Option.map_eq_some_iff]
  constructor
  · rintro ⟨more, hprefix, rfl⟩
    have hreverse := congrArg List.reverse (List.append_eq_of_isPrefixOf?_eq_some hprefix)
    simpa using hreverse.symm
  · rintro rfl
    refine ⟨rest.reverse, ?_, List.reverse_reverse rest⟩
    rw [List.isPrefixOf?_eq_some_iff_append_eq, List.reverse_append]

/-- Lines that are written out with their newlines are read as they were. -/
theorem lines_flatMap_newline {pieces : List (List Char)} (hne : pieces ≠ [])
    (h : ∀ piece ∈ pieces, '\n' ∉ piece) : lines (pieces.flatMap (· ++ ['\n'])) = pieces := by
  have hs : splitOn '\n' (pieces.flatMap (· ++ ['\n'])) = pieces ++ [[]] := by
    clear hne
    induction pieces with
    | nil => rfl
    | cons piece rest ih =>
      have hrest := ih fun p hp => h p (by simp [hp])
      have hp : '\n' ∉ piece := h piece (by simp)
      simpa [hrest] using splitOn_append_sep hp (rest.flatMap (· ++ ['\n']))
  have hlen : 0 < pieces.length := List.length_pos_iff.mpr hne
  simp [lines, hs, hlen]

end Text

/-- Where pieces start if one character stands between neighbours. -/
def pieceStarts (offset : Nat) : List (List Char) → List Nat
  | [] => []
  | piece :: rest => offset :: pieceStarts (offset + piece.length + 1) rest

@[simp] theorem length_pieceStarts (offset : Nat) (pieces : List (List Char)) :
    (pieceStarts offset pieces).length = pieces.length := by
  induction pieces generalizing offset with
  | nil => rfl
  | cons piece rest ih => simp [pieceStarts, ih]

theorem newlineEnds_eq_pieceStarts (offset : Nat) (cs : List Char) :
    offset :: newlineEnds offset cs = pieceStarts offset (Text.splitOn '\n' cs) := by
  induction cs generalizing offset with
  | nil => rfl
  | cons c cs ih =>
    by_cases hc : c = '\n'
    · subst c
      simp [newlineEnds, Text.splitOn_sep_cons, pieceStarts, ih]
    · obtain ⟨piece, rest, hs, hcs⟩ := Text.splitOn_cons_of_ne hc cs
      have h := ih (offset + 1)
      rw [hs] at h
      simp only [pieceStarts, List.cons.injEq, true_and] at h
      simp only [newlineEnds, hc, if_false, hcs, pieceStarts, h, List.length_cons]
      congr 2
      omega

/-- A piece stands between its start and the next one. -/
theorem extract_pieceStarts (sep : Char) (pieces : List (List Char)) (before : List Char)
    {i : Nat} (hi : i < pieces.length) :
    (before ++ Text.join sep pieces).extract ((pieceStarts before.length pieces).getD i 0)
      (((pieceStarts before.length pieces)[i + 1]?.map (· - 1)).getD
        (before ++ Text.join sep pieces).length) = pieces[i] := by
  induction pieces generalizing before i with
  | nil => simp at hi
  | cons piece rest ih =>
    cases i with
    | zero =>
      cases rest with
      | nil => simp [pieceStarts, Text.join]
      | cons next rest => simp [pieceStarts, Text.join]
    | succ i =>
      have hi' : i < rest.length := by simpa using hi
      have hne : rest ≠ [] := List.ne_nil_of_length_pos (by omega)
      obtain ⟨next, more, rfl⟩ := List.exists_cons_of_ne_nil hne
      have hlen : (before ++ piece ++ [sep]).length = before.length + piece.length + 1 := by
        simp [Nat.add_assoc]
      have htext : before ++ Text.join sep (piece :: next :: more) =
          before ++ piece ++ [sep] ++ Text.join sep (next :: more) := by
        simp [Text.join]
      have h := ih (before ++ piece ++ [sep]) hi'
      rw [hlen, ← htext] at h
      simpa only [pieceStarts, List.getD_cons_succ, List.getElem?_cons_succ,
        List.getElem_cons_succ] using h

/-- The last piece reaches to the end of the text. -/
theorem getLast?_pieceStarts (sep : Char) (pieces : List (List Char)) (offset : Nat)
    (hne : pieces ≠ []) :
    ∃ start last, (pieceStarts offset pieces).getLast? = some start ∧
      pieces.getLast? = some last ∧
      start + last.length = offset + (Text.join sep pieces).length := by
  induction pieces generalizing offset with
  | nil => exact absurd rfl hne
  | cons piece rest ih =>
    cases rest with
    | nil => exact ⟨offset, piece, rfl, rfl, by simp [Text.join]⟩
    | cons next more =>
      obtain ⟨start, last, hstart, hlast, hlen⟩ := ih (offset + piece.length + 1) (by simp)
      refine ⟨start, last, ?_, by simpa using hlast, ?_⟩
      · simpa [pieceStarts] using hstart
      · rw [hlen]
        simp only [Text.join, List.flatMap_cons, List.length_append, List.length_cons]
        omega

/-- Behind the last member that gives something, none gives anything. -/
theorem getLast?_filterMap_eq_some {α β : Type} {f : α → Option β} {as : List α} {b : β} :
    (as.filterMap f).getLast? = some b ↔
      ∃ before a after, as = before ++ a :: after ∧ f a = some b ∧ ∀ c ∈ after, f c = none := by
  rw [List.getLast?_filterMap, List.findSome?_eq_some_iff]
  constructor
  · rintro ⟨after, a, before, has, ha, hafter⟩
    refine ⟨before.reverse, a, after.reverse, ?_, ha, by simpa using hafter⟩
    simpa using congrArg List.reverse has
  · rintro ⟨before, a, after, rfl, ha, hafter⟩
    exact ⟨after.reverse, a, before.reverse, by simp, ha, by simpa using hafter⟩

def numbered (first : Nat) : List String → List (Nat × String)
  | [] => []
  | text :: rest => (first, text) :: numbered (first + 1) rest

theorem le_and_lt_of_mem_numbered {first : Nat} {lines : List String} {l : Nat × String}
    (h : l ∈ numbered first lines) : first ≤ l.1 ∧ l.1 < first + lines.length := by
  induction lines generalizing first with
  | nil => simp [numbered] at h
  | cons text rest ih =>
    rw [List.length_cons]
    rcases List.mem_cons.mp h with rfl | h
    · omega
    · have := ih h
      omega

theorem pairwise_numbered (first : Nat) (lines : List String) :
    (numbered first lines).Pairwise (·.1 < ·.1) := by
  induction lines generalizing first with
  | nil => exact List.Pairwise.nil
  | cons text rest ih =>
    refine List.Pairwise.cons (fun l hl => ?_) (ih (first + 1))
    have := (le_and_lt_of_mem_numbered hl).1
    omega

theorem map_snd_numbered (first : Nat) (lines : List String) :
    (numbered first lines).map (·.2) = lines := by
  induction lines generalizing first with
  | nil => rfl
  | cons text rest ih => rw [numbered, List.map_cons, ih]

theorem mem_of_mem_numbered {first : Nat} {lines : List String} {l : Nat × String}
    (h : l ∈ numbered first lines) : l.2 ∈ lines := by
  have hmem := List.mem_map_of_mem (f := (·.2)) h
  rwa [map_snd_numbered] at hmem

theorem exists_mem_numbered {lines : List String} {text : String} (h : text ∈ lines)
    (first : Nat) : ∃ n, (n, text) ∈ numbered first lines := by
  rw [← map_snd_numbered first lines] at h
  obtain ⟨l, hl, rfl⟩ := List.mem_map.mp h
  exact ⟨l.1, hl⟩

theorem length_numbered (first : Nat) (lines : List String) :
    (numbered first lines).length = lines.length := by
  rw [← List.length_map (·.2), map_snd_numbered]

theorem getElem?_numbered (first : Nat) (lines : List String) (i : Nat) :
    (numbered first lines)[i]? = lines[i]?.map (first + i, ·) := by
  induction lines generalizing first i with
  | nil => rfl
  | cons text rest ih =>
    cases i with
    | zero => rfl
    | succ i =>
      rw [numbered, List.getElem?_cons_succ, List.getElem?_cons_succ, ih, Nat.add_assoc,
        Nat.add_comm 1 i]

theorem numbered_append (first : Nat) (lines later : List String) :
    numbered first (lines ++ later) =
      numbered first lines ++ numbered (first + lines.length) later := by
  induction lines generalizing first with
  | nil => rfl
  | cons text rest ih =>
    have hn : first + 1 + rest.length = first + (rest.length + 1) := by omega
    rw [List.cons_append, numbered, ih, numbered, List.length_cons, hn, List.cons_append]

/-- Numbered lines in a row are numbered in a row. -/
theorem eq_numbered_of_append {first : Nat} {lines : List String}
    {before between after : List (Nat × String)}
    (h : numbered first lines = before ++ between ++ after) :
    between = numbered (first + before.length) (between.map (·.2)) := by
  have hlines : lines = before.map (·.2) ++ between.map (·.2) ++ after.map (·.2) := by
    rw [← map_snd_numbered first lines, h, List.map_append, List.map_append]
  rw [hlines, numbered_append, numbered_append, List.length_map] at h
  have hlen : (numbered first (before.map (·.2)) ++
      numbered (first + before.length) (between.map (·.2))).length =
      (before ++ between).length := by
    simp [length_numbered]
  have hfront := (List.append_inj h hlen).1
  have hbefore : (numbered first (before.map (·.2))).length = before.length := by
    rw [length_numbered, List.length_map]
  exact (List.append_inj hfront hbefore).2.symm

theorem filterMap_range'_eq_numbered (lines : List String) (first : Nat) (hf : 0 < first) :
    (List.range' first (lines.length + 1 - first)).filterMap
      (fun n => (lines[n - 1]?).map (n, ·)) = numbered first (lines.drop (first - 1)) := by
  by_cases hlt : lines.length < first
  · have hd : lines.drop (first - 1) = [] := List.drop_eq_nil_of_le (by omega)
    have hz : lines.length + 1 - first = 0 := by omega
    simp [hd, hz, numbered]
  · have hi : first - 1 < lines.length := by omega
    have hr := filterMap_range'_eq_numbered lines (first + 1) (by omega)
    have hlen : lines.length + 1 - first = (lines.length + 1 - (first + 1)) + 1 := by omega
    have hd : first - 1 + 1 = first := by omega
    rw [hlen, List.range'_succ, List.filterMap_cons, List.getElem?_eq_getElem hi]
    simp only [Option.map_some]
    rw [hr, List.drop_eq_getElem_cons hi, hd]
    rfl
termination_by lines.length + 1 - first

namespace SourceFile

/-! A text that is written out is evaluated by its characters. To decode its bytes would take a time
that grows with the square of its length. -/

section
variable {id : FileId} {name s s' s'' : String} {cs cs' cs'' : List Char}

theorem ofText_literal (h : s = String.ofList cs) :
    ofText id name s = { id, name, chars := cs.toArray } := by
  obtain rfl : s.toList = cs := by rw [h, String.toList_ofList]
  rfl

theorem ofText_append (h : s = String.ofList cs) (h' : s' = String.ofList cs') :
    ofText id name (s ++ s') = { id, name, chars := (cs ++ cs').toArray } :=
  ofText_literal (by rw [h, h', String.ofList_append])

theorem ofText_append₃ (h : s = String.ofList cs) (h' : s' = String.ofList cs')
    (h'' : s'' = String.ofList cs'') :
    ofText id name (s ++ s' ++ s'') = { id, name, chars := (cs ++ cs' ++ cs'').toArray } :=
  ofText_append (by rw [h, h', String.ofList_append]) h''

end

def lines (f : SourceFile) : List String :=
  (Text.lines f.chars.toList).map fun line => String.ofList (withoutReturn line)

theorem starts_eq_pieceStarts (f : SourceFile) :
    f.starts = (pieceStarts 0 (Text.splitOn '\n' f.chars.toList)).toArray := by
  rw [f.starts_eq, lineStarts, newlineEnds_eq_pieceStarts]

theorem lineCount_eq_length (f : SourceFile) : f.lineCount = f.lines.length := by
  obtain ⟨start, last, hstart, hlast, hlen⟩ := getLast?_pieceStarts '\n'
    (Text.splitOn '\n' f.chars.toList) 0 (Text.splitOn_ne_nil _ _)
  rw [Text.join_splitOn, Nat.zero_add] at hlen
  have hsize : f.starts.size = (Text.splitOn '\n' f.chars.toList).length := by
    simp [starts_eq_pieceStarts]
  have hback : f.starts.back? = some start := by
    rw [starts_eq_pieceStarts, List.back?_toArray, hstart]
  have hiff : start = f.chars.size ↔ last = [] := by
    rw [← List.length_eq_zero_iff]
    have h : f.chars.toList.length = f.chars.size := Array.length_toList
    omega
  simp only [lineCount, hback, hsize, lines, Text.lines, hlast, Option.some.injEq, hiff,
    List.length_map]
  by_cases h : last = [] ∧ 1 < (Text.splitOn '\n' f.chars.toList).length
  · rw [if_pos h, if_pos h.symm, List.length_dropLast]
  · rw [if_neg h, if_neg fun hc => h hc.symm]

theorem getElem_lines_eq_getElem_splitOn {cs : List Char} {i : Nat}
    (hi : i < (Text.lines cs).length) :
    ∃ hs : i < (Text.splitOn '\n' cs).length, (Text.lines cs)[i] = (Text.splitOn '\n' cs)[i] := by
  unfold Text.lines at hi ⊢
  dsimp only at hi ⊢
  split at hi
  · rename_i h
    rw [List.length_dropLast] at hi
    refine ⟨by omega, ?_⟩
    simp only [if_pos h, List.getElem_dropLast]
  · rename_i h
    exact ⟨hi, by simp only [if_neg h]⟩

theorem line?_eq_getElem? (f : SourceFile) {n : Nat} (hn : 0 < n) :
    f.line? n = f.lines[n - 1]? := by
  unfold line?
  by_cases hlt : f.lineCount < n
  · rw [if_pos (Or.inr hlt), List.getElem?_eq_none]
    rw [← lineCount_eq_length]
    omega
  · have hi : n - 1 < (Text.lines f.chars.toList).length := by
      have h := f.lineCount_eq_length
      simp only [lines, List.length_map] at h
      omega
    obtain ⟨hs, hpiece⟩ := getElem_lines_eq_getElem_splitOn hi
    have hx := extract_pieceStarts '\n' (Text.splitOn '\n' f.chars.toList) [] hs
    rw [List.nil_append, Text.join_splitOn, List.length_nil, Nat.sub_add_cancel hn] at hx
    have hstart : f.starts.getD (n - 1) 0 =
        (pieceStarts 0 (Text.splitOn '\n' f.chars.toList)).getD (n - 1) 0 := by
      rw [starts_eq_pieceStarts, Array.getD_eq_getD_getElem?, List.getElem?_toArray,
        List.getD_eq_getElem?_getD]
    have hnext : f.starts[n]? = (pieceStarts 0 (Text.splitOn '\n' f.chars.toList))[n]? := by
      rw [starts_eq_pieceStarts, List.getElem?_toArray]
    have hline : ∀ stop, stop = (f.starts[n]?.map (· - 1)).getD f.chars.toList.length →
        some (String.ofList (withoutReturn
          (f.chars.extract (f.starts.getD (n - 1) 0) stop).toList)) = f.lines[n - 1]? := by
      rintro stop rfl
      rw [hnext, hstart, Array.toList_extract, hx, ← hpiece]
      simp [lines, List.getElem?_eq_getElem hi]
    rw [if_neg (by omega)]
    apply hline
    cases f.starts[n]? with
    | none => exact Array.length_toList.symm
    | some next => rfl

/-- A line index goes through the lines in order. -/
theorem linesFrom_eq_numbered (f : SourceFile) (first : Nat) :
    f.linesFrom first = numbered (max first 1) (f.lines.drop (max first 1 - 1)) := by
  rw [← filterMap_range'_eq_numbered _ _ (by omega), ← lineCount_eq_length]
  unfold linesFrom
  apply List.filterMap_congr
  intro n hn
  rw [line?_eq_getElem? f (by have := (List.mem_range'_1.mp hn).1; omega)]

/-- The text that consists of some lines of a file, with their ends. -/
def excerpt (f : SourceFile) (first count : Nat) : SourceFile :=
  .ofText f.id f.name
    (String.ofList ((((Text.lines f.chars.toList).drop (first - 1)).take count).flatMap
      (· ++ ['\n'])))

theorem mem_splitOn_of_mem_lines {cs line : List Char} (h : line ∈ Text.lines cs) :
    line ∈ Text.splitOn '\n' cs := by
  unfold Text.lines at h
  dsimp only at h
  split at h
  · exact List.dropLast_subset _ h
  · exact h

theorem lines_excerpt (f : SourceFile) {first count : Nat} (hc : 0 < count)
    (hf : first - 1 < f.lines.length) :
    (f.excerpt first count).lines = (f.lines.drop (first - 1)).take count := by
  have hpieces : ∀ piece ∈ ((Text.lines f.chars.toList).drop (first - 1)).take count,
      '\n' ∉ piece := fun piece hp =>
    Text.sep_notMem_of_mem_splitOn
      (mem_splitOn_of_mem_lines (List.mem_of_mem_drop (List.mem_of_mem_take hp)))
  have hne : ((Text.lines f.chars.toList).drop (first - 1)).take count ≠ [] := by
    have hlen : first - 1 < (Text.lines f.chars.toList).length := by simpa [lines] using hf
    simp only [ne_eq, List.take_eq_nil_iff, List.drop_eq_nil_iff]
    omega
  unfold lines excerpt ofText
  simp only [String.toList_ofList]
  rw [Text.lines_flatMap_newline hne hpieces, List.map_take, List.map_drop]

end SourceFile

end PathTiming
