import PathTiming.Proofs.LineIndex

/-! The index of a text gives the same lines as dividing it at its newlines. Every line is a slice
of the text, also when it is counted in bytes, and a carriage return before each newline changes no
line. -/
namespace PathTiming

namespace Text

theorem mem_of_mem_splitOn {sep c : Char} {cs piece : List Char} (h : piece ∈ splitOn sep cs)
    (hc : c ∈ piece) : c ∈ cs := by
  induction cs generalizing piece with
  | nil =>
    rw [splitOn, List.mem_singleton] at h
    rwa [h] at hc
  | cons d cs ih =>
    by_cases hd : d = sep
    · subst d
      rw [splitOn_sep_cons] at h
      rcases List.mem_cons.mp h with rfl | h
      · cases hc
      · exact List.mem_cons_of_mem _ (ih h hc)
    · obtain ⟨first, rest, hs, hcs⟩ := splitOn_cons_of_ne hd cs
      rw [hcs] at h
      rcases List.mem_cons.mp h with rfl | h
      · rcases List.mem_cons.mp hc with rfl | hc
        · exact List.mem_cons_self
        · exact List.mem_cons_of_mem _ (ih (by rw [hs]; exact List.mem_cons_self) hc)
      · exact List.mem_cons_of_mem _ (ih (by rw [hs]; exact List.mem_cons_of_mem _ h) hc)

def withReturns (cs : List Char) : List Char :=
  cs.flatMap fun c => if c = '\n' then ['\r', '\n'] else [c]

/-- Pieces with a carriage return at the end of each but the last. -/
def returned : List (List Char) → List (List Char)
  | [] => []
  | [last] => [last]
  | piece :: next :: rest => (piece ++ ['\r']) :: returned (next :: rest)

theorem splitOn_withReturns (cs : List Char) :
    splitOn '\n' (withReturns cs) = returned (splitOn '\n' cs) := by
  induction cs with
  | nil => rfl
  | cons c cs ih =>
    obtain ⟨piece, rest, hs⟩ := List.exists_cons_of_ne_nil (splitOn_ne_nil '\n' cs)
    by_cases hc : c = '\n'
    · subst c
      have hcs : withReturns ('\n' :: cs) = ['\r'] ++ '\n' :: withReturns cs := rfl
      rw [hcs, splitOn_append_sep (by decide), ih, splitOn_sep_cons, hs]
      rfl
    · have hcs : withReturns (c :: cs) = c :: withReturns cs := by simp [withReturns, hc]
      rw [hs] at ih
      rw [hcs, splitOn, if_neg hc, ih, splitOn, if_neg hc, hs]
      cases rest <;> rfl

section
variable (pieces : List (List Char))

theorem length_returned : (returned pieces).length = pieces.length := by
  fun_induction returned pieces with
  | case1 => rfl
  | case2 last => rfl
  | case3 piece next rest ih => simp only [List.length_cons, ih]

theorem getLast?_returned : (returned pieces).getLast? = pieces.getLast? := by
  fun_induction returned pieces with
  | case1 => rfl
  | case2 last => rfl
  | case3 piece next rest ih =>
    have hne : returned (next :: rest) ≠ [] := by
      rw [← List.length_pos_iff, length_returned]
      exact Nat.succ_pos _
    obtain ⟨first, more, hmore⟩ := List.exists_cons_of_ne_nil hne
    rw [List.getLast?_cons_cons, ← ih, hmore, List.getLast?_cons_cons]

end

end Text

namespace SourceFile

/-- At most one carriage return is taken off the end of a line. -/
theorem withoutReturn_eq (line : List Char) :
    withoutReturn line = (Text.dropSuffix? ['\r'] line).getD line := by
  cases hdrop : Text.dropSuffix? ['\r'] line with
  | some rest =>
    rw [Text.dropSuffix?_eq_some_iff] at hdrop
    rw [hdrop]
    simp [withoutReturn]
  | none =>
    refine if_neg fun hlast => ?_
    obtain ⟨rest, hrest⟩ := List.getLast?_eq_some_iff.mp hlast
    rw [Text.dropSuffix?_eq_some_iff.mpr hrest] at hdrop
    cases hdrop

theorem withoutReturn_of_notMem {line : List Char} (h : '\r' ∉ line) :
    withoutReturn line = line :=
  if_neg fun hlast => h (List.mem_of_getLast? hlast)

theorem map_withoutReturn_returned {pieces : List (List Char)}
    (h : ∀ piece ∈ pieces, '\r' ∉ piece) :
    (Text.returned pieces).map withoutReturn = pieces.map withoutReturn := by
  fun_induction Text.returned pieces with
  | case1 => rfl
  | case2 last => rfl
  | case3 piece next rest ih =>
    have hpiece : withoutReturn (piece ++ ['\r']) = withoutReturn piece := by
      rw [withoutReturn_of_notMem (h piece List.mem_cons_self)]
      simp [withoutReturn]
    rw [List.map_cons, List.map_cons, hpiece, ih fun p hp => h p (List.mem_cons_of_mem _ hp)]

/-- Carriage returns before the newlines change no line of a text without carriage returns. -/
theorem lines_withReturns {f g : SourceFile} (h : '\r' ∉ f.chars.toList)
    (hg : g.chars.toList = Text.withReturns f.chars.toList) : g.lines = f.lines := by
  have hpieces : ∀ piece ∈ Text.splitOn '\n' f.chars.toList, '\r' ∉ piece :=
    fun piece hp hr => h (Text.mem_of_mem_splitOn hp hr)
  have hmap := map_withoutReturn_returned hpieces
  have hlines : (Text.lines g.chars.toList).map withoutReturn =
      (Text.lines f.chars.toList).map withoutReturn := by
    unfold Text.lines
    rw [hg, Text.splitOn_withReturns]
    dsimp only
    rw [Text.length_returned, Text.getLast?_returned]
    split_ifs
    · rw [List.map_dropLast, List.map_dropLast, hmap]
    · exact hmap
  have hstrings := congrArg (List.map String.ofList) hlines
  rw [List.map_map, List.map_map] at hstrings
  exact hstrings

end SourceFile

/-! ### Bytes -/

def Text.bytes (cs : List Char) : List UInt8 := cs.flatMap String.utf8EncodeChar

theorem Text.bytes_append (as bs : List Char) : bytes (as ++ bs) = bytes as ++ bytes bs :=
  List.flatMap_append

/-- A newline is one byte. -/
theorem Text.length_bytes_take_succ {cs : List Char} {k : Nat} (h : cs[k]? = some '\n') :
    (bytes (cs.take (k + 1))).length = (bytes (cs.take k)).length + 1 := by
  rw [List.take_add_one, h, bytes_append, List.length_append]
  rfl

/-- Positions after the newline bytes of a text that starts at `offset`. -/
def newlineByteEnds (offset : Nat) : List UInt8 → List Nat
  | [] => []
  | b :: bs =>
    if b = 10 then (offset + 1) :: newlineByteEnds (offset + 1) bs
    else newlineByteEnds (offset + 1) bs

theorem newlineByteEnds_append_of_notMem (offset : Nat) {bs : List UInt8} (h : 10 ∉ bs)
    (later : List UInt8) :
    newlineByteEnds offset (bs ++ later) = newlineByteEnds (offset + bs.length) later := by
  induction bs generalizing offset with
  | nil => rfl
  | cons b bs ih =>
    have hb : b ≠ 10 := fun he => h (by rw [he]; exact List.mem_cons_self)
    rw [List.cons_append, newlineByteEnds, if_neg hb,
      ih (offset + 1) fun hm => h (List.mem_cons_of_mem _ hm), List.length_cons]
    congr 1
    omega

/-- No other character has the byte of a newline in it. -/
theorem newline_notMem_utf8EncodeChar {c : Char} (h : c ≠ '\n') :
    10 ∉ String.utf8EncodeChar c := by
  have hval : c.val.toNat ≠ 10 := fun he => h (Char.ext (UInt32.toNat_inj.mp he))
  obtain ⟨values, henc, hvalues⟩ : ∃ values : List Nat,
      String.utf8EncodeChar c = values.map UInt8.ofNat ∧ ∀ n ∈ values, n < 256 ∧ n ≠ 10 := by
    unfold String.utf8EncodeChar
    generalize c.val.toNat = value at hval
    dsimp only
    -- All bytes of a character that takes more than one are 128 or more.
    split_ifs
    · exact ⟨[_], rfl, by simp; omega⟩
    · exact ⟨[_, _], rfl, by simp; omega⟩
    · exact ⟨[_, _, _], rfl, by simp; omega⟩
    · exact ⟨[_, _, _, _], rfl, by simp; omega⟩
  intro hmem
  rw [henc] at hmem
  obtain ⟨n, hn, hbyte⟩ := List.mem_map.mp hmem
  obtain ⟨hlt, hne⟩ := hvalues n hn
  have hnat := congrArg UInt8.toNat hbyte
  rw [UInt8.toNat_ofNat_of_lt' hlt] at hnat
  exact hne hnat

/-- The newline bytes of a text end where its newlines end. -/
theorem newlineByteEnds_bytes (before cs : List Char) :
    newlineByteEnds (Text.bytes before).length (Text.bytes cs) =
      (newlineEnds before.length cs).map fun i => (Text.bytes ((before ++ cs).take i)).length := by
  induction cs generalizing before with
  | nil => rfl
  | cons c cs ih =>
    have hcs : Text.bytes (c :: cs) = String.utf8EncodeChar c ++ Text.bytes cs := List.flatMap_cons
    have hbefore : (Text.bytes (before ++ [c])).length =
        (Text.bytes before).length + (String.utf8EncodeChar c).length := by
      rw [Text.bytes_append, List.length_append]
      simp only [Text.bytes, List.flatMap_singleton]
    have hrest := ih (before ++ [c])
    rw [hbefore, List.append_assoc, List.singleton_append, List.length_append,
      List.length_singleton] at hrest
    rw [hcs, newlineEnds]
    split_ifs with hc
    · subst c
      have hhead : (before ++ '\n' :: cs).take (before.length + 1) = before ++ ['\n'] := by
        rw [← List.singleton_append, ← List.append_assoc]
        exact List.take_left' (by simp)
      rw [List.map_cons, hhead, hbefore, ← hrest]
      rfl
    · rw [newlineByteEnds_append_of_notMem _ (newline_notMem_utf8EncodeChar hc), hrest]

/-! ### Slices -/

/-- Each piece reaches from its start to the character before the start of the next piece, and the
last one to the end of the text. -/
theorem pieceStarts_spans (sep : Char) {pieces : List (List Char)} (offset : Nat) {i : Nat}
    (hi : i < pieces.length) :
    ∃ start, (pieceStarts offset pieces)[i]? = some start ∧
      start + pieces[i].length ≤ offset + (Text.join sep pieces).length ∧
      (pieceStarts offset pieces)[i + 1]?.getD (offset + (Text.join sep pieces).length + 1) =
        start + pieces[i].length + 1 := by
  induction pieces generalizing offset i with
  | nil => cases hi
  | cons piece rest ih =>
    cases rest with
    | nil =>
      obtain rfl : i = 0 := by simpa using hi
      exact ⟨offset, rfl, by simp [Text.join], by simp [pieceStarts, Text.join]⟩
    | cons next more =>
      have hlength : (Text.join sep (piece :: next :: more)).length =
          piece.length + 1 + (Text.join sep (next :: more)).length := by
        simp only [Text.join, List.flatMap_cons, List.length_append, List.length_cons]
        omega
      have htotal : offset + (Text.join sep (piece :: next :: more)).length =
          offset + piece.length + 1 + (Text.join sep (next :: more)).length := by omega
      rw [htotal]
      cases i with
      | zero =>
        refine ⟨offset, rfl, ?_, rfl⟩
        rw [List.getElem_cons_zero]
        omega
      | succ i => exact ih (offset + piece.length + 1) (by simpa using hi)

theorem newline_of_mem_newlineEnds {offset stop : Nat} {cs : List Char}
    (h : stop ∈ newlineEnds offset cs) : ∃ k, stop = offset + k + 1 ∧ cs[k]? = some '\n' := by
  induction cs generalizing offset with
  | nil => cases h
  | cons c cs ih =>
    have hlater : stop ∈ newlineEnds (offset + 1) cs →
        ∃ k, stop = offset + k + 1 ∧ (c :: cs)[k]? = some '\n' := by
      intro hmem
      obtain ⟨k, hk, hnewline⟩ := ih hmem
      exact ⟨k + 1, by omega, hnewline⟩
    unfold newlineEnds at h
    split_ifs at h with hc
    · rcases List.mem_cons.mp h with rfl | hmem
      · exact ⟨0, rfl, by rw [hc]; rfl⟩
      · exact hlater hmem
    · exact hlater h

/-- Where a piece ends that is found by the starts of the pieces: before the separator in front of
the next start, or with the whole. -/
def sliceEnd {α : Type} (whole : List α) (starts : List Nat) (i : Nat) : Nat :=
  (starts[i + 1]?.map (· - 1)).getD whole.length

/-- A piece is cut out of the whole at its start and its end. No bound lies outside of the whole,
and none is taken below zero. -/
structure IsSlice {α : Type} (whole : List α) (starts : List Nat) (i : Nat) (piece : List α) :
    Prop where
  start : i < starts.length
  next : ∀ next ∈ starts[i + 1]?, 0 < next
  ordered : starts.getD i 0 ≤ sliceEnd whole starts i
  inside : sliceEnd whole starts i ≤ whole.length
  eq : whole.extract (starts.getD i 0) (sliceEnd whole starts i) = piece

/-- Starts of pieces that were counted in characters, counted in bytes. -/
theorem IsSlice.bytes {cs piece : List Char} {starts : List Nat} {i : Nat}
    (h : IsSlice cs starts i piece)
    (hnewline : ∀ next ∈ starts[i + 1]?, ∃ k, next = k + 1 ∧ cs[k]? = some '\n') :
    IsSlice (Text.bytes cs) (starts.map fun j => (Text.bytes (cs.take j)).length) i
      (Text.bytes piece) := by
  have hstart : (starts.map fun j => (Text.bytes (cs.take j)).length).getD i 0 =
      (Text.bytes (cs.take (starts.getD i 0))).length := by
    have hi := h.start
    simp [List.getD_eq_getElem?_getD, hi]
  have hend : sliceEnd (Text.bytes cs) (starts.map fun j => (Text.bytes (cs.take j)).length) i =
      (Text.bytes (cs.take (sliceEnd cs starts i))).length := by
    unfold sliceEnd
    rw [List.getElem?_map]
    cases hnext : starts[i + 1]? with
    | none => simp
    | some next =>
      obtain ⟨k, rfl, hk⟩ := hnewline next hnext
      simp [Text.length_bytes_take_succ hk]
  -- The text is what comes before the piece, the piece, and what comes behind it.
  have hsplit : cs.take (sliceEnd cs starts i) = cs.take (starts.getD i 0) ++ piece := by
    rw [← h.eq, List.extract_eq_take_drop, ← List.take_append_drop (starts.getD i 0)
      (cs.take (sliceEnd cs starts i)), List.take_take, Nat.min_eq_left h.ordered, List.drop_take]
  have hwhole : Text.bytes cs = Text.bytes (cs.take (starts.getD i 0)) ++ Text.bytes piece ++
      Text.bytes (cs.drop (sliceEnd cs starts i)) := by
    rw [← Text.bytes_append, ← hsplit, ← Text.bytes_append, List.take_append_drop]
  have hlength : (Text.bytes (cs.take (sliceEnd cs starts i))).length =
      (Text.bytes (cs.take (starts.getD i 0))).length + (Text.bytes piece).length := by
    rw [hsplit, Text.bytes_append, List.length_append]
  constructor
  · rw [List.length_map]
    exact h.start
  · intro next hmem
    rw [List.getElem?_map] at hmem
    obtain ⟨j, hj, rfl⟩ := Option.map_eq_some_iff.mp hmem
    obtain ⟨k, rfl, hk⟩ := hnewline j hj
    rw [Text.length_bytes_take_succ hk]
    exact Nat.succ_pos _
  · rw [hstart, hend, hlength]
    exact Nat.le_add_right _ _
  · rw [hend, hlength, hwhole, List.length_append, List.length_append]
    exact Nat.le_add_right _ _
  · rw [hstart, hend, hlength, hwhole, List.extract_eq_take_drop, List.append_assoc,
      List.drop_left, Nat.add_sub_cancel_left, List.take_left]

namespace SourceFile

variable (f : SourceFile)

/-- The pieces of a text between its newlines. An empty last piece is no line, unless it is the
only one. -/
def pieces : List (List Char) := Text.lines f.chars.toList

/-- A piece as a line. At most one carriage return is taken off its end. -/
def lineOf (piece : List Char) : String :=
  String.ofList ((Text.dropSuffix? ['\r'] piece).getD piece)

/-- Positions at which the lines of a text start, counted in bytes. -/
def byteStarts : List Nat := 0 :: newlineByteEnds 0 (Text.bytes f.chars.toList)

theorem lines_eq_map_lineOf : f.lines = f.pieces.map lineOf :=
  List.map_congr_left fun line _ => congrArg String.ofList (withoutReturn_eq line)

theorem lineCount_eq_length_pieces : f.lineCount = f.pieces.length := by
  rw [lineCount_eq_length, lines_eq_map_lineOf, List.length_map]

theorem line?_succ {i : Nat} (hi : i < f.pieces.length) :
    f.line? (i + 1) = some (lineOf f.pieces[i]) := by
  rw [line?_eq_getElem? f (Nat.add_one_pos i), lines_eq_map_lineOf, Nat.add_sub_cancel,
    List.getElem?_map, List.getElem?_eq_getElem hi, Option.map_some]

theorem line?_eq_none_iff {n : Nat} : f.line? n = none ↔ n = 0 ∨ f.pieces.length < n := by
  rw [← lineCount_eq_length_pieces]
  unfold line?
  by_cases h : n = 0 ∨ f.lineCount < n
  · rw [if_pos h]
    exact iff_of_true rfl h
  · rw [if_neg h]
    exact iff_of_false (Option.some_ne_none _) h

theorem isSlice_chars {i : Nat} (hi : i < f.pieces.length) :
    IsSlice f.chars.toList f.starts.toList i f.pieces[i] := by
  obtain ⟨hs, hpiece⟩ := getElem_lines_eq_getElem_splitOn hi
  obtain ⟨start, hstart, hinside, hnext⟩ := pieceStarts_spans '\n' 0 hs
  have hslice := extract_pieceStarts '\n' (Text.splitOn '\n' f.chars.toList) [] hs
  rw [List.nil_append, List.length_nil] at hslice
  rw [Text.join_splitOn] at hinside hnext hslice
  rw [starts_eq_pieceStarts, List.toList_toArray]
  generalize pieceStarts 0 (Text.splitOn '\n' f.chars.toList) = starts at hstart hnext hslice ⊢
  have hfrom : starts.getD i 0 = start := by rw [List.getD_eq_getElem?_getD, hstart]; rfl
  have hpos : ∀ next ∈ starts[i + 1]?, 0 < next := by
    intro next hmem
    rw [Option.mem_def.mp hmem, Option.getD_some] at hnext
    omega
  have hend : sliceEnd f.chars.toList starts i =
      start + (Text.splitOn '\n' f.chars.toList)[i].length := by
    unfold sliceEnd
    cases hstop : starts[i + 1]? with
    | none =>
      rw [hstop, Option.getD_none] at hnext
      rw [Option.map_none, Option.getD_none]
      omega
    | some next =>
      rw [hstop, Option.getD_some] at hnext
      rw [Option.map_some, Option.getD_some]
      omega
  refine ⟨(List.getElem?_eq_some_iff.mp hstart).1, hpos, ?_, ?_, hslice.trans hpiece.symm⟩
  · rw [hfrom, hend]
    exact Nat.le_add_right _ _
  · rwa [hend, ← Nat.zero_add f.chars.toList.length]

theorem isSlice_bytes {i : Nat} (hi : i < f.pieces.length) :
    IsSlice (Text.bytes f.chars.toList) f.byteStarts i (Text.bytes f.pieces[i]) := by
  have hstarts : f.starts.toList = 0 :: newlineEnds 0 f.chars.toList := by
    rw [f.starts_eq]
    rfl
  have hslice := f.isSlice_chars hi
  rw [hstarts] at hslice
  have hbytes := hslice.bytes fun next hmem => by
    obtain ⟨k, hk, hnewline⟩ := newline_of_mem_newlineEnds (List.mem_of_getElem? hmem)
    exact ⟨k, by omega, hnewline⟩
  rw [byteStarts]
  have hends := newlineByteEnds_bytes [] f.chars.toList
  rw [List.nil_append, List.length_nil] at hends
  rwa [List.map_cons, ← hends] at hbytes

/-- No number from the first line on is left out. -/
theorem linesFrom_eq_map (first : Nat) :
    (f.linesFrom first).map (fun l => (l.1, some l.2)) =
      (List.range' (max first 1) (f.pieces.length + 1 - max first 1)).map
        fun n => (n, f.line? n) := by
  unfold linesFrom
  dsimp only
  rw [List.map_filterMap, lineCount_eq_length_pieces, ← List.filterMap_eq_map]
  refine List.filterMap_congr fun n hn => ?_
  have hrange := List.mem_range'_1.mp hn
  cases hline : f.line? n with
  | none =>
    rcases f.line?_eq_none_iff.mp hline with hzero | hbehind <;> omega
  | some line => rw [Function.comp_apply, hline]; rfl

/-- The lines of a text are the pieces between its newlines, each without a carriage return at its
end, and they have the numbers from one on. Each is cut out within the bounds of the text, also when
these are counted in bytes. A carriage return before each newline of a text that has none changes
neither their number nor any of them. -/
theorem index_eq_split :
    f.lineCount = f.pieces.length ∧
    (∀ i (hi : i < f.pieces.length), f.line? (i + 1) = some (lineOf f.pieces[i]) ∧
      IsSlice f.chars.toList f.starts.toList i f.pieces[i] ∧
      IsSlice (Text.bytes f.chars.toList) f.byteStarts i (Text.bytes f.pieces[i])) ∧
    (∀ n, f.line? n = none ↔ n = 0 ∨ f.pieces.length < n) ∧
    (∀ first, (f.linesFrom first).map (fun l => (l.1, some l.2)) =
      (List.range' (max first 1) (f.pieces.length + 1 - max first 1)).map
        fun n => (n, f.line? n)) ∧
    (∀ g : SourceFile, '\r' ∉ f.chars.toList → g.chars.toList = Text.withReturns f.chars.toList →
      g.lineCount = f.lineCount ∧ ∀ n, g.line? n = f.line? n) := by
  refine ⟨f.lineCount_eq_length_pieces,
    fun i hi => ⟨f.line?_succ hi, f.isSlice_chars hi, f.isSlice_bytes hi⟩,
    fun n => f.line?_eq_none_iff, f.linesFrom_eq_map, fun g hreturn hg => ?_⟩
  have hlines := lines_withReturns hreturn hg
  have hcount : g.lineCount = f.lineCount := by
    rw [lineCount_eq_length, hlines, ← lineCount_eq_length]
  refine ⟨hcount, fun n => ?_⟩
  rcases Nat.eq_zero_or_pos n with rfl | hn
  · rfl
  · rw [line?_eq_getElem? g hn, hlines, ← line?_eq_getElem? f hn]

/-- A text with an empty line, of which one character takes two bytes. -/
def threeLines : SourceFile := .ofText ⟨0⟩ "three_lines" "é\n\nb\n"

def threeReturned : SourceFile := .ofText ⟨0⟩ "three_returned" "é\r\n\r\nb\r\n"

theorem index_eq_split_threeLines :
    '\r' ∉ threeLines.chars.toList ∧
      threeReturned.chars.toList = Text.withReturns threeLines.chars.toList ∧
      threeReturned.lineCount = 3 ∧ threeReturned.line? 1 = some "é" ∧
      threeReturned.line? 2 = some "" ∧ threeReturned.line? 3 = some "b" := by
  have hreturn : '\r' ∉ threeLines.chars.toList := by decide
  have htext : threeReturned.chars.toList = Text.withReturns threeLines.chars.toList := by decide
  have hpieces : threeLines.pieces = [['é'], [], ['b']] := by decide
  obtain ⟨hcount, hline, -, -, hsame⟩ := threeLines.index_eq_split
  obtain ⟨hsameCount, hsameLine⟩ := hsame threeReturned hreturn htext
  have hlength : threeLines.pieces.length = 3 := by rw [hpieces]; rfl
  refine ⟨hreturn, htext, hsameCount.trans (hcount.trans hlength), ?_, ?_, ?_⟩
  · exact (hsameLine 1).trans (hline 0 (by rw [hlength]; decide)).1
  · exact (hsameLine 2).trans (hline 1 (by rw [hlength]; decide)).1
  · exact (hsameLine 3).trans (hline 2 (by rw [hlength]; decide)).1

end SourceFile

end PathTiming
