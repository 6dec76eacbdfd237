import PathTiming.Proofs.ParsedPath
import PathTiming.Proofs.WordBoundary

/-! Which rows of the tables of a block become pins. Each row of a pin does, in order, but for rows
whose names begin like the header of a table. -/
namespace PathTiming

/-- The row of a pin or net that a line is: it is no ruler and has no label, and its second word
opens a parenthesis. -/
def tableRow? (line : Nat) (text : List Char) : Option PinRow :=
  if (Text.trim text).all (· == '-') || (Row.ofText? (Text.trim text)).isSome then none
  else
    match PinRow.ofLine? line text with
    | .ok row? => row?
    | .error _ => none

/-- The header of a table is told by how its first word begins. -/
theorem isTableHeader_trim (text : List Char) :
    Block.isTableHeader (Text.trim text) = Block.isTableHeader (Block.firstWord text).toList := by
  have hfirst : (Block.firstWord text).toList =
      (Text.trimStart text).takeWhile (!Unicode.isBlank ·) := by
    rw [Block.firstWord, String.toList_ofList, Text.headD_words]
  have hlabel : "Point".toList = "Poin".toList ++ ['t'] := by decide
  have hword : "Point".toList.all (!Unicode.isBlank ·) = true := by decide
  rw [hfirst, Bool.eq_iff_iff, Block.isTableHeader, Block.isTableHeader,
    List.isPrefixOf_iff_prefix, List.isPrefixOf_iff_prefix]
  constructor
  · intro h
    exact Text.prefix_takeWhile (List.all_eq_true.mp hword) (h.trans (List.rdropWhile_prefix _ _))
  · intro h
    rw [hlabel] at h ⊢
    exact Text.prefix_dropEndWhile (by decide) (h.trans (List.takeWhile_prefix _))

theorem tableRow?_eq_some_iff {line : Nat} {text : List Char} {row : PinRow} :
    tableRow? line text = some row ↔
      (Text.trim text).all (· == '-') = false ∧ Row.ofText? (Text.trim text) = none ∧
        PinRow.ofLine? line text = .ok (some row) := by
  unfold tableRow?
  cases (Text.trim text).all (· == '-') <;> cases Row.ofText? (Text.trim text) <;>
    cases PinRow.ofLine? line text <;> simp

theorem name_of_tableRow? {line : Nat} {text : List Char} {row : PinRow}
    (h : tableRow? line text = some row) : row.name = Block.firstWord text := by
  have hname := (PinRow.name_of_ofLine? (tableRow?_eq_some_iff.mp h).2.2).1
  rw [Block.firstWord, List.headD_eq_head?_getD, hname, Option.getD_some, String.ofList_toList]

/-- A row with a label is neither a ruler nor the header of a table. -/
theorem notHeader_of_row {text : List Char} {row : Row} (h : Row.ofText? text = some row) :
    text.all (· == '-') = false ∧ Block.isTableHeader text = false := by
  have hlabels : ∀ p ∈ rowLabels, p.1.toList.head?.any fun c => c != '-' && c != 'P' := by decide
  have hbegin : ∃ label : String, label.toList <+: text ∧
      label.toList.head?.any (fun c => c != '-' && c != 'P') := by
    rcases Option.or_eq_some_iff.mp h with h | ⟨-, h⟩
    · obtain ⟨⟨label, kind⟩, hmem, hlabel⟩ := List.exists_of_findSome?_eq_some h
      obtain ⟨rest, hrest, -⟩ := Option.map_eq_some_iff.mp hlabel
      refine ⟨label, ?_, hlabels _ hmem⟩
      unfold afterLabel? at hrest
      split at hrest
      · rename_i hp
        exact ⟨[], List.append_eq_of_isPrefixOf?_eq_some hp⟩
      · rename_i c rest hp
        exact ⟨c :: rest, List.append_eq_of_isPrefixOf?_eq_some hp⟩
      · cases hrest
    · unfold clockEdge? at h
      obtain ⟨rest, hp, -⟩ := Option.bind_eq_some_iff.mp h
      exact ⟨"clock ", ⟨rest, List.append_eq_of_isPrefixOf?_eq_some hp⟩, by decide⟩
  obtain ⟨label, ⟨rest, rfl⟩, hhead⟩ := hbegin
  cases hlabel : label.toList with
  | nil => rw [hlabel] at hhead; cases hhead
  | cons c cs =>
    rw [hlabel, List.head?_cons, Option.any_some, Bool.and_eq_true, bne_iff_ne, bne_iff_ne] at hhead
    refine ⟨by simp [hhead.1], ?_⟩
    simp [Block.isTableHeader, List.isPrefixOf, hhead.2.symm]

namespace Block

/-- The launch side or the capture side is being read. -/
def InTable (b : Block) : Prop := b.stage = .launch ∨ b.stage = .capture

/-- On the side that is being read, `f` is done to the pins, and nothing is done on the other. -/
def ChangesPins (b : Block) (f : List Pin → List Pin) (b' : Block) : Prop :=
  b'.path.launchPins = (if b.stage = .launch then f else id) b.path.launchPins ∧
    b'.path.capturePins = (if b.stage = .launch then id else f) b.path.capturePins

/-- What a line has to do with pins. The row of a pin gives one pin or cannot be read, the row of a
net gives the last pin another capacitance at most, and no other line does anything. -/
structure ConservesPins (rules : RuleSet) (b : Block) (line : Nat) (text : List Char) : Prop where
  pin : ∀ row, tableRow? line text = some row → firstWord text ≠ "Point" → row.cell ≠ "net" →
    (∃ fault, b.feed rules line text = .error ⟨line, fault⟩) ∨
    ∃ b' p, b.feed rules line text = .ok (b', false) ∧ p.name = firstWord text ∧ p.line = line ∧
      b.ChangesPins (· ++ [p]) b'
  net : ∀ row b' atEnd, tableRow? line text = some row → firstWord text ≠ "Point" →
    row.cell = "net" → b.feed rules line text = .ok (b', atEnd) →
    ∃ set : Pin → Pin, (∀ p, ∃ cap, set p = { p with cap }) ∧ b.ChangesPins (modifyLast set) b'
  other : ∀ b' atEnd, tableRow? line text = none ∨ firstWord text = "Point" →
    b.feed rules line text = .ok (b', atEnd) → b.ChangesPins id b'

section
variable {rules : RuleSet} {b b' : Block} {line : Nat} {text : List Char} {atEnd : Bool}

theorem SamePins.changesPins (h : SamePins b b') : b.ChangesPins id b' := by
  unfold ChangesPins
  rw [ite_self, h.launchPins, h.capturePins]
  exact ⟨rfl, rfl⟩

theorem InTable.ne_header (hs : b.InTable) : b.stage ≠ .header := by
  rcases hs with hs | hs <;> simp [hs]

theorem InTable.ne_summary (hs : b.InTable) : b.stage ≠ .summary := by
  rcases hs with hs | hs <;> simp [hs]

theorem InTable.enterTable (hs : b.InTable) : b.enterTable = b := by
  unfold Block.enterTable
  rcases hs with hs | hs <;> rw [hs] <;> exact congrArg (fun s => { b with stage := s }) hs.symm

theorem feed_ruler (h : (Text.trim text).all (· == '-') = true) :
    b.feed rules line text = .ok (b, false) := by
  unfold feed
  dsimp only
  rw [if_pos h]

theorem feed_heading (hs : b.stage = .header) (hr : (Text.trim text).all (· == '-') = false)
    (hb : b.readHeading? (Text.trim text) = some b') :
    b.feed rules line text = .ok (b', false) := by
  unfold feed
  dsimp only
  rw [if_neg (by rw [hr]; exact Bool.false_ne_true), if_pos hs, hb]

theorem feed_tableHeader (hh : b.stage = .header → b.readHeading? (Text.trim text) = none)
    (hr : (Text.trim text).all (· == '-') = false) (ht : isTableHeader (Text.trim text) = true) :
    b.feed rules line text = .ok ({ b.enterTable with layout := .ofHeader text }, false) := by
  unfold feed
  dsimp only
  rw [if_neg (by rw [hr]; exact Bool.false_ne_true), ite_eq_right_iff.mpr hh, if_pos ht]

theorem feed_tableLine (hh : b.stage = .header → b.readHeading? (Text.trim text) = none)
    (hs : b.stage ≠ .summary) (hr : (Text.trim text).all (· == '-') = false)
    (ht : isTableHeader (Text.trim text) = false) :
    b.feed rules line text = readTableLine rules b line text := by
  unfold feed
  dsimp only
  rw [if_neg (by rw [hr]; exact Bool.false_ne_true), ite_eq_right_iff.mpr hh,
    if_neg (by rw [ht]; exact Bool.false_ne_true), if_neg hs]

/-- A row of a pin or net is read as such, unless it is taken for the header of a table. -/
theorem feed_tableRow {row : PinRow} (hs : b.InTable)
    (h : tableRow? line text = some row) (ht : isTableHeader row.name.toList = false) :
    b.feed rules line text = (readPin rules b line row).map fun b' => (b', false) := by
  rw [name_of_tableRow? h, ← isTableHeader_trim] at ht
  obtain ⟨hr, hlabel, hrow⟩ := tableRow?_eq_some_iff.mp h
  rw [feed_tableLine (absurd · hs.ne_header) hs.ne_summary hr ht, readTableLine]
  simp only [hlabel, hrow, hs.enterTable]
  change (readPin rules b line row >>= fun b' => .ok (b', false)) = _
  cases readPin rules b line row <;> rfl

/-- The header of a table can be read always. -/
theorem exists_feed_of_isTableHeader (rules : RuleSet) (line : Nat) (hs : b.InTable)
    (ht : isTableHeader (firstWord text).toList = true) :
    ∃ b', b.feed rules line text = .ok (b', false) ∧ b.ChangesPins id b' := by
  rw [← isTableHeader_trim] at ht
  cases hr : (Text.trim text).all (· == '-') with
  | true => exact ⟨b, feed_ruler hr, SamePins.changesPins (by constructor <;> rfl)⟩
  | false =>
    refine ⟨_, feed_tableHeader (absurd · hs.ne_header) hr ht, ?_⟩
    exact SamePins.changesPins (by constructor <;> rfl)

/-- The header of a table does nothing to pins. -/
theorem changesPins_of_isTableHeader (hs : b.InTable)
    (ht : isTableHeader (firstWord text).toList = true)
    (hf : b.feed rules line text = .ok (b', atEnd)) : b.ChangesPins id b' := by
  obtain ⟨b'', hf', hsame⟩ := exists_feed_of_isTableHeader rules line hs ht
  rw [hf] at hf'
  cases hf'
  exact hsame

/-- A line in a table that is no row of a pin or net does nothing to pins. -/
theorem changesPins_of_tableRow?_eq_none (hs : b.InTable)
    (h : tableRow? line text = none) (hf : b.feed rules line text = .ok (b', atEnd)) :
    b.ChangesPins id b' := by
  cases hr : (Text.trim text).all (· == '-') with
  | true =>
    rw [feed_ruler hr] at hf
    cases hf
    exact SamePins.changesPins (by constructor <;> rfl)
  | false =>
    cases hlabel : Row.ofText? (Text.trim text) with
    | none =>
      obtain hsame | ⟨row, hrow, -⟩ := (feed_step hf).samePins_or_pinStep
      · exact hsame.changesPins
      · rw [tableRow?_eq_some_iff.mpr ⟨hr, hlabel, hrow⟩] at h
        cases h
    | some row =>
      rw [feed_tableLine (absurd · hs.ne_header) hs.ne_summary hr (notHeader_of_row hlabel).2,
        readTableLine, hlabel, hs.enterTable] at hf
      cases row with
      | labelled kind rest => exact (readLabelled_step hf).samePins.changesPins
      | clockEdge clock edge rest =>
        obtain ⟨time, -, hf⟩ := ok_of_bind hf
        cases hf
        exact (b.readClockEdge_samePins clock edge time).changesPins

theorem modifyLast_id {α : Type} : modifyLast (id : α → α) = id := by
  funext as
  have hmap := map_modifyLast (f := (id : α → α)) (g := id) (fun _ => rfl) as
  rwa [List.map_id, List.map_id] at hmap

theorem readNet_changesPins (b : Block) (row : PinRow) :
    ∃ set : Pin → Pin, (∀ p, ∃ cap, set p = { p with cap }) ∧
      b.ChangesPins (modifyLast set) (b.readNet row) := by
  unfold readNet ChangesPins
  dsimp only
  split
  · refine ⟨id, fun p => ⟨p.cap, rfl⟩, ?_⟩
    rw [modifyLast_id, ite_self]
    exact ⟨rfl, rfl⟩
  · rename_i cap _
    refine ⟨fun p => { p with cap }, fun p => ⟨cap, rfl⟩, ?_⟩
    by_cases hs : b.stage = .launch
    · simp only [if_pos hs, id]
      exact ⟨trivial, trivial⟩
    · simp only [if_neg hs, id]
      exact ⟨trivial, trivial⟩

/-- The row of a pin adds just this pin, and remembers its place. -/
theorem readPin_of_pinOf (rules : RuleSet) {row : PinRow} {p : Pin} (hc : row.cell ≠ "net")
    (hp : b.pinOf line row = .ok p) :
    ∃ b', readPin rules b line row = .ok b' ∧
      b.ChangesPins (· ++ [b.atPlace row (classify rules p)]) b' ∧
      b'.lastPlace = row.location.or b.lastPlace := by
  rw [readPin_eq, if_neg hc, hp]
  by_cases hs : b.stage = .launch
  · obtain ⟨_, _, _, _, _, _, he, -⟩ := addLaunchPin_eq rules (b.moveTo row) row
      (b.atPlace row (classify rules p))
    refine ⟨_, if_pos hs, ?_⟩
    rw [ChangesPins, if_pos hs, if_pos hs, he]
    exact ⟨⟨rfl, rfl⟩, rfl⟩
  · obtain ⟨_, _, _, he, -⟩ := addCapturePin_eq rules (b.moveTo row) row
      (b.atPlace row (classify rules p))
    refine ⟨_, if_neg hs, ?_⟩
    rw [ChangesPins, if_neg hs, if_neg hs, he]
    exact ⟨⟨rfl, rfl⟩, rfl⟩

/-- A row of a pin can be read unless it has too few numbers. -/
theorem pinOf_error {row : PinRow} {e : FormatError} (h : b.pinOf line row = .error e) :
    e = ⟨line, .noDelay row.name⟩ := by
  unfold pinOf at h
  dsimp only at h
  split at h <;> cases h
  rfl

/-- The row of a pin gives one pin with its name and its line, or cannot be read. -/
theorem feed_pinRow {row : PinRow} (hs : b.InTable) (h : tableRow? line text = some row)
    (ht : isTableHeader row.name.toList = false) (hc : row.cell ≠ "net") :
    b.feed rules line text = .error ⟨line, .noDelay row.name⟩ ∨
    ∃ b' p, b.feed rules line text = .ok (b', false) ∧ p.name = row.name ∧ p.line = line ∧
      b.ChangesPins (· ++ [p]) b' := by
  rw [feed_tableRow hs h ht]
  cases hp : b.pinOf line row with
  | error e =>
    rw [readPin_eq, if_neg hc, hp, pinOf_error hp]
    exact .inl rfl
  | ok p =>
    obtain ⟨b', hread, hpins, -⟩ := readPin_of_pinOf rules hc hp
    obtain ⟨hname, hline⟩ := name_and_line_of_pinOf hp
    have hsite := site_atPlace_classify rules b row p
    rw [hread]
    exact .inr ⟨b', _, rfl, (congrArg (·.1) hsite).trans hname,
      (congrArg (·.2.2) hsite).trans hline, hpins⟩

/-- In a table every line does to pins what it has to do, but for the row of a pin whose name begins
like the header of a table: no pin comes of it. -/
theorem conservesPins_iff (hs : b.InTable) :
    b.ConservesPins rules line text ↔
      ∀ row, tableRow? line text = some row → row.cell ≠ "net" →
        isTableHeader row.name.toList = true → row.name = "Point" := by
  constructor
  · intro h row hrow hc ht
    by_contra hname
    rw [name_of_tableRow? hrow] at hname ht
    obtain ⟨b', hf, hsame⟩ := exists_feed_of_isTableHeader rules line hs ht
    obtain ⟨fault, he⟩ | ⟨b'', p, hf', -, -, hpin⟩ := h.pin row hrow hname hc
    · rw [hf] at he
      cases he
    · rw [hf] at hf'
      cases hf'
      -- a pin more and no pin more on the side that is being read
      unfold ChangesPins at hsame hpin
      rcases hs with hs | hs
      · simp [hs, hsame.1] at hpin
      · simp [hs, hsame.2] at hpin
  · intro h
    constructor
    · intro row hrow hname hc
      have ht : isTableHeader row.name.toList = false := by
        rw [← name_of_tableRow? hrow] at hname
        exact Bool.eq_false_iff.mpr fun ht => hname (h row hrow hc ht)
      rw [← name_of_tableRow? hrow]
      exact (feed_pinRow hs hrow ht hc).imp_left fun he => ⟨_, he⟩
    · intro row b' atEnd hrow hname hc hf
      cases ht : isTableHeader row.name.toList with
      | true =>
        rw [name_of_tableRow? hrow] at ht
        refine ⟨id, fun p => ⟨p.cap, rfl⟩, ?_⟩
        rw [modifyLast_id]
        exact changesPins_of_isTableHeader hs ht hf
      | false =>
        rw [feed_tableRow hs hrow ht, readPin_eq, if_pos hc] at hf
        cases hf
        exact b.readNet_changesPins row
    · intro b' atEnd hrow hf
      rcases hrow with hrow | hname
      · exact changesPins_of_tableRow?_eq_none hs hrow hf
      · exact changesPins_of_isTableHeader hs (by rw [hname]; decide) hf

end

end Block

/-! ### The tables of a block -/

def isLabelled (kind : RowKind) (l : Nat × String) : Bool :=
  match Row.ofText? (Text.trim l.2.toList) with
  | some (.labelled k _) => k == kind
  | _ => false

/-- Whether a trimmed line before the tables is a heading, or belongs to one. -/
def isHeading (text : List Char) : Bool :=
  text.head? == some '(' || (text.contains ':' && !Block.isTableHeader text)

/-- Whether a line before the tables is the first line of a table. -/
def opensTable (l : Nat × String) : Bool :=
  let text := Text.trim l.2.toList
  !text.all (· == '-') && !isHeading text &&
    (Block.isTableHeader text || (Row.ofText? text).isSome || (tableRow? l.1 l.2.toList).isSome)

def BlockText.tables (t : BlockText) : List (Nat × String) := t.body.dropWhile (!opensTable ·)

/-- The lines of the launch table: those up to the data arrival time. -/
def launchTable (lines : List (Nat × String)) : List (Nat × String) :=
  lines.takeWhile (!isLabelled .arrival ·)

/-- Up to the data required time, or to a slack without one. -/
def captureRows (lines : List (Nat × String)) : List (Nat × String) :=
  lines.takeWhile fun l => !isLabelled .required l && !isLabelled .slack l

/-- The lines of the capture table, which come after the data arrival time. -/
def captureTable (lines : List (Nat × String)) : List (Nat × String) :=
  captureRows (lines.dropWhile (!isLabelled .arrival ·)).tail

/-- Name and line of the pin that a line of a table is the row of. -/
def pinRow? (l : Nat × String) : Option (String × Nat) :=
  (tableRow? l.1 l.2.toList).bind fun row =>
    if row.name = "Point" ∨ row.cell = "net" then none else some (row.name, l.1)

/-- Whether a pin is not taken for the header of a table. -/
def isKept (pin : String × Nat) : Bool := !Block.isTableHeader pin.1.toList

def Pin.mark (p : Pin) : String × Nat := (p.name, p.line)

/-- The marks of the pins that come of lines of a table. -/
def keptPins (lines : List (Nat × String)) : List (String × Nat) :=
  (lines.filterMap pinRow?).filter isKept

theorem keptPins_cons (l : Nat × String) (lines : List (Nat × String)) :
    keptPins (l :: lines) = keptPins [l] ++ keptPins lines := by
  rw [← List.singleton_append, keptPins, List.filterMap_append, List.filter_append]
  rfl

theorem keptPins_of_pinRow?_eq_none {l : Nat × String} (h : pinRow? l = none) :
    keptPins [l] = [] := by
  simp [keptPins, h]

/-- The row of a pin that is taken for the header of a table is not kept. -/
theorem keptPins_of_isTableHeader {l : Nat × String}
    (h : Block.isTableHeader (Block.firstWord l.2.toList).toList = true) : keptPins [l] = [] := by
  rw [keptPins, List.filter_eq_nil_iff]
  intro pin hpin
  obtain ⟨x, hx, hpin⟩ := List.mem_filterMap.mp hpin
  rw [List.mem_singleton.mp hx] at hpin
  obtain ⟨row, hrow, hpin⟩ := Option.bind_eq_some_iff.mp hpin
  rw [← name_of_tableRow? hrow] at h
  split_ifs at hpin
  cases hpin
  simp [isKept, h]

theorem isLabelled_iff {kind : RowKind} {l : Nat × String} : isLabelled kind l = true ↔
    ∃ rest, Row.ofText? (Text.trim l.2.toList) = some (.labelled kind rest) := by
  unfold isLabelled
  cases Row.ofText? (Text.trim l.2.toList) with
  | none => simp
  | some row => cases row <;> simp

theorem pinRow?_of_isLabelled {kind : RowKind} {l : Nat × String} (h : isLabelled kind l = true) :
    pinRow? l = none := by
  obtain ⟨rest, hrow⟩ := isLabelled_iff.mp h
  simp [pinRow?, tableRow?, hrow]

theorem isHeading_of_label {label : String} {text rest : List Char} (hcolon : ':' ∈ label.toList)
    (hlength : 5 ≤ label.toList.length) (hlabel : Block.isTableHeader label.toList = false)
    (h : (label.toList.isPrefixOf? text).map Text.trim = some rest) : isHeading text = true := by
  obtain ⟨more, hp, -⟩ := Option.map_eq_some_iff.mp h
  have hprefix : label.toList <+: text := ⟨more, List.append_eq_of_isPrefixOf?_eq_some hp⟩
  have htable : Block.isTableHeader text = false := by
    rw [Bool.eq_false_iff] at hlabel ⊢
    intro ht
    rw [Block.isTableHeader, List.isPrefixOf_iff_prefix] at ht
    exact hlabel (List.isPrefixOf_iff_prefix.mpr
      (List.prefix_of_prefix_length_le ht hprefix hlength))
  simp [isHeading, htable, hprefix.subset hcolon]

namespace Block

theorem isSome_readHeading? (b : Block) (text : List Char) :
    (b.readHeading? text).isSome = isHeading text := by
  have hlabel : ∀ label : String, ':' ∈ label.toList → 5 ≤ label.toList.length →
      isTableHeader label.toList = false → ∀ {rest},
      (label.toList.isPrefixOf? text).map Text.trim = some rest → isHeading text = true :=
    fun label hcolon hlength hno _ => isHeading_of_label hcolon hlength hno
  unfold readHeading?
  dsimp only
  split
  · exact (hlabel "Endpoint:" (by decide) (by decide) (by decide) ‹_›).symm
  split
  · exact (hlabel "Path Group:" (by decide) (by decide) (by decide) ‹_›).symm
  split
  · exact (hlabel "Path Type:" (by decide) (by decide) (by decide) ‹_›).symm
  split
  · exact (hlabel "Scenario:" (by decide) (by decide) (by decide) ‹_›).symm
  unfold isHeading isTableHeader
  split_ifs with hopen hcolon
  · simp [hopen]
  · rw [hcolon, Bool.or_true]
    rfl
  · rw [Bool.not_eq_true] at hcolon
    rw [hcolon, Bool.or_false]
    simp [hopen]

section
variable {rules : RuleSet} {b b' : Block} {l : Nat × String} {atEnd : Bool}

/-- Before the tables, a line that opens none is a heading or means nothing. -/
theorem header_cases_of_feed (hs : b.stage = .header) (ho : opensTable l = false)
    (hf : b.feed rules l.1 l.2.toList = .ok (b', atEnd)) :
    atEnd = false ∧ (b' = b ∨ b.readHeading? (Text.trim l.2.toList) = some b') := by
  cases hr : (Text.trim l.2.toList).all (· == '-') with
  | true =>
    rw [feed_ruler hr] at hf
    cases hf
    exact ⟨rfl, .inl rfl⟩
  | false =>
    cases hheading : b.readHeading? (Text.trim l.2.toList) with
    | some b₁ =>
      rw [feed_heading hs hr hheading] at hf
      cases hf
      exact ⟨rfl, .inr rfl⟩
    | none =>
      have hno : isHeading (Text.trim l.2.toList) = false := by
        rw [← b.isSome_readHeading?, hheading]
        rfl
      simp only [opensTable, hr, hno, Bool.not_false, Bool.true_and, Bool.or_eq_false_iff,
        Option.isSome_eq_false_iff, Option.isNone_iff_eq_none] at ho
      obtain ⟨⟨ht, hlabel⟩, hrow⟩ := ho
      rw [feed_tableLine (fun _ => hheading) (by simp [hs]) hr ht, readTableLine, hlabel] at hf
      obtain ⟨row?, hline, hf⟩ := ok_of_bind hf
      cases row? with
      | none =>
        cases hf
        exact ⟨rfl, .inl rfl⟩
      | some row =>
        rw [tableRow?_eq_some_iff.mpr ⟨hr, hlabel, hline⟩] at hrow
        cases hrow

/-- Before the tables, a line that opens none means nothing to pins. -/
theorem feed_header (hs : b.stage = .header) (ho : opensTable l = false)
    (hf : b.feed rules l.1 l.2.toList = .ok (b', atEnd)) :
    b'.stage = .header ∧ atEnd = false ∧ SamePins b b' := by
  obtain ⟨hend, rfl | hheading⟩ := header_cases_of_feed hs ho hf
  · exact ⟨hs, hend, by constructor <;> rfl⟩
  · obtain ⟨_, _, _, _, _, _, he⟩ := readHeading?_eq hheading
    exact ⟨by rw [he]; exact hs, hend, readHeading?_samePins hheading⟩

/-- The first line of a table is read like any other line of it. -/
theorem feed_opensTable (hs : b.stage = .header) (ho : opensTable l = true) :
    b.feed rules l.1 l.2.toList = b.enterTable.feed rules l.1 l.2.toList := by
  simp only [opensTable, Bool.and_eq_true, Bool.not_eq_true', Bool.or_eq_true,
    Option.isSome_iff_ne_none] at ho
  obtain ⟨⟨hr, hno⟩, ho⟩ := ho
  have hheading : b.readHeading? (Text.trim l.2.toList) = none := by
    rw [← Option.isNone_iff_eq_none, ← Option.isSome_eq_false_iff, b.isSome_readHeading?, hno]
  have hin : b.enterTable.InTable := .inl (by rw [enterTable, hs]; rfl)
  have htwice : b.enterTable.enterTable = b.enterTable := hin.enterTable
  cases ht : isTableHeader (Text.trim l.2.toList) with
  | true =>
    rw [feed_tableHeader (b := b) (fun _ => hheading) hr ht,
      feed_tableHeader (b := b.enterTable) (absurd · hin.ne_header) hr ht, htwice]
  | false =>
    rw [feed_tableLine (b := b) (fun _ => hheading) (by simp [hs]) hr ht,
      feed_tableLine (b := b.enterTable) (absurd · hin.ne_header) hin.ne_summary hr ht]
    unfold readTableLine
    cases hlabel : Row.ofText? (Text.trim l.2.toList) with
    | some row => cases row <;> rw [htwice]
    | none =>
      have hrow : tableRow? l.1 l.2.toList ≠ none := by simpa [ht, hlabel] using ho
      obtain ⟨row, hrow⟩ := Option.ne_none_iff_exists'.mp hrow
      rw [(tableRow?_eq_some_iff.mp hrow).2.2, htwice]
      rfl

theorem labelledStep_of_feed {kind : RowKind} {rest : List Char}
    (hs : b.InTable)
    (hlabel : Row.ofText? (Text.trim l.2.toList) = some (.labelled kind rest))
    (hf : b.feed rules l.1 l.2.toList = .ok (b', atEnd)) :
    LabelledStep b l.1 rest kind b' atEnd := by
  obtain ⟨hr, ht⟩ := notHeader_of_row hlabel
  rw [feed_tableLine (absurd · hs.ne_header) hs.ne_summary hr ht, readTableLine, hlabel,
    hs.enterTable] at hf
  exact readLabelled_step hf

theorem stage_of_feed_of_not_labelled (hs : b.InTable)
    (hlabel : ∀ kind rest, Row.ofText? (Text.trim l.2.toList) ≠ some (.labelled kind rest))
    (hf : b.feed rules l.1 l.2.toList = .ok (b', atEnd)) : b'.stage = b.stage ∧ atEnd = false := by
  have htable := hs.enterTable
  cases feed_step hf with
  | skip => exact ⟨rfl, rfl⟩
  | heading hs' hb => exact absurd hs' hs.ne_header
  | tableHeader ht => exact ⟨by rw [htable], rfl⟩
  | clockEdge hs' hr ht =>
    rw [htable]
    unfold readClockEdge
    split_ifs <;> exact ⟨rfl, rfl⟩
  | labelled hs' hr hb => exact absurd hr (hlabel _ _)
  | pinRow hs' hr hrow hb => exact ⟨by rw [hb.stage, htable], rfl⟩
  | slack hs' hr ht => exact absurd hr (hlabel _ _)

/-- A line of a table is a labelled one, or it neither closes the side nor ends the block. -/
theorem labelledStep_or_stage_of_feed (hs : b.InTable)
    (hf : b.feed rules l.1 l.2.toList = .ok (b', atEnd)) :
    (∃ kind rest, (∀ k, isLabelled k l = (kind == k)) ∧ LabelledStep b l.1 rest kind b' atEnd) ∨
      (∀ k, isLabelled k l = false) ∧ b'.stage = b.stage ∧ atEnd = false := by
  unfold isLabelled
  cases hrow : Row.ofText? (Text.trim l.2.toList) with
  | none => exact .inr ⟨fun _ => rfl, stage_of_feed_of_not_labelled hs (by simp [hrow]) hf⟩
  | some row =>
    cases row with
    | clockEdge clock edge rest =>
      exact .inr ⟨fun _ => rfl, stage_of_feed_of_not_labelled hs (by simp [hrow]) hf⟩
    | labelled kind rest => exact .inl ⟨kind, rest, fun _ => rfl, labelledStep_of_feed hs hrow hf⟩

/-- The launch side is closed by the data arrival time alone, and no line of it ends the block. -/
theorem feed_launch (hs : b.stage = .launch) (hf : b.feed rules l.1 l.2.toList = .ok (b', atEnd)) :
    b'.stage = (if isLabelled .arrival l then .capture else .launch) ∧ atEnd = false := by
  obtain ⟨kind, rest, hkind, hstep⟩ | ⟨hno, hstage, hend⟩ :=
    labelledStep_or_stage_of_feed (.inl hs) hf
  · rw [hkind]
    cases hstep <;> simp_all [isComplete]
  · rw [hno, hstage, hs]
    exact ⟨rfl, hend⟩

/-- The capture side is closed by the data required time, and a slack ends the block. -/
theorem feed_capture (hs : b.stage = .capture)
    (hf : b.feed rules l.1 l.2.toList = .ok (b', atEnd)) :
    b'.stage = (if isLabelled .required l then .summary else .capture) ∧
      atEnd = isLabelled .slack l := by
  obtain ⟨kind, rest, hkind, hstep⟩ | ⟨hno, hstage, hend⟩ :=
    labelledStep_or_stage_of_feed (.inr hs) hf
  · rw [hkind, hkind]
    cases hstep <;> simp_all [isComplete]
  · rw [hno, hno, hstage, hs]
    exact ⟨rfl, hend⟩

/-- A line of a table adds the mark of its pin, if it is the row of one that is kept. -/
theorem exists_changesPins_of_feed (hs : b.InTable)
    (hf : b.feed rules l.1 l.2.toList = .ok (b', atEnd)) :
    ∃ f : List Pin → List Pin, b.ChangesPins f b' ∧
      ∀ pins, (f pins).map Pin.mark = pins.map Pin.mark ++ keptPins [l] := by
  by_cases hlost : isTableHeader (firstWord l.2.toList).toList = true
  · refine ⟨id, changesPins_of_isTableHeader hs hlost hf, fun pins => ?_⟩
    rw [keptPins_of_isTableHeader hlost, List.append_nil, id]
  have hlaw : b.ConservesPins rules l.1 l.2.toList := (conservesPins_iff hs).mpr
    fun row hrow _ ht => absurd (name_of_tableRow? hrow ▸ ht) hlost
  have hname : firstWord l.2.toList ≠ "Point" := fun h => hlost (by rw [h]; decide)
  cases hrow : tableRow? l.1 l.2.toList with
  | none =>
    refine ⟨id, hlaw.other b' atEnd (.inl hrow) hf, fun pins => ?_⟩
    rw [keptPins_of_pinRow?_eq_none (by simp [pinRow?, hrow]), List.append_nil, id]
  | some row =>
    by_cases hc : row.cell = "net"
    · obtain ⟨set, hset, hpins⟩ := hlaw.net row b' atEnd hrow hname hc hf
      have hmark : ∀ p, (set p).mark = p.mark := by
        intro p
        obtain ⟨cap, hcap⟩ := hset p
        rw [hcap]
        rfl
      refine ⟨modifyLast set, hpins, fun pins => ?_⟩
      rw [map_modifyLast hmark, keptPins_of_pinRow?_eq_none (by simp [pinRow?, hrow, hc]),
        List.append_nil]
    · obtain ⟨fault, he⟩ | ⟨b'', p, hf', hp, hline, hpins⟩ := hlaw.pin row hrow hname hc
      · rw [hf] at he
        cases he
      · rw [hf] at hf'
        cases hf'
        have hkept : keptPins [l] = [p.mark] := by
          rw [← name_of_tableRow? hrow] at hp hname hlost
          simp [keptPins, pinRow?, hrow, hname, hc, isKept, hlost, Pin.mark, hp, hline]
        refine ⟨_, hpins, fun pins => ?_⟩
        rw [hkept, List.map_append, List.map_singleton]

/-- The marks of the pins of both sides after a line of a table. -/
theorem marks_of_feed (hs : b.InTable) (hf : b.feed rules l.1 l.2.toList = .ok (b', atEnd)) :
    b'.path.launchPins.map Pin.mark = b.path.launchPins.map Pin.mark ++
        (if b.stage = .launch then keptPins [l] else []) ∧
      b'.path.capturePins.map Pin.mark = b.path.capturePins.map Pin.mark ++
        (if b.stage = .launch then [] else keptPins [l]) := by
  obtain ⟨f, hpins, hmarks⟩ := exists_changesPins_of_feed hs hf
  unfold ChangesPins at hpins
  rw [hpins.1, hpins.2]
  split_ifs
  · exact ⟨hmarks _, (List.append_nil _).symm⟩
  · exact ⟨(List.append_nil _).symm, hmarks _⟩

/-- Behind the tables, only the slack is read. A header of a table changes the layout still. -/
theorem eq_of_summary (hs : b.stage = .summary)
    (hf : b.feed rules l.1 l.2.toList = .ok (b', atEnd)) :
    ∃ layout slack, b' = { b with layout, path.slack := slack } := by
  cases feed_step hf with
  | skip => exact ⟨_, _, rfl⟩
  | heading hs' => simp [hs] at hs'
  | tableHeader ht =>
    have htable : b.enterTable = b := by
      rw [enterTable, hs]
      exact congrArg (fun s => { b with stage := s }) hs.symm
    rw [htable]
    exact ⟨_, _, rfl⟩
  | clockEdge hs' => exact absurd hs hs'
  | labelled hs' => exact absurd hs hs'
  | pinRow hs' => exact absurd hs hs'
  | slack => exact ⟨_, _, rfl⟩

end

/-- What the lines of the tables do to a view of a block. Other lines do nothing to it, nor do the
lines that close a table. -/
structure TableLaw {σ : Type} (rules : RuleSet) (view : Block → σ)
    (onLaunch onCapture : σ → Nat × String → σ) : Prop where
  enterTable : ∀ b, view b.enterTable = view b
  header : ∀ {b b' : Block} {l : Nat × String} {atEnd : Bool}, b.stage = .header →
    opensTable l = false → b.feed rules l.1 l.2.toList = .ok (b', atEnd) → view b' = view b
  launch : ∀ {b b' : Block} {l : Nat × String} {atEnd : Bool}, b.stage = .launch →
    b.feed rules l.1 l.2.toList = .ok (b', atEnd) → view b' = onLaunch (view b) l
  capture : ∀ {b b' : Block} {l : Nat × String} {atEnd : Bool}, b.stage = .capture →
    b.feed rules l.1 l.2.toList = .ok (b', atEnd) → view b' = onCapture (view b) l
  summary : ∀ {b b' : Block} {l : Nat × String} {atEnd : Bool}, b.stage = .summary →
    b.feed rules l.1 l.2.toList = .ok (b', atEnd) → view b' = view b
  arrival : ∀ s l, isLabelled .arrival l = true → onLaunch s l = s
  closing : ∀ s l, isLabelled .required l = true ∨ isLabelled .slack l = true → onCapture s l = s

namespace TableLaw

section
variable {σ : Type} {rules : RuleSet} {view : Block → σ}
  {onLaunch onCapture : σ → Nat × String → σ} (law : TableLaw rules view onLaunch onCapture)
  {b : Block} {lines : List (Nat × String)} {r : BlockReading}
include law

theorem view_of_summary (hs : b.stage = .summary) (h : b.feedLines rules lines = .ok r) :
    view r.block = view b := by
  refine (feedLines_induction (P := fun b' => b'.stage = .summary ∧ view b' = view b) h
    ⟨hs, rfl⟩ ?_).2
  intro b₁ b₂ l atEnd _ hb hf
  have hview := (law.summary hb.1 hf).trans hb.2
  obtain ⟨layout, slack, rfl⟩ := eq_of_summary hb.1 hf
  exact ⟨hb.1, hview⟩

/-- From the capture table on, a view changes by its rows alone. -/
theorem view_of_capture (hs : b.stage = .capture) (h : b.feedLines rules lines = .ok r) :
    view r.block = (captureRows lines).foldl onCapture (view b) := by
  induction lines generalizing b r with
  | nil =>
    cases h
    rfl
  | cons l rest ih =>
    obtain ⟨b', hf, rfl⟩ | ⟨b', r', hf, hr, rfl⟩ := feedLines_cons_eq_ok h
    · have hslack : isLabelled .slack l = true := (feed_capture hs hf).2.symm
      rw [captureRows, List.takeWhile_cons_of_neg (by simp [hslack]), List.foldl_nil]
      exact (law.capture hs hf).trans (law.closing _ l (.inr hslack))
    · obtain ⟨hstage, hslack⟩ := feed_capture hs hf
      have hview := law.capture hs hf
      cases hrequired : isLabelled .required l with
      | true =>
        rw [hrequired, if_pos rfl] at hstage
        rw [captureRows, List.takeWhile_cons_of_neg (by simp [hrequired]), List.foldl_nil]
        rw [law.closing _ l (.inl hrequired)] at hview
        exact (law.view_of_summary hstage hr).trans hview
      | false =>
        rw [hrequired, if_neg Bool.false_ne_true] at hstage
        rw [captureRows, List.takeWhile_cons_of_pos (by simp [hrequired, ← hslack]),
          List.foldl_cons, ← hview]
        have hrest := ih hstage hr
        exact hrest

/-- From the launch table on, a view changes by the rows of both tables. -/
theorem view_of_launch (hs : b.stage = .launch) (h : b.feedLines rules lines = .ok r) :
    view r.block =
      (captureTable lines).foldl onCapture ((launchTable lines).foldl onLaunch (view b)) := by
  induction lines generalizing b r with
  | nil =>
    cases h
    rfl
  | cons l rest ih =>
    obtain ⟨b', hf, rfl⟩ | ⟨b', r', hf, hr, rfl⟩ := feedLines_cons_eq_ok h
    · cases (feed_launch hs hf).2
    · have hstage := (feed_launch hs hf).1
      have hview := law.launch hs hf
      cases harrival : isLabelled .arrival l with
      | true =>
        rw [harrival, if_pos rfl] at hstage
        rw [law.arrival _ l harrival] at hview
        rw [launchTable, captureTable, List.takeWhile_cons_of_neg (by simp [harrival]),
          List.dropWhile_cons_of_neg (by simp [harrival]), List.tail_cons, List.foldl_nil, ← hview]
        have hrest := law.view_of_capture hstage hr
        exact hrest
      | false =>
        rw [harrival, if_neg Bool.false_ne_true] at hstage
        rw [launchTable, captureTable, List.takeWhile_cons_of_pos (by simp [harrival]),
          List.dropWhile_cons_of_pos (by simp [harrival]), List.foldl_cons, ← hview]
        have hrest := ih hstage hr
        exact hrest

theorem view_of_header (hs : b.stage = .header) (h : b.feedLines rules lines = .ok r) :
    view r.block = (captureTable (lines.dropWhile (!opensTable ·))).foldl onCapture
      ((launchTable (lines.dropWhile (!opensTable ·))).foldl onLaunch (view b)) := by
  induction lines generalizing b r with
  | nil =>
    cases h
    rfl
  | cons l rest ih =>
    cases hopen : opensTable l with
    | true =>
      have hlaunch : b.enterTable.stage = .launch := by rw [Block.enterTable, hs]; rfl
      have hsame : b.feedLines rules (l :: rest) = b.enterTable.feedLines rules (l :: rest) := by
        simp only [feedLines, feed_opensTable hs hopen]
      rw [hsame] at h
      rw [List.dropWhile_cons_of_neg (by simp [hopen]), ← law.enterTable b]
      exact law.view_of_launch hlaunch h
    | false =>
      rw [List.dropWhile_cons_of_pos (by simp [hopen])]
      obtain ⟨b', hf, rfl⟩ | ⟨b', r', hf, hr, rfl⟩ := feedLines_cons_eq_ok h
      · cases (feed_header hs hopen hf).2.1
      · rw [← law.header hs hopen hf]
        have hrest := ih (feed_header hs hopen hf).1 hr
        exact hrest

/-- What is seen of a block at its end comes of the rows of its tables. -/
theorem view_of_read {t : BlockText} (h : t.read rules = .ok r) :
    view r.block = (captureTable t.tables).foldl onCapture
      ((launchTable t.tables).foldl onLaunch (view (.start t.line t.startpoint))) :=
  law.view_of_header rfl h

end

end TableLaw

def marks (b : Block) : List (String × Nat) × List (String × Nat) :=
  (b.path.launchPins.map Pin.mark, b.path.capturePins.map Pin.mark)

theorem marks_tableLaw (rules : RuleSet) :
    TableLaw rules marks (fun s l => (s.1 ++ keptPins [l], s.2))
      (fun s l => (s.1, s.2 ++ keptPins [l])) := by
  have hlabelled : ∀ {kind l}, isLabelled kind l = true → keptPins [l] = [] :=
    fun hl => keptPins_of_pinRow?_eq_none (pinRow?_of_isLabelled hl)
  have hsame : ∀ {b b'}, SamePins b b' → marks b' = marks b := by
    intro b b' hs
    rw [marks, hs.launchPins, hs.capturePins]
    rfl
  constructor
  · exact fun b => hsame b.enterTable_samePins
  · exact fun hs ho hf => hsame (feed_header hs ho hf).2.2
  · intro b b' l atEnd hs hf
    have hmarks := marks_of_feed (.inl hs) hf
    rw [if_pos hs, if_pos hs, List.append_nil] at hmarks
    exact Prod.ext hmarks.1 hmarks.2
  · intro b b' l atEnd hs hf
    have hno : b.stage ≠ .launch := by simp [hs]
    have hmarks := marks_of_feed (.inr hs) hf
    rw [if_neg hno, if_neg hno, List.append_nil] at hmarks
    exact Prod.ext hmarks.1 hmarks.2
  · intro b b' l atEnd hs hf
    obtain ⟨layout, slack, rfl⟩ := eq_of_summary hs hf
    rfl
  · intro s l hl
    rw [hlabelled hl, List.append_nil]
  · intro s l hl
    rw [hl.elim hlabelled hlabelled, List.append_nil]

end Block

theorem foldl_keptPins (s : List (String × Nat) × List (String × Nat))
    (lines : List (Nat × String)) :
    lines.foldl (fun s l => (s.1 ++ keptPins [l], s.2)) s = (s.1 ++ keptPins lines, s.2) ∧
      lines.foldl (fun s l => (s.1, s.2 ++ keptPins [l])) s = (s.1, s.2 ++ keptPins lines) := by
  induction lines generalizing s with
  | nil =>
    have hnil : keptPins [] = [] := rfl
    rw [hnil, List.append_nil, List.append_nil]
    exact ⟨rfl, rfl⟩
  | cons l rest ih =>
    rw [List.foldl_cons, List.foldl_cons, (ih _).1, (ih _).2, keptPins_cons l rest,
      List.append_assoc, List.append_assoc]
    exact ⟨rfl, rfl⟩

/-- The pins of a block are the rows of pins of its tables, in order. Only the rows whose names
begin like the header of a table are missing. -/
theorem BlockText.marks_of_read {rules : RuleSet} {t : BlockText} {r : BlockReading}
    (h : t.read rules = .ok r) :
    r.block.path.launchPins.map Pin.mark = keptPins (launchTable t.tables) ∧
      r.block.path.capturePins.map Pin.mark = keptPins (captureTable t.tables) := by
  have hmarks := (Block.marks_tableLaw rules).view_of_read h
  rw [(foldl_keptPins _ _).2, (foldl_keptPins _ _).1] at hmarks
  exact ⟨congrArg Prod.fst hmarks, congrArg Prod.snd hmarks⟩

namespace Report

/-- In a table, every line does to pins what it has to do, but for the row of a pin whose name
begins like the header of a table. So the pins of a path that is read are the rows of pins of the
tables of a block, in order, without those rows. -/
theorem pins_of_read (r : Report) (file : SourceFile) (ranges : List ScanRange) :
    (∀ (b : Block) (line : Nat) (text : List Char), b.InTable →
      (b.ConservesPins r.rules line text ↔
        ∀ row, tableRow? line text = some row → row.cell ≠ "net" →
          Block.isTableHeader row.name.toList = true → row.name = "Point")) ∧
    ∀ p ∈ (r.read file ranges).report.paths.drop r.paths.length,
      ∃ range ∈ ranges, ∃ t ∈ range.blocks file, t.line = p.line ∧
        p.launchPins.map Pin.mark = ((launchTable t.tables).filterMap pinRow?).filter isKept ∧
        p.capturePins.map Pin.mark = ((captureTable t.tables).filterMap pinRow?).filter isKept := by
  refine ⟨fun b line text hs => Block.conservesPins_iff hs, fun p hp => ?_⟩
  obtain ⟨range, hrange, t, ht, reading, hread, rfl⟩ := exists_block_of_mem_read hp
  rw [Block.finish_eq]
  obtain ⟨hlaunch, hcapture⟩ := BlockText.marks_of_read hread
  exact ⟨range, hrange, t, ht, (BlockText.path_line_of_read hread).symm, hlaunch, hcapture⟩

/-- A report with a pin whose name begins like the header of a table. -/
def pointerPin : SourceFile :=
  .ofText ⟨0⟩ "pointer_pin" ("Startpoint: ff1\nclk (in) 0\nPointer/Z (BUFX2) 1\n" ++
    "data arrival time 1\n")

theorem pins_of_read_pointerPin :
    ∃ p ∈ (({ rules := {} } : Report).read pointerPin [.whole]).report.paths.drop
        ({ rules := {} } : Report).paths.length,
      ∃ t ∈ ScanRange.whole.blocks pointerPin,
        (launchTable t.tables).filterMap pinRow? = [("clk", 2), ("Pointer/Z", 3)] ∧
        p.launchPins.map Pin.mark = [("clk", 2)] := by
  obtain ⟨hfirst, hrows⟩ :
      (({ rules := {} } : Report).read pointerPin [.whole]).report.paths[0]?.isSome = true ∧
      ∀ t ∈ ScanRange.whole.blocks pointerPin,
        (launchTable t.tables).filterMap pinRow? = [("clk", 2), ("Pointer/Z", 3)] := by
    rw [pointerPin, SourceFile.ofText_append rfl rfl]
    decide +kernel
  obtain ⟨p, hp⟩ := Option.isSome_iff_exists.mp hfirst
  have hmem : p ∈ (({ rules := {} } : Report).read pointerPin [.whole]).report.paths.drop
      ({ rules := {} } : Report).paths.length := by
    rw [List.length_nil, List.drop_zero]
    exact List.mem_of_getElem? hp
  obtain ⟨range, hrange, t, ht, -, hlaunch, -⟩ :=
    (pins_of_read { rules := {} } pointerPin [.whole]).2 p hmem
  rw [List.mem_singleton.mp hrange] at ht
  rw [hrows t ht] at hlaunch
  exact ⟨p, hmem, t, ht, hrows t ht, hlaunch.trans (by decide)⟩

/-- A pin is lost when its name begins like the header of a table, wherever the name goes on. -/
theorem pin_lost :
    ¬ ∀ (rules : RuleSet) (b : Block) (line : Nat) (text : List Char), b.InTable →
      b.ConservesPins rules line text := by
  intro h
  let b : Block := { path := { line := 1, startpoint := "ff1" }, stage := .launch }
  have hrow : (tableRow? 3 "Pointer/Z (BUFX2) 1".toList).map (fun row => (row.name, row.cell)) =
      some ("Pointer/Z", "BUFX2") := by
    decide +kernel
  obtain ⟨row, hrow, hfacts⟩ := Option.map_eq_some_iff.mp hrow
  have hname : row.name = "Pointer/Z" := congrArg Prod.fst hfacts
  have hcell : row.cell = "BUFX2" := congrArg Prod.snd hfacts
  have hpoint := (Block.conservesPins_iff (.inl rfl)).mp
    (h {} b 3 "Pointer/Z (BUFX2) 1".toList (.inl rfl)) row hrow (by rw [hcell]; decide)
    (by rw [hname]; decide)
  rw [hname] at hpoint
  exact absurd hpoint (by decide)

end Report

end PathTiming
