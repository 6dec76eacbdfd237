import Mathlib.Data.List.Permutation
import PathTiming.Proofs.ColumnAssignment
import PathTiming.Proofs.PinConservation
import PathTiming.Proofs.PlainNumber

/-! Rows of pins that are printed under the header of their table, each number ending where the word
of its column ends. The pin that is read of such a row is the one that it shows. -/
namespace PathTiming
open Text (Token)
open Decimal (Plain)

structure PrintedNumber where
  column : Column
  number : Plain
  token : Token
  token_text : token.text = number.text

namespace PrintedNumber

/-- The column, if the number ends where the column ends. -/
def under (n : PrintedNumber) : PlacedColumn := ⟨n.column, n.token.stop⟩

def placed (n : PrintedNumber) : PlacedValue := ⟨n.number.value, n.token.stop⟩

def entry (n : PrintedNumber) : Column × Float := (n.column, n.number.value)

end PrintedNumber

structure PrintedPlace where
  x : Plain
  y : Plain
  token : Token
  token_text : token.text = Plain.placeText x y

def PrintedPlace.place (p : PrintedPlace) : Float × Float := (p.x.value, p.y.value)

/-- The row of a pin as it is printed: a name, a cell in parentheses, a mark if the pin is the
source of a generated clock, numbers, and perhaps an edge and a place. -/
structure PrintedRow where
  name : Token
  cell : String
  cellToken : Token
  cell_text : cellToken.text = '(' :: cell.toList ++ [')']
  mark : Option (Token × Token) := none
  mark_text : ∀ m ∈ mark,
    m.1.text = "(gclock".toList ∧ m.2.lead = [' '] ∧ m.2.text = "source)".toList
  numbers : List PrintedNumber
  edge : Option Token := none
  edge_text : ∀ t ∈ edge, t.text = ['r'] ∨ t.text = ['f']
  place : Option PrintedPlace := none

namespace PrintedRow

def tail (r : PrintedRow) : List Token := r.edge.toList ++ (r.place.map (·.token)).toList

def body (r : PrintedRow) : List Token :=
  (r.mark.map fun m => [m.1, m.2]).getD [] ++ (r.numbers.map (·.token) ++ r.tail)

def tokens (r : PrintedRow) : List Token := r.name :: r.cellToken :: r.body

def IsText (r : PrintedRow) (text : List Char) : Prop :=
  Text.Spelled 0 r.tokens text ∧ Text.Separated r.tokens

def value? (r : PrintedRow) (c : Column) : Option Float :=
  (r.numbers.map PrintedNumber.entry).lookup c

def location (r : PrintedRow) : Option (Float × Float) := r.place.map PrintedPlace.place

/-- What the row says, before its numbers are given to columns. -/
def pinRow (r : PrintedRow) : PinRow where
  name := String.ofList r.name.text
  cell := r.cell
  isGenerated := r.mark.isSome
  values := r.numbers.map PrintedNumber.placed
  location := r.location

end PrintedRow

namespace PinRow
variable {line fuel : Nat} {row : PinRow}

theorem head?_text_ne (p : Plain) : p.text.head? ≠ some '(' := by
  intro h
  exact absurd (p.mem_alphabet _ (List.mem_of_head? h)) (by decide)

theorem readTokens_nil (hfuel : 0 < fuel) {isFirst : Bool} :
    readTokens line fuel isFirst row [] = .ok (some row) := by
  obtain ⟨fuel, rfl⟩ := Nat.exists_eq_add_one.mpr hfuel
  rfl

/-- A remark that is one word. -/
theorem readTokens_group {t : Token} {ts : List Token} {isFirst : Bool}
    (hopen : t.text.head? = some '(') (hclose : t.text.getLast? = some ')') :
    readTokens line (fuel + 1) isFirst row (t :: ts) =
      readTokens line fuel false (row.addGroup isFirst t.text) ts := by
  rw [readTokens, if_pos hopen]
  simp [splitGroup?, hclose, joinTokens]

theorem readTokens_number (n : PrintedNumber) {isFirst : Bool} (ts : List Token) :
    readTokens line (fuel + 1) isFirst row (n.token :: ts) =
      readTokens line fuel isFirst { row with values := row.values ++ [n.placed] } ts := by
  rw [readTokens, n.token_text, if_neg (head?_text_ne n.number), if_pos n.number.looksNumeric_text,
    n.number.readNumber_text]
  rfl

section
variable (r : PrintedRow)

theorem readTokens_place (hfuel : (r.place.map (·.token)).toList.length < fuel) :
    readTokens line fuel false row (r.place.map (·.token)).toList =
      .ok (some { row with location := r.location.or row.location }) := by
  unfold PrintedRow.location
  cases hp : r.place with
  | none =>
    rw [hp] at hfuel
    exact readTokens_nil hfuel
  | some p =>
    rw [hp] at hfuel
    obtain ⟨fuel, rfl⟩ := Nat.exists_eq_add_one.mpr (Nat.zero_lt_of_lt hfuel)
    have hmark : Plain.placeText p.x p.y ≠ "(gclock source)".toList := by
      intro h
      have hcomma : ',' ∈ Plain.placeText p.x p.y := by simp [Plain.placeText]
      rw [h] at hcomma
      exact absurd hcomma (by decide)
    have hadd : row.addGroup false p.token.text = { row with location := some p.place } := by
      rw [addGroup, if_neg Bool.false_ne_true, p.token_text, if_neg hmark,
        Plain.readPlace?_placeText]
      rfl
    rw [Option.map_some, Option.toList_some,
      readTokens_group (by rw [p.token_text]; rfl)
        (by rw [p.token_text, Plain.placeText, List.getLast?_concat]), hadd]
    exact readTokens_nil (Nat.lt_of_succ_lt_succ hfuel)

theorem readTokens_tail (hfuel : r.tail.length < fuel) :
    readTokens line fuel false row r.tail =
      .ok (some { row with location := r.location.or row.location }) := by
  unfold PrintedRow.tail at hfuel ⊢
  cases he : r.edge with
  | none =>
    rw [he] at hfuel
    exact readTokens_place r (by simpa using hfuel)
  | some t =>
    rw [he] at hfuel
    obtain ⟨fuel, rfl⟩ := Nat.exists_eq_add_one.mpr (Nat.zero_lt_of_lt hfuel)
    have hword : t.text.head? ≠ some '(' ∧ looksNumeric t.text = false := by
      rcases r.edge_text t he with h | h <;> rw [h] <;> decide
    rw [Option.toList_some, List.singleton_append, readTokens, if_neg hword.1,
      if_neg (by rw [hword.2]; exact Bool.false_ne_true)]
    exact readTokens_place r (by simpa using hfuel)

theorem readTokens_numbers (numbers : List PrintedNumber)
    (hfuel : numbers.length + r.tail.length < fuel) :
    readTokens line fuel false row (numbers.map (·.token) ++ r.tail) =
      .ok (some { row with
        values := row.values ++ numbers.map PrintedNumber.placed
        location := r.location.or row.location }) := by
  induction numbers generalizing fuel row with
  | nil =>
    rw [List.map_nil, List.nil_append, readTokens_tail r (by simpa using hfuel), List.map_nil,
      List.append_nil]
  | cons n rest ih =>
    obtain ⟨fuel, rfl⟩ := Nat.exists_eq_add_one.mpr (Nat.zero_lt_of_lt hfuel)
    rw [List.length_cons] at hfuel
    rw [List.map_cons, List.cons_append, readTokens_number, ih (by omega), List.map_cons,
      List.append_assoc, List.singleton_append]

theorem readTokens_body (hfuel : r.body.length < fuel) :
    readTokens line fuel false row r.body =
      .ok (some { row with
        isGenerated := row.isGenerated || r.mark.isSome
        values := row.values ++ r.numbers.map PrintedNumber.placed
        location := r.location.or row.location }) := by
  unfold PrintedRow.body at hfuel ⊢
  cases hm : r.mark with
  | none =>
    rw [hm] at hfuel
    rw [Option.map_none, Option.getD_none, List.nil_append,
      readTokens_numbers r r.numbers (by simpa using hfuel), Option.isSome_none, Bool.or_false]
  | some m =>
    rw [hm] at hfuel
    obtain ⟨first, second⟩ := m
    obtain ⟨hfirst, hlead, hsecond⟩ := r.mark_text _ hm
    dsimp only at hfirst hlead hsecond
    obtain ⟨fuel, rfl⟩ := Nat.exists_eq_add_one.mpr (Nat.zero_lt_of_lt hfuel)
    have hgroup : ∀ ts, splitGroup? (first :: second :: ts) = some ([first, second], ts) := by
      intro ts
      simp [splitGroup?, hfirst, hsecond]
    have hjoin : joinTokens [first, second] = "(gclock source)".toList := by
      simp [joinTokens, hfirst, hlead, hsecond]
    simp only [Option.map_some, Option.getD_some, List.cons_append, List.nil_append,
      List.length_cons] at hfuel ⊢
    rw [readTokens, if_pos (by rw [hfirst]; decide), hgroup]
    simp only [hjoin]
    rw [addGroup, if_neg Bool.false_ne_true, if_pos rfl,
      readTokens_numbers r r.numbers (by rw [List.length_append, List.length_map] at hfuel; omega),
      Option.isSome_some, Bool.or_true]

/-- What is read of a row is what it says. -/
theorem ofLine?_of_isText {text : List Char} (h : r.IsText text) :
    ofLine? line text = .ok (some r.pinRow) := by
  have hopen : r.cellToken.text.head? = some '(' := by rw [r.cell_text]; rfl
  have hclose : r.cellToken.text.getLast? = some ')' := by
    rw [r.cell_text, List.getLast?_concat]
  have hcell : String.ofList (r.cellToken.text.drop 1).dropLast = r.cell := by
    rw [r.cell_text]
    simp
  unfold ofLine?
  rw [Text.tokens_of_spelled h.1 h.2, PrintedRow.tokens]
  dsimp only
  rw [if_pos hopen, readTokens_group hopen hclose, readTokens_body r (by omega), addGroup,
    if_pos rfl, hcell]
  simp [PrintedRow.pinRow]

end

end PinRow

namespace PrintedRow
variable {r : PrintedRow} {line : Nat} {header text : List Char}

theorem tableRow?_of_isText (h : r.IsText text) (hlabel : Row.ofText? (Text.trim text) = none) :
    tableRow? line text = some r.pinRow := by
  have hopen : '(' ∈ Text.trim text := by
    refine Text.mem_trim (h.1.subset_of_mem (t := r.cellToken) ?_ ?_) (by decide)
    · exact List.mem_cons_of_mem _ List.mem_cons_self
    · rw [r.cell_text]
      exact List.mem_append_left _ List.mem_cons_self
  refine tableRow?_eq_some_iff.mpr ⟨?_, hlabel, PinRow.ofLine?_of_isText r h⟩
  exact List.all_eq_false.mpr ⟨'(', hopen, by decide⟩

/-- The numbers of a row end where columns of a header end. The last two are the increment and the
time, and none stands under another column than those of pins. -/
structure StandsUnder (r : PrintedRow) (header : List Char) : Prop where
  under : ∀ n ∈ r.numbers, n.under ∈ Layout.ofHeader header
  numbers : ∃ values left right, r.numbers = values ++ [left, right] ∧
    (∀ n ∈ values, n.column ∈ [Column.cap, .trans, .derate, .delta]) ∧
    [left.column, right.column].Perm [.incr, .path]

/-- A pin is what a row shows: blank columns are zero, and the direction of a port is no cell. -/
structure Shows (r : PrintedRow) (p : Pin) : Prop where
  name : p.name = String.ofList r.name.text
  cell : p.cell = if Block.isDirection r.cell then "" else r.cell
  increment : r.value? .incr = some p.increment
  cumulative : r.value? .path = some p.cumulative
  cap : p.cap = (r.value? .cap).getD 0
  transition : p.transition = (r.value? .trans).getD 0
  delta : p.delta = (r.value? .delta).getD 0

theorem pairwise_stop (h : r.IsText text) :
    r.numbers.Pairwise (·.token.stop < ·.token.stop) := by
  have htokens : (r.numbers.map (·.token)).Sublist r.tokens :=
    ((List.sublist_append_left _ _).trans (List.sublist_append_right _ _)).trans
      ((List.sublist_cons_self _ _).trans (List.sublist_cons_self _ _))
  have hstops : (r.numbers.map (·.token)).Pairwise (·.stop < ·.stop) :=
    h.1.pairwise_stop.2.sublist htokens
  rwa [List.pairwise_map] at hstops

/-- No column has two numbers. -/
theorem nodup_columns (h : r.IsText text)
    (hunder : ∀ n ∈ r.numbers, n.under ∈ Layout.ofHeader header)
    (hcolumns : ((Layout.ofHeader header).map (·.column)).Nodup) :
    (r.numbers.map (·.column)).Nodup := by
  refine List.pairwise_map.mpr ((pairwise_stop h).imp_of_mem ?_)
  intro n m hn hm hlt he
  have hsame : n.under = m.under :=
    List.inj_on_of_nodup_map hcolumns (hunder n hn) (hunder m hm) he
  have hstop : n.token.stop = m.token.stop := congrArg PlacedColumn.edge hsame
  omega

end PrintedRow

namespace Block
variable {row : PinRow}

/-- The pin of a row before its numbers are given to columns. -/
def timedPin (line : Nat) (row : PinRow) (delay time : Float) : Pin where
  name := row.name
  cell := if isDirection row.cell then "" else row.cell
  line
  increment := delay
  cumulative := time

theorem pinOf_eq (b : Block) (line : Nat) {extra : List PlacedValue} {delay time : PlacedValue}
    (h : row.values = extra ++ [delay, time]) :
    b.pinOf line row = .ok (((b.layout.select isExtra).assign extra).foldl setValue
      (timedPin line row delay.value time.value)) := by
  have hreverse : row.values.reverse = time :: delay :: extra.reverse := by
    rw [h, List.reverse_append]
    rfl
  unfold pinOf
  simp only [hreverse, List.reverse_reverse]
  rfl

/-- A row with a place tells the distance of its pin from the last place. -/
theorem distance_atPlace (b : Block) (row : PinRow) (rules : RuleSet) {p : Pin}
    (h : p.distance = 0) :
    (b.atPlace row (classify rules p)).distance =
      (row.location.bind fun place => b.lastPlace.map (distance · place)).getD 0 := by
  unfold atPlace
  cases row.location with
  | none => exact h
  | some place => rfl

end Block

namespace PrintedRow
variable {r : PrintedRow} {line : Nat}
  {values : List PrintedNumber} {left right : PrintedNumber}

/-- The last two numbers say the increment and the time, and the others say the rest. -/
theorem value?_eq (hnumbers : r.numbers = values ++ [left, right])
    (hvalues : ∀ n ∈ values, n.column ∈ [Column.cap, .trans, .derate, .delta])
    (hleft : left.column = .incr) (hright : right.column = .path) (c : Column) :
    r.value? c =
      if c = .incr then some left.number.value
      else if c = .path then some right.number.value
      else (values.map PrintedNumber.entry).lookup c := by
  have hnone : c = .incr ∨ c = .path → (values.map PrintedNumber.entry).lookup c = none := by
    intro hc
    rw [List.lookup_eq_none_iff]
    intro e he
    obtain ⟨n, hn, rfl⟩ := List.mem_map.mp he
    refine bne_iff_ne.mpr fun heq => ?_
    have hmem := hvalues n hn
    rw [show n.column = c from heq.symm] at hmem
    rcases hc with rfl | rfl <;> exact absurd hmem (by decide)
  have hlast : [left, right].map PrintedNumber.entry =
      [(.incr, left.number.value), (.path, right.number.value)] := by
    simp only [List.map_cons, List.map_nil, PrintedNumber.entry, hleft, hright]
  rw [value?, hnumbers, List.map_append, List.lookup_append, hlast]
  split_ifs with hincr hpath
  · rw [hnone (.inl hincr), hincr]
    rfl
  · rw [hnone (.inr hpath), hpath]
    rfl
  · have hother :
        [(Column.incr, left.number.value), (.path, right.number.value)].lookup c = none := by
      simp [hincr, hpath]
    rw [hother, Option.or_none]

/-- The pin that is read of a row is what the row shows, when the last two numbers are the
increment and the time and the others were set. -/
theorem shows_of_entries (hnumbers : r.numbers = values ++ [left, right])
    (hvalues : ∀ n ∈ values, n.column ∈ [Column.cap, .trans, .derate, .delta])
    (hnodup : (values.map (·.column)).Nodup) (hleft : left.column = .incr)
    (hright : right.column = .path) :
    r.Shows ((values.map PrintedNumber.entry).foldl Block.setValue
      (Block.timedPin line r.pinRow left.number.value right.number.value)) := by
  have hvalue := value?_eq hnumbers hvalues hleft hright
  have hframe := Block.foldl_setValue_frame
    (g := fun p => (p.name, p.cell, p.increment, p.cumulative))
    (fun p v => by unfold Block.setValue; split <;> rfl) (values.map PrintedNumber.entry)
    (Block.timedPin line r.pinRow left.number.value right.number.value)
  simp only [Prod.mk.injEq] at hframe
  obtain ⟨hname, hcell, hincrement, hcumulative⟩ := hframe
  have hset : ∀ c get, (c, get) ∈ Block.pinColumns →
      get ((values.map PrintedNumber.entry).foldl Block.setValue
        (Block.timedPin line r.pinRow left.number.value right.number.value)) =
      ((values.map PrintedNumber.entry).lookup c).getD
        (get (Block.timedPin line r.pinRow left.number.value right.number.value)) :=
    fun c get hc => Block.foldl_setValue_get hc (by rwa [List.map_map]) _
  constructor
  · exact hname
  · exact hcell
  · rw [hvalue, hincrement]
    rfl
  · rw [hvalue, hcumulative]
    rfl
  · rw [hvalue]
    exact hset .cap Pin.cap (by simp [Block.pinColumns])
  · rw [hvalue]
    exact hset .trans Pin.transition (by simp [Block.pinColumns])
  · rw [hvalue]
    exact hset .delta Pin.delta (by simp [Block.pinColumns])

/-- Both ways to give numbers to columns give each number to the column that it stands under. -/
theorem assign_placed {l : Layout} (hl : l.Pairwise (·.edge < ·.edge))
    (hstops : values.Pairwise (·.token.stop < ·.token.stop)) (hunder : ∀ n ∈ values, n.under ∈ l) :
    l.assign (values.map PrintedNumber.placed) = values.map PrintedNumber.entry := by
  let ns := values.map fun n => (n.under, n.number.value)
  have hassign : l.assign (ns.map fun n => ⟨n.2, n.1.edge⟩) =
      ns.map fun n => (n.1.column, n.2) := by
    refine Layout.assign_of_mem hl (by rwa [List.pairwise_map]) fun e he => ?_
    obtain ⟨n, hn, rfl⟩ := List.mem_map.mp he
    exact hunder n hn
  rwa [List.map_map, List.map_map] at hassign

/-- Of two columns of a header, the one on the left has its numbers on the left. -/
theorem left_eq_incr {l : Layout} (hl : l.Pairwise (·.edge < ·.edge))
    (hcolumns : (l.map (·.column)).Nodup) (horder : [Column.incr, .path].Sublist (l.map (·.column)))
    (hlast : [left.column, right.column].Perm [.incr, .path]) (hleft : left.under ∈ l)
    (hright : right.under ∈ l) (hlt : left.token.stop < right.token.stop) :
    left.column = .incr ∧ right.column = .path := by
  have hpair : left.column = .incr ∧ right.column = .path ∨
      left.column = .path ∧ right.column = .incr := by
    simpa using List.perm_pair.mp hlast
  refine hpair.resolve_right fun ⟨hpath, hincr⟩ => ?_
  obtain ⟨ordered, hsub, hmap⟩ := List.sublist_map_iff.mp horder
  obtain ⟨incr, path, rfl⟩ : ∃ incr path, ordered = [incr, path] :=
    List.length_eq_two.mp (by simpa using (congrArg List.length hmap).symm)
  simp only [List.map_cons, List.map_nil, List.cons.injEq, and_true] at hmap
  have hbefore : incr.edge < path.edge := by simpa using hl.sublist hsub
  have hincr' : right.under = incr :=
    List.inj_on_of_nodup_map hcolumns hright (hsub.subset (by simp)) (hincr.trans hmap.1)
  have hpath' : left.under = path :=
    List.inj_on_of_nodup_map hcolumns hleft (hsub.subset (by simp)) (hpath.trans hmap.2)
  rw [← hincr', ← hpath'] at hbefore
  exact Nat.lt_asymm hlt hbefore

theorem Shows.atPlace {p : Pin} (h : r.Shows p) (b : Block) (row : PinRow) (rules : RuleSet) :
    r.Shows (b.atPlace row (Block.classify rules p)) := by
  obtain ⟨hname, hcell, hincrement, hcumulative, hcap, htransition, hdelta⟩ := h
  unfold Block.atPlace
  cases row.location <;>
    exact ⟨hname, hcell, hincrement, hcumulative, hcap, htransition, hdelta⟩

end PrintedRow

/-- A line is the header of a table with these columns, all different. -/
structure Layout.Announces (header : List Char) (columns : List Column) : Prop where
  words : Text.words header = "Point".toList :: columns.map (·.label.toList)
  nodup : columns.Nodup

/-- In a table with the layout of a header, a text is taken for the row of a pin. -/
structure Block.TakesForPin (b : Block) (header text : List Char) (r : PrintedRow) : Prop where
  inTable : b.InTable
  layout : b.layout = Layout.ofHeader header
  isText : r.IsText text
  unlabelled : Row.ofText? (Text.trim text) = none
  notHeader : Block.isTableHeader r.name.text = false
  notNet : r.cell ≠ "net"

section
variable {b : Block} {header text : List Char} {columns : List Column} {r : PrintedRow}

/-- The pin of a row, before it is put at its place, is what the row shows. -/
theorem Block.exists_pinOf_printedRow (line : Nat) (hheader : Layout.Announces header columns)
    (hlayout : b.layout = Layout.ofHeader header) (htext : r.IsText text)
    (hunder : r.StandsUnder header) (horder : [Column.incr, .path].Sublist columns) :
    ∃ p, b.pinOf line r.pinRow = .ok p ∧ r.Shows p ∧ p.distance = 0 := by
  have hl := Layout.pairwise_ofHeader header
  have hcolumns : (Layout.ofHeader header).map (·.column) = columns :=
    Layout.columns_ofHeader hheader.words
  have hnodup : ((Layout.ofHeader header).map (·.column)).Nodup := by
    rw [hcolumns]
    exact hheader.nodup
  obtain ⟨values, left, right, hnumbers, hvalues, hlast⟩ := hunder.numbers
  have hmem : ∀ n ∈ values ++ [left, right], n.under ∈ Layout.ofHeader header := by
    rw [← hnumbers]
    exact hunder.under
  have hstops := PrintedRow.pairwise_stop htext
  have hdistinct := PrintedRow.nodup_columns htext hunder.under hnodup
  rw [hnumbers] at hstops hdistinct
  rw [List.map_append] at hdistinct
  obtain ⟨hvalueStops, hlastStops, -⟩ := List.pairwise_append.mp hstops
  obtain ⟨hleft, hright⟩ := PrintedRow.left_eq_incr hl hnodup (by rwa [hcolumns]) hlast
    (hmem left (by simp)) (hmem right (by simp)) (by simpa using hlastStops)
  -- the columns of the last two numbers are left out when the others are given to columns
  have hassign : (b.layout.select isExtra).assign (values.map PrintedNumber.placed) =
      values.map PrintedNumber.entry := by
    have hextra : ∀ c ∈ [Column.cap, .trans, .derate, .delta], isExtra c = true := by decide
    rw [hlayout]
    refine PrintedRow.assign_placed (hl.sublist List.filter_sublist) hvalueStops fun n hn => ?_
    exact List.mem_filter.mpr ⟨hmem n (List.mem_append_left _ hn), hextra _ (hvalues n hn)⟩
  have hvaluesRead :
      r.pinRow.values = values.map PrintedNumber.placed ++ [left.placed, right.placed] := by
    rw [PrintedRow.pinRow, hnumbers, List.map_append]
    rfl
  have hpin := pinOf_eq b line hvaluesRead
  rw [hassign] at hpin
  refine ⟨_, hpin, ?_, ?_⟩
  · exact PrintedRow.shows_of_entries hnumbers hvalues hdistinct.of_append_left hleft hright
  · exact foldl_setValue_frame (g := Pin.distance)
      (fun p v => by unfold setValue; split <;> rfl) (values.map PrintedNumber.entry) _

/-- The number of a row before the last one is the increment, and the last one is the time. Where
the columns of the header stand in this order, a row whose numbers stand under columns gives a pin
that is what the row shows, whichever of the other columns are blank. Mark and place are read as
they are printed. -/
theorem Block.feed_printedRow (rules : RuleSet) (line : Nat)
    (hheader : Layout.Announces header columns) (hrow : b.TakesForPin header text r)
    (hunder : r.StandsUnder header) (horder : [Column.incr, .path].Sublist columns) :
    PinRow.ofLine? line text = .ok (some r.pinRow) ∧
    ∃ b' p, b.feed rules line text = .ok (b', false) ∧
      readPin rules b line r.pinRow = .ok b' ∧ b.ChangesPins (· ++ [p]) b' ∧ r.Shows p ∧
      p.distance = (r.location.bind fun place => b.lastPlace.map (distance · place)).getD 0 ∧
      b'.lastPlace = r.location.or b.lastPlace := by
  refine ⟨PinRow.ofLine?_of_isText r hrow.isText, ?_⟩
  obtain ⟨p, hpin, hshows, hzero⟩ :=
    exists_pinOf_printedRow line hheader hrow.layout hrow.isText hunder horder
  obtain ⟨b', hread, hpins, hplace⟩ := readPin_of_pinOf rules hrow.notNet hpin
  refine ⟨b', _, ?_, hread, hpins, hshows.atPlace b r.pinRow rules,
    distance_atPlace b r.pinRow rules hzero, hplace⟩
  have hname : isTableHeader r.pinRow.name.toList = false := by
    rw [PrintedRow.pinRow, String.toList_ofList]
    exact hrow.notHeader
  rw [feed_tableRow hrow.inTable (PrintedRow.tableRow?_of_isText hrow.isText hrow.unlabelled) hname,
    hread]
  rfl

end

theorem PrintedRow.isText_of_tokens {r : PrintedRow} {text : List Char}
    (h : Text.tokens text = r.tokens) (hsep : ∀ t ∈ r.tokens.tail, t.lead ≠ []) : r.IsText text :=
  ⟨h ▸ Text.spelled_tokens text, hsep⟩

/-- A header, and a row under it without a capacitance. -/
def sparseHeader : List Char := "Point                      Cap  Trans   Incr   Path".toList

def sparseText : List Char :=
  "u1/Z (BUFX2) (gclock source)     0.12    0.5   -1.5 r (3,4.5)".toList

def sparseRow : PrintedRow where
  name := ⟨[], "u1/Z".toList, 4⟩
  cell := "BUFX2"
  cellToken := ⟨[' '], "(BUFX2)".toList, 12⟩
  cell_text := by decide
  mark := some (⟨[' '], "(gclock".toList, 20⟩, ⟨[' '], "source)".toList, 28⟩)
  mark_text := by decide
  numbers := [
    ⟨.trans, { whole := ['0'], places := some ['1', '2'] },
      ⟨List.replicate 5 ' ', "0.12".toList, 37⟩, by decide⟩,
    ⟨.incr, { whole := ['0'], places := some ['5'] },
      ⟨List.replicate 4 ' ', "0.5".toList, 44⟩, by decide⟩,
    ⟨.path, { sign := some '-', whole := ['1'], places := some ['5'] },
      ⟨List.replicate 3 ' ', "-1.5".toList, 51⟩, by decide⟩]
  edge := some ⟨[' '], ['r'], 53⟩
  edge_text := by decide
  place := some ⟨{ whole := ['3'] }, { whole := ['4'], places := some ['5'] },
    ⟨[' '], "(3,4.5)".toList, 61⟩, by decide⟩

theorem Block.feed_printedRow_sparse :
    let b : Block :=
      { path := { line := 1 }, stage := .launch, layout := Layout.ofHeader sparseHeader }
    ∃ b' p, b.feed {} 7 sparseText = .ok (b', false) ∧ b'.path.launchPins = [p] ∧
      sparseRow.Shows p ∧ p.cell = "BUFX2" ∧ p.cap = 0 ∧
      sparseRow.value? .trans = some p.transition := by
  intro b
  obtain ⟨htokens, hlabel, hcolumns, hwords⟩ :
      Text.tokens sparseText = sparseRow.tokens ∧ Row.ofText? (Text.trim sparseText) = none ∧
      (∀ n ∈ sparseRow.numbers, n.under ∈ Layout.ofHeader sparseHeader) ∧
      Text.words sparseHeader =
        "Point".toList :: [Column.cap, .trans, .incr, .path].map (·.label.toList) := by
    decide +kernel
  have hrow : b.TakesForPin sparseHeader sparseText sparseRow :=
    ⟨.inl rfl, rfl, PrintedRow.isText_of_tokens htokens (by decide), hlabel, by decide, by decide⟩
  have hunder : sparseRow.StandsUnder sparseHeader :=
    ⟨hcolumns, [_], _, _, rfl, by decide, .refl _⟩
  have hheader : Layout.Announces sparseHeader [.cap, .trans, .incr, .path] :=
    ⟨hwords, by decide⟩
  obtain ⟨-, b', p, hfeed, -, hpins, hshows, -⟩ :=
    Block.feed_printedRow {} 7 hheader hrow hunder (by decide)
  refine ⟨b', p, hfeed, hpins.1, hshows, hshows.cell, hshows.cap, ?_⟩
  rw [hshows.transition]
  rfl

/-- A header with the time before the increment, and a row under it. -/
def swappedHeader : List Char := "Point           Path Incr".toList

def swappedText : List Char := "u1/Z (BUFX2)       5    1".toList

def swappedRow : PrintedRow where
  name := ⟨[], "u1/Z".toList, 4⟩
  cell := "BUFX2"
  cellToken := ⟨[' '], "(BUFX2)".toList, 12⟩
  cell_text := by decide
  mark_text := by decide
  numbers := [
    ⟨.path, { whole := ['5'] }, ⟨List.replicate 7 ' ', ['5'], 20⟩, by decide⟩,
    ⟨.incr, { whole := ['1'] }, ⟨List.replicate 4 ' ', ['1'], 25⟩, by decide⟩]
  edge_text := by decide

/-- The increment and the time are told by their order among the numbers, not by their columns. -/
theorem Block.increment_told_by_order :
    ¬ ∀ (rules : RuleSet) (b : Block) (line : Nat) (header text : List Char)
      (columns : List Column) (r : PrintedRow), Layout.Announces header columns →
      b.TakesForPin header text r → r.StandsUnder header →
      ∃ b' p, b.feed rules line text = .ok (b', false) ∧ b.ChangesPins (· ++ [p]) b' ∧
        r.Shows p := by
  intro h
  let b : Block :=
    { path := { line := 1 }, stage := .launch, layout := Layout.ofHeader swappedHeader }
  obtain ⟨htokens, hlabel, hcolumns, hwords, hread⟩ :
      Text.tokens swappedText = swappedRow.tokens ∧ Row.ofText? (Text.trim swappedText) = none ∧
      (∀ n ∈ swappedRow.numbers, n.under ∈ Layout.ofHeader swappedHeader) ∧
      Text.words swappedHeader =
        "Point".toList :: [Column.path, .incr].map (·.label.toList) ∧
      (b.feed {} 7 swappedText).toOption.map
        (fun fed => fed.1.path.launchPins.map (·.increment.toBits)) =
        some [(Decimal.nearest ['5'] 0).toBits] := by
    decide +kernel
  have hrow : b.TakesForPin swappedHeader swappedText swappedRow :=
    ⟨.inl rfl, rfl, PrintedRow.isText_of_tokens htokens (by decide), hlabel, by decide, by decide⟩
  have hunder : swappedRow.StandsUnder swappedHeader :=
    ⟨hcolumns, [], _, _, rfl, by decide, .swap _ _ []⟩
  obtain ⟨b', p, hfeed, hpins, hshows⟩ := h {} b 7 swappedHeader swappedText [.path, .incr]
    swappedRow ⟨hwords, by decide⟩ hrow hunder
  have hpin : b'.path.launchPins = [p] := hpins.1
  rw [hfeed] at hread
  simp only [Except.toOption, Option.map_some, hpin, List.map_cons, List.map_nil, Option.some.injEq,
    List.cons.injEq, and_true] at hread
  have hshown : (Decimal.nearest ['1'] 0).toBits = p.increment.toBits :=
    congrArg Float.toBits (Option.some.inj hshows.increment)
  rw [hread] at hshown
  exact absurd hshown (by decide +kernel)

end PathTiming
