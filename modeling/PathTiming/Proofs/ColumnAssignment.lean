import Mathlib.Data.List.Nodup
import Mathlib.Data.List.Perm.Subperm
import PathTiming.Proofs.WordBoundary
import PathTiming.Report.Block

/-! Numbers that end where the words of a header end go to just these columns, whether all columns
have a number or some are blank. -/
namespace PathTiming

theorem Column.ofHeader_label (c : Column) : Column.ofHeader c.label = c := by
  cases c <;> decide

namespace Layout

/-- The columns of a header stand one behind another. -/
theorem pairwise_ofHeader (header : List Char) :
    (ofHeader header).Pairwise (·.edge < ·.edge) := by
  unfold ofHeader
  rw [List.pairwise_map]
  exact (Text.spelled_tokens header).pairwise_stop.2.sublist (List.drop_sublist 1 _)

theorem columns_ofHeader {header first : List Char} {columns : List Column}
    (h : Text.words header = first :: columns.map (·.label.toList)) :
    (ofHeader header).map (·.column) = columns := by
  have hwords : (ofHeader header).map (·.column) =
      ((Text.words header).drop 1).map fun word => Column.ofHeader (String.ofList word) := by
    rw [ofHeader, Text.words, ← List.map_drop, List.map_map, List.map_map]
    rfl
  rw [hwords, h, List.drop_one, List.tail_cons, List.map_map]
  simp [Function.comp_def, Column.ofHeader_label]

section
variable {l : Layout} (hl : l.Pairwise (·.edge < ·.edge))
include hl

/-- The column nearest to the right edge of a column is this column. -/
theorem nearest?_edge {c : PlacedColumn} (hc : c ∈ l) : nearest? c.edge l = some c := by
  induction l with
  | nil => cases hc
  | cons d rest ih =>
    obtain ⟨hd, hrest⟩ := List.pairwise_cons.mp hl
    rcases List.mem_cons.mp hc with rfl | hc
    · cases hn : nearest? c.edge rest with
      | none => simp [nearest?, hn]
      | some e => simp [nearest?, hn, gap]
    · have hlt : d.edge < c.edge := hd c hc
      have hgap : gap c.edge c.edge < gap d.edge c.edge := by
        unfold gap
        rw [if_neg (Nat.lt_irrefl _), if_pos hlt]
        omega
      simp only [nearest?, ih hrest hc, if_pos hgap]

/-- Numbers under columns are given to these columns, in order. When there are as many numbers as
columns, these are all columns. -/
theorem assign_of_mem {ns : List (PlacedColumn × Float)}
    (hns : ns.Pairwise (·.1.edge < ·.1.edge)) (hmem : ∀ n ∈ ns, n.1 ∈ l) :
    l.assign (ns.map fun n => ⟨n.2, n.1.edge⟩) = ns.map fun n => (n.1.column, n.2) := by
  unfold assign
  rw [List.length_map]
  by_cases hlength : ns.length = l.length
  · have hcolumns : (ns.map (·.1)).Pairwise (·.edge < ·.edge) := List.pairwise_map.mpr hns
    have hnodup : (ns.map (·.1)).Nodup := by
      refine hcolumns.imp fun {a b} hab he => ?_
      rw [he] at hab
      exact Nat.lt_irrefl _ hab
    have hperm : (ns.map (·.1)).Perm l := by
      refine (List.subperm_of_subset hnodup fun c hc => ?_).perm_of_length_le
        (by rw [List.length_map, hlength])
      obtain ⟨n, hn, rfl⟩ := List.mem_map.mp hc
      exact hmem n hn
    have hall : ns.map (·.1) = l :=
      hperm.eq_of_pairwise (fun a b _ _ hab hba => absurd hab (Nat.lt_asymm hba)) hcolumns hl
    rw [if_pos hlength, ← hall, List.zip_map', List.map_map]
    rfl
  · rw [if_neg hlength, List.filterMap_map, ← List.filterMap_eq_map]
    refine List.filterMap_congr fun n hn => ?_
    simp [nearest?_edge hl (hmem n hn)]

end

end Layout

namespace Block

/-- The columns whose numbers are properties of a pin, apart from its times. -/
def pinColumns : List (Column × (Pin → Float)) :=
  [(.cap, Pin.cap), (.trans, Pin.transition), (.delta, Pin.delta)]

theorem setValue_get {c : Column} {get : Pin → Float} (hc : (c, get) ∈ pinColumns) (p : Pin)
    (v : Column × Float) : get (setValue p v) = if v.1 = c then v.2 else get p := by
  obtain ⟨d, x⟩ := v
  simp only [pinColumns, List.mem_cons, List.not_mem_nil, or_false, Prod.mk.injEq] at hc
  rcases hc with ⟨rfl, rfl⟩ | ⟨rfl, rfl⟩ | ⟨rfl, rfl⟩ <;> cases d <;> rfl

/-- Numbers of distinct columns are set one by one. -/
theorem foldl_setValue_get {c : Column} {get : Pin → Float} (hc : (c, get) ∈ pinColumns)
    {values : List (Column × Float)} (hnodup : (values.map (·.1)).Nodup) (p : Pin) :
    get (values.foldl setValue p) = (values.lookup c).getD (get p) := by
  induction values generalizing p with
  | nil => rfl
  | cons v rest ih =>
    obtain ⟨d, x⟩ := v
    obtain ⟨hd, hrest⟩ := List.nodup_cons.mp hnodup
    rw [List.foldl_cons, ih hrest, setValue_get hc]
    by_cases he : d = c
    · have hnone : rest.lookup c = none := by
        rw [List.lookup_eq_none_iff]
        intro w hw
        have hne : c ≠ w.1 := by
          rintro rfl
          exact hd (List.mem_map.mpr ⟨w, hw, he.symm⟩)
        simpa using hne
      simp [hnone, he]
    · have hne : (c == d) = false := by simpa using Ne.symm he
      simp [List.lookup_cons, hne, he]

end Block

end PathTiming
