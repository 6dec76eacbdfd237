import Mathlib.Data.List.DropRight
import Mathlib.Data.List.TakeWhile
import Mathlib.Tactic.IntervalCases
import PathTiming.Proofs.LineIndex
import PathTiming.Report.PinRow

/-! Plain decimal numbers, as they are printed in tables, and what is read of them. -/
namespace PathTiming

theorem Text.trim_eq_self {cs : List Char} (h : ∀ c ∈ cs, ¬ Unicode.isBlank c = true) :
    trim cs = cs := by
  have hstart : trimStart cs = cs :=
    List.dropWhile_eq_self_iff.mpr fun hl => h _ (List.getElem_mem hl)
  rw [trim, hstart]
  exact List.rdropWhile_eq_self_iff.mpr fun hne => h _ (List.getLast_mem hne)

/-- A place is two numbers in parentheses on both sides of a comma. -/
def IsPlace (group : List Char) (place : Float × Float) : Prop :=
  ∃ x y, group = '(' :: (x ++ ',' :: y) ++ [')'] ∧ ',' ∉ x ∧
    Decimal.float? (Text.trim x) = some place.1 ∧ Decimal.float? (Text.trim y) = some place.2

theorem readPlace?_eq_some_iff {group : List Char} {place : Float × Float} :
    readPlace? group = some place ↔ IsPlace group place := by
  unfold readPlace? IsPlace
  simp only [Option.bind_eq_bind, Option.bind_eq_some_iff,
    List.isPrefixOf?_eq_some_iff_append_eq, Text.dropSuffix?_eq_some_iff, Prod.exists,
    Text.splitOnce_eq_some_iff]
  constructor
  · rintro ⟨_, rfl, _, rfl, x, y, ⟨rfl, hcomma⟩, _, hx, _, hy, ⟨⟩⟩
    exact ⟨x, y, rfl, hcomma, hx, hy⟩
  · rintro ⟨x, y, rfl, hcomma, hx, hy⟩
    exact ⟨_, rfl, _, rfl, x, y, ⟨rfl, hcomma⟩, _, hx, _, hy, rfl⟩

namespace Decimal

/-- A decimal number as it is printed: a sign, digits, and digits behind a point. -/
structure Plain where
  sign : Option Char := none
  whole : List Char
  /-- The digits behind the point, if there is one. -/
  places : Option (List Char) := none
  sign_isSign : (sign.all fun c => c == '-' || c == '+') = true := by decide
  whole_isDigits : whole.all Char.isDigit = true := by decide
  places_isDigits : (places.getD []).all Char.isDigit = true := by decide
  has_digit : whole ++ places.getD [] ≠ [] := by decide

namespace Plain

theorem sign_eq (p : Plain) : ∀ c ∈ p.sign, c = '-' ∨ c = '+' := by
  intro c hc
  have hsign := p.sign_isSign
  rw [Option.mem_def.mp hc] at hsign
  simpa using hsign

theorem whole_digits (p : Plain) : ∀ c ∈ p.whole, c.isDigit = true :=
  List.all_eq_true.mp p.whole_isDigits

theorem places_digits (p : Plain) : ∀ c ∈ p.places.getD [], c.isDigit = true :=
  List.all_eq_true.mp p.places_isDigits

/-- The text behind the sign. -/
def magnitude (p : Plain) : List Char := p.whole ++ (p.places.map ('.' :: ·)).getD []

def text (p : Plain) : List Char := p.sign.toList ++ p.magnitude

/-- The double nearest to the number. -/
def value (p : Plain) : Float :=
  let x := nearest (p.whole ++ p.places.getD []) (-(p.places.getD []).length)
  if p.sign = some '-' then -x else x

def alphabet : List Char := "0123456789.-+".toList

theorem mem_digits {c : Char} (h : c.isDigit = true) : c ∈ "0123456789".toList := by
  have hrange : 48 ≤ c.toNat ∧ c.toNat ≤ 57 := by
    simpa [Char.isDigit, UInt32.le_iff_toNat_le] using h
  obtain ⟨hlow, hhigh⟩ := hrange
  rw [← Char.ofNat_toNat c]
  generalize c.toNat = n at hlow hhigh
  interval_cases n <;> decide

/-- The text behind the sign begins with a digit or with the point. -/
theorem exists_magnitude_eq (p : Plain) :
    ∃ c cs, p.magnitude = c :: cs ∧ c ∈ "0123456789.".toList := by
  have hdigit : ∀ c : Char, c.isDigit = true → c ∈ "0123456789.".toList := fun c hc =>
    (show "0123456789".toList ⊆ "0123456789.".toList by decide) (mem_digits hc)
  unfold magnitude
  cases hw : p.whole with
  | cons c cs => exact ⟨c, _, rfl, hdigit c (p.whole_digits c (by rw [hw]; exact .head _))⟩
  | nil =>
    have hdigits := p.has_digit
    rw [hw, List.nil_append] at hdigits
    cases hp : p.places with
    | none => exact absurd (by rw [hp]; rfl) hdigits
    | some ds => exact ⟨'.', ds, rfl, by decide⟩

theorem mem_alphabet (p : Plain) : ∀ c ∈ p.text, c ∈ alphabet := by
  have hdigit : ∀ c : Char, c.isDigit = true → c ∈ alphabet := fun c hc =>
    (show "0123456789".toList ⊆ alphabet by decide) (mem_digits hc)
  intro c hc
  rcases List.mem_append.mp hc with hc | hc
  · rcases p.sign_eq c (Option.mem_toList.mp hc) with rfl | rfl <;> decide
  rcases List.mem_append.mp hc with hc | hc
  · exact hdigit c (p.whole_digits c hc)
  · have hplaces := p.places_digits
    cases hp : p.places with
    | none =>
      rw [hp] at hc
      cases hc
    | some ds =>
      rw [hp] at hc hplaces
      rcases List.mem_cons.mp hc with rfl | hc
      · decide
      · exact hdigit c (hplaces c hc)

/-- What begins with a digit or with a point is not the name of a number. -/
theorem ofList_map_toLower_ne {cs : List Char} {c : Char} {rest : List Char} (hcs : cs = c :: rest)
    (hc : c ∈ "0123456789.".toList) {name : String}
    (hname : name.toList.head? ∈ [some 'i', some 'n']) :
    String.ofList (cs.map Char.toLower) ≠ name := by
  have hlower :
      "0123456789.".toList.all (fun d => some d.toLower ∉ [some 'i', some 'n']) = true := by
    decide
  rintro rfl
  rw [String.toList_ofList, hcs] at hname
  exact of_decide_eq_true (List.all_eq_true.mp hlower c hc) hname

theorem unsigned?_magnitude (p : Plain) :
    unsigned? p.magnitude =
      some (nearest (p.whole ++ p.places.getD []) (-(p.places.getD []).length)) := by
  obtain ⟨c, cs, hhead, hc⟩ := p.exists_magnitude_eq
  have hwhole : p.magnitude.takeWhile Char.isDigit = p.whole ∧
      p.magnitude.dropWhile Char.isDigit = (p.places.map ('.' :: ·)).getD [] := by
    unfold magnitude
    rw [List.takeWhile_append_of_pos p.whole_digits, List.dropWhile_append_of_pos p.whole_digits]
    cases p.places with
    | none => exact ⟨List.append_nil _, rfl⟩
    | some ds => exact ⟨List.append_nil _, rfl⟩
  unfold unsigned?
  dsimp only
  rw [if_neg, if_neg (ofList_map_toLower_ne hhead hc (by decide)), hwhole.1, hwhole.2]
  · have hplaces := p.places_digits
    have hdigit := p.has_digit
    cases hp : p.places with
    | none =>
      rw [hp] at hdigit
      have hne : p.whole.isEmpty = false := by simpa using hdigit
      simp [hne, exponent?]
    | some ds =>
      rw [hp] at hdigit hplaces
      have hne : (p.whole.isEmpty && ds.isEmpty) = false := by simpa [imp_iff_not_or] using hdigit
      have htake : ds.takeWhile Char.isDigit = ds := List.takeWhile_eq_self_iff.mpr hplaces
      have hdrop : ds.dropWhile Char.isDigit = [] := List.dropWhile_eq_nil_iff.mpr hplaces
      simp only [Option.map_some, Option.getD_some, htake, hdrop, hne]
      simp [exponent?]
  · rintro (h | h)
    · exact ofList_map_toLower_ne hhead hc (by decide) h
    · exact ofList_map_toLower_ne hhead hc (by decide) h

theorem splitSign_text (p : Plain) :
    splitSign p.text = (decide (p.sign = some '-'), p.magnitude) := by
  obtain ⟨c, cs, hhead, hc⟩ := p.exists_magnitude_eq
  unfold text
  cases hs : p.sign with
  | none =>
    rw [Option.toList_none, List.nil_append, hhead]
    unfold splitSign
    split
    · rename_i hcons
      cases hcons
      exact absurd hc (by decide)
    · rename_i hcons
      cases hcons
      exact absurd hc (by decide)
    · rfl
  | some c => rcases p.sign_eq c hs with rfl | rfl <;> rfl

/-- A number is read as what it says. -/
theorem float?_text (p : Plain) : float? p.text = some p.value := by
  unfold float?
  rw [p.splitSign_text]
  simp only [p.unsigned?_magnitude, value, Option.map_some, decide_eq_true_eq]

theorem looksNumeric_text (p : Plain) : looksNumeric p.text = true := by
  cases hs : p.sign with
  | some s =>
    obtain ⟨c, cs, hhead, hc⟩ := p.exists_magnitude_eq
    have hdigit : (c.isDigit || c == '.') = true := by
      have hall : "0123456789.".toList.all (fun d => d.isDigit || d == '.') = true := by decide
      exact List.all_eq_true.mp hall c hc
    rw [text, hs, hhead]
    rcases p.sign_eq s hs with rfl | rfl <;>
      simp only [Option.toList_some, List.singleton_append, looksNumeric, hdigit] <;> rfl
  | none =>
    rw [text, hs, Option.toList_none, List.nil_append, magnitude]
    have hdigits := p.has_digit
    cases hw : p.whole with
    | cons c cs =>
      have hc : c.isDigit = true := p.whole_digits c (by rw [hw]; exact .head _)
      simp [looksNumeric, hc]
    | nil =>
      -- without digits before the point there is one behind it
      rw [hw, List.nil_append] at hdigits
      have hplaces := p.places_digits
      cases hp : p.places with
      | none => exact absurd (by rw [hp]; rfl) hdigits
      | some ds =>
        rw [hp] at hdigits hplaces
        obtain ⟨d, ds, rfl⟩ := List.exists_cons_of_ne_nil hdigits
        have hd : d.isDigit = true := hplaces d (.head _)
        simp [looksNumeric, hd]

/-- A test that fails on the alphabet fails all over a number. -/
theorem not_of_mem (n : Plain) {p : Char → Bool} (h : alphabet.all (fun c => !p c) = true) :
    ∀ c ∈ n.text, ¬ p c = true := by
  intro c hc
  simpa using List.all_eq_true.mp h c (n.mem_alphabet c hc)

/-- No mark behind a number is part of it. -/
theorem readNumber_text (p : Plain) (line : Nat) : readNumber line p.text = .ok p.value := by
  have hmark : ∀ c ∈ p.text, ¬ isAnnotation c = true := p.not_of_mem (by decide)
  have hself : Text.dropEndWhile isAnnotation p.text = p.text :=
    List.rdropWhile_eq_self_iff.mpr fun hne => hmark _ (List.getLast_mem hne)
  rw [readNumber, hself, p.float?_text]

theorem trim_text (p : Plain) : Text.trim p.text = p.text :=
  Text.trim_eq_self (p.not_of_mem (by decide))

/-- The text of a place: two numbers in parentheses, divided by a comma. -/
def placeText (x y : Plain) : List Char := '(' :: (x.text ++ ',' :: y.text) ++ [')']

theorem readPlace?_placeText (x y : Plain) :
    readPlace? (placeText x y) = some (x.value, y.value) := by
  have hcomma : ',' ∉ x.text := fun h => absurd (x.mem_alphabet _ h) (by decide)
  rw [readPlace?_eq_some_iff]
  refine ⟨x.text, y.text, rfl, hcomma, ?_, ?_⟩
  · rw [trim_text, float?_text]
  · rw [trim_text, float?_text]

end Plain

end Decimal

end PathTiming
