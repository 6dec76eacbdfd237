/-! Tables that remember the order in which their keys were first set. -/
namespace PathTiming

/-- Keys with their values, in the order in which the keys were first set. -/
structure Keyed (κ α : Type) where
  entries : List (κ × α) := []
deriving Inhabited

namespace Keyed
variable {κ α : Type} [DecidableEq κ]

/-- Changes the value of a key in its place, or adds the key at the end. -/
def alterEntries (key : κ) (f : Option α → α) : List (κ × α) → List (κ × α)
  | [] => [(key, f none)]
  | entry :: rest =>
    if entry.1 = key then (key, f (some entry.2)) :: rest else entry :: alterEntries key f rest

def alter (t : Keyed κ α) (key : κ) (f : Option α → α) : Keyed κ α :=
  ⟨alterEntries key f t.entries⟩

def insert (t : Keyed κ α) (key : κ) (value : α) : Keyed κ α := t.alter key fun _ => value

def get? (t : Keyed κ α) (key : κ) : Option α :=
  (t.entries.find? fun entry => entry.1 = key).map (·.2)

def contains (t : Keyed κ α) (key : κ) : Bool := (t.get? key).isSome

omit [DecidableEq κ] in
def keys (t : Keyed κ α) : List κ := t.entries.map (·.1)

omit [DecidableEq κ] in
def isEmpty (t : Keyed κ α) : Bool := t.entries.isEmpty

theorem find?_alterEntries (key other : κ) (f : Option α → α) (entries : List (κ × α)) :
    ((alterEntries key f entries).find? fun entry => entry.1 = other).map (·.2) =
      if key = other then some (f ((entries.find? fun entry => entry.1 = key).map (·.2)))
      else (entries.find? fun entry => entry.1 = other).map (·.2) := by
  induction entries with
  | nil => by_cases h : key = other <;> simp [alterEntries, h]
  | cons entry rest ih =>
    by_cases hk : entry.1 = key
    · subst hk
      by_cases ho : entry.1 = other <;> simp [alterEntries, ho]
    · by_cases ho : entry.1 = other
      · subst ho
        simp [alterEntries, hk, Ne.symm hk]
      · simp [alterEntries, hk, ho, ih]

@[simp]
theorem get?_alter (t : Keyed κ α) (key other : κ) (f : Option α → α) :
    (t.alter key f).get? other = if key = other then some (f (t.get? key)) else t.get? other :=
  find?_alterEntries key other f t.entries

@[simp]
theorem get?_insert (t : Keyed κ α) (key other : κ) (value : α) :
    (t.insert key value).get? other = if key = other then some value else t.get? other :=
  get?_alter t key other _

/-- A key that is there already is not listed again. -/
theorem eraseDups_concat (keys : List κ) (key : κ) :
    (keys ++ [key]).eraseDups =
      if key ∈ keys.eraseDups then keys.eraseDups else keys.eraseDups ++ [key] := by
  rw [List.eraseDups_append]
  by_cases hkey : key ∈ keys <;> simp [List.removeAll, hkey, List.eraseDups_cons]

/-- A new key comes last, and an old one keeps its place. -/
theorem keys_alter (t : Keyed κ α) (key : κ) (f : Option α → α) :
    (t.alter key f).keys = if key ∈ t.keys then t.keys else t.keys ++ [key] := by
  obtain ⟨entries⟩ := t
  unfold alter keys
  dsimp only
  induction entries with
  | nil => rfl
  | cons entry rest ih =>
    rw [alterEntries]
    by_cases hkey : entry.1 = key
    · simp [hkey]
    · rw [if_neg hkey, List.map_cons, ih, List.map_cons]
      simp only [List.mem_cons, Ne.symm hkey, false_or]
      by_cases hmem : key ∈ rest.map (·.1)
      · rw [if_pos hmem, if_pos hmem]
      · rw [if_neg hmem, if_neg hmem, List.cons_append]

theorem contains_iff_mem_keys (t : Keyed κ α) (key : κ) : t.contains key = true ↔ key ∈ t.keys := by
  simp [contains, get?, keys]

theorem contains_insert (t : Keyed κ α) (key other : κ) (value : α) :
    (t.insert key value).contains other = true ↔ key = other ∨ t.contains other = true := by
  unfold contains
  rw [get?_insert]
  by_cases h : key = other <;> simp [h]

end Keyed

end PathTiming
