/-! Sets over types that list all their values. -/
namespace PathTiming

/-- A type whose values can be listed. The list fixes their order. -/
class Listed (α : Type) where
  all : List α
  mem_all : ∀ a : α, a ∈ all

structure EnumSet (α : Type) where
  toList : List α
deriving Repr, DecidableEq, Inhabited

namespace EnumSet
variable {α : Type} [Listed α] [DecidableEq α]

def filter (p : α → Bool) : EnumSet α := ⟨(Listed.all : List α).filter p⟩

def empty : EnumSet α := ⟨[]⟩

omit [Listed α] in
def contains (s : EnumSet α) (a : α) : Bool := s.toList.contains a

omit [Listed α] [DecidableEq α] in
def isEmpty (s : EnumSet α) : Bool := s.toList.isEmpty

def insert (s : EnumSet α) (a : α) : EnumSet α := filter fun b => b == a || s.contains b

def erase (s : EnumSet α) (a : α) : EnumSet α := filter fun b => b != a && s.contains b

def union (s t : EnumSet α) : EnumSet α := filter fun b => s.contains b || t.contains b

def ofList (as : List α) : EnumSet α := filter as.contains

omit [DecidableEq α] in
/-- The members stand in the order of their type, each of them once. -/
def Ordered (s : EnumSet α) : Prop := s.toList.Sublist Listed.all

omit [DecidableEq α] in
theorem ordered_filter (p : α → Bool) : (filter p).Ordered := List.filter_sublist

theorem contains_filter (p : α → Bool) (a : α) : (filter p).contains a = p a := by
  have h := Listed.mem_all a
  cases hp : p a <;> simp [contains, filter, h, hp]

@[simp]
theorem contains_insert (s : EnumSet α) (a b : α) :
    (s.insert a).contains b = (b == a || s.contains b) := contains_filter _ _

@[simp]
theorem contains_erase (s : EnumSet α) (a b : α) :
    (s.erase a).contains b = (b != a && s.contains b) := contains_filter _ _

@[simp]
theorem contains_union (s t : EnumSet α) (b : α) :
    (s.union t).contains b = (s.contains b || t.contains b) := contains_filter _ _

end EnumSet

end PathTiming
