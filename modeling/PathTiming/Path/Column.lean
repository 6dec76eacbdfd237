import PathTiming.EnumSet
import PathTiming.Path.Pin

/-! What a report shows: the columns of its pin tables and the style of its paths. -/
namespace PathTiming

inductive Column where
  | fanout
  | cap
  | trans
  | derate
  | delta
  | incr
  | path
  | location
  /-- A header word that means nothing here. -/
  | other
deriving Repr, DecidableEq, Inhabited

namespace Column

instance : Listed Column where
  all := [fanout, cap, trans, derate, delta, incr, path, location, other]
  mem_all c := by cases c <;> decide

def label : Column → String
  | fanout => "Fanout"
  | cap => "Cap"
  | trans => "Trans"
  | derate => "Derate"
  | delta => "Delta"
  | incr => "Incr"
  | path => "Path"
  | location => "Location"
  | other => "Other"

def ofHeader (word : String) : Column :=
  ((Listed.all : List Column).find? fun c => c.label = word).getD other

/-- What a column says about a pin, if it says anything. The locations give distances. -/
def value? : Column → Option (Pin → Float)
  | cap => some Pin.cap
  | trans => some Pin.transition
  | delta => some Pin.delta
  | incr => some Pin.increment
  | path => some Pin.cumulative
  | location => some Pin.distance
  | fanout | derate | other => none

end Column

inductive PathStyle where
  /-- One row for each network. -/
  | full
  /-- The pins of the networks. -/
  | fullClock
  /-- The pins of the networks, back to the source of the clock. -/
  | fullClockExpanded
deriving Repr, DecidableEq, Inhabited

namespace PathStyle

instance : Listed PathStyle where
  all := [full, fullClock, fullClockExpanded]
  mem_all s := by cases s <;> decide

def label : PathStyle → String
  | full => "full"
  | fullClock => "full_clock"
  | fullClockExpanded => "full_clock_expanded"

def ofLabel? (word : String) : Option PathStyle :=
  (Listed.all : List PathStyle).find? fun s => s.label = word

end PathStyle

inductive ReportOption where
  /-- The report was asked for in this style. -/
  | style (s : PathStyle)
  /-- Some pin table has this column. -/
  | column (c : Column)
deriving Repr, DecidableEq, Inhabited

instance : Listed ReportOption where
  all := (Listed.all : List PathStyle).map .style ++ (Listed.all : List Column).map .column
  mem_all o := by
    cases o with
    | style s => simp [Listed.mem_all]
    | column c => simp [Listed.mem_all]

end PathTiming
