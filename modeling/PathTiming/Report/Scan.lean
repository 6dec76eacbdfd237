import PathTiming.Report.Block
import PathTiming.Report.Header
import PathTiming.Source.File

/-! The paths of a range of lines. -/
namespace PathTiming

/-- Lines of a report to be read. A path is taken if it begins at `start` or later, and ends at
`stop` or before. -/
structure ScanRange where
  /-- Line 0 means the same as line 1. -/
  start : Nat
  /-- Without it, the range lasts to the end of the report. -/
  stop : Option Nat := none
  /-- The number of paths to take; without it, all are taken. -/
  count : Option Nat := none
deriving Repr, DecidableEq, Inhabited

def ScanRange.whole : ScanRange := { start := 0 }

structure Scan where
  paths : List TimingPath := []
  /-- The block that is being read. -/
  current : Option Block := none
  columns : EnumSet Column := .empty
deriving Inhabited

namespace Scan

def isFull (s : Scan) : Option Nat → Bool
  | none => false
  | some limit => limit ≤ s.paths.length

def close (s : Scan) (through : List String) : Scan :=
  match s.current with
  | none => s
  | some b =>
    if b.isComplete then { s with paths := s.paths ++ [b.finish through], current := none }
    else { s with current := none }

def readLines (rules : RuleSet) (through : List String) (limit : Option Nat) (s : Scan) :
    List (Nat × String) → Except FormatError Scan
  | [] => .ok s
  | (line, text) :: rest =>
    match ReportHeader.startpoint? text.toList with
    | some startpoint =>
      let s := s.close through
      if s.isFull limit then .ok s
      else readLines rules through limit { s with current := some (.start line startpoint) } rest
    | none =>
      match s.current with
      | none => readLines rules through limit s rest
      | some b =>
        match b.feed rules line text.toList with
        | .error e => .error e
        | .ok (b, atEnd) =>
          let columns := (Block.newColumns text.toList).foldl EnumSet.insert s.columns
          let s := { s with current := some b, columns }
          if atEnd then
            let s := { s with paths := s.paths ++ [b.finish through], current := none }
            if s.isFull limit then .ok s else readLines rules through limit s rest
          else readLines rules through limit s rest

/-- Reads the lines of a range. The last block of a report needs no slack; the last block of a range
that ends before the report is not closed, and gives no path. -/
def ofRange (rules : RuleSet) (through : List String) (file : SourceFile) (range : ScanRange) :
    Except FormatError Scan :=
  if range.count = some 0 then .ok {}
  else
    let lines :=
      match range.stop with
      | none => file.linesFrom range.start
      | some stop => (file.linesFrom range.start).takeWhile fun l => l.1 ≤ stop
    let cutShort :=
      match range.stop with
      | none => false
      | some stop => stop < file.lineCount
    (readLines rules through range.count {} lines).map fun s =>
      if cutShort then s else s.close through

end Scan

end PathTiming
