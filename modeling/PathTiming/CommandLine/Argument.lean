import PathTiming.Analysis.Chart
import PathTiming.Analysis.Metric

/-! The arguments of the command line: their names, and the values that they take. -/
namespace PathTiming

inductive Argument where
  /-- The report to read, the only argument without a name. -/
  | report
  | config
  | noConfig
  | range
  | clockCheck
  | traceFile
  | deltaSum
  | segments
  | barData
  | barPath
  | barSet
  | barFile
  | tableFile
  | tableColumns
  | debug
  | format
  | quiet
  | verbose
  | colour
  | help
  | version
deriving Repr, DecidableEq, Inhabited

inductive Arity where
  | none
  | one
  /-- As many as follow, but not fewer than `least`. -/
  | many (least : Nat)
deriving Repr, DecidableEq, Inhabited

inductive ValueKind where
  | anyText
  /-- Any text but the empty one. -/
  | path
  | oneOf (words : List String)
deriving Repr, DecidableEq, Inhabited

def ValueKind.accepts : ValueKind → String → Bool
  | anyText, _ => true
  | path, text => !text.isEmpty
  | oneOf words, text => words.contains text

namespace Argument

def named : List Argument := [
  config, noConfig, range, clockCheck, traceFile, deltaSum, segments, barData, barPath, barSet,
  barFile, tableFile, tableColumns, debug, format, quiet, verbose, colour, help, version]

def long? : Argument → Option String
  | report => none
  | config => some "config"
  | noConfig => some "no-config"
  | range => some "range"
  | clockCheck => some "ckc"
  | traceFile => some "ckc-dump"
  | deltaSum => some "dts"
  | segments => some "seg"
  | barData => some "bar-data"
  | barPath => some "bar-path"
  | barSet => some "bar-set"
  | barFile => some "bar-out"
  | tableFile => some "csv"
  | tableColumns => some "csv-cols"
  | debug => some "debug"
  | format => some "format"
  | quiet => some "quiet"
  | verbose => some "verbose"
  | colour => some "color"
  | help => some "help"
  | version => some "version"

def short? : Argument → Option Char
  | config => some 'c'
  | range => some 'r'
  | quiet => some 'q'
  | verbose => some 'v'
  | help => some 'h'
  | version => some 'V'
  | _ => none

def ofLong? (name : String) : Option Argument := named.find? fun a => a.long? = some name

def ofShort? (letter : Char) : Option Argument := named.find? fun a => a.short? = some letter

def arity : Argument → Arity
  | noConfig | clockCheck | deltaSum | segments | debug | quiet | verbose | help | version => .none
  | barData => .many 0
  | barPath | tableColumns => .many 1
  | _ => .one

def repeats : Argument → Bool
  | barData | barPath | tableColumns => true
  | _ => false

/-- The columns that can be asked for; the line is always there, and the parts of the clock
latencies are asked for together. -/
def columnCodes : List String :=
  ["stp", "edp", "dlat", "arr", "req", "slk", "unce", "lib", "llat", "clat", Metric.latencyGroup,
    "crpr", "skew", "ddt", "ldt", "cdt"]

def values : Argument → ValueKind
  | report | config | traceFile | barFile | tableFile => .path
  | barData => .oneOf ((Listed.all : List BarData).map BarData.code)
  | barPath => .oneOf ((Listed.all : List BarPart).map BarPart.code)
  | tableColumns => .oneOf columnCodes
  | format => .oneOf ["text", "json"]
  | colour => .oneOf ["auto", "always", "never"]
  | _ => .anyText

end Argument

end PathTiming
