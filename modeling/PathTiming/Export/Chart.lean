import PathTiming.Analysis.Chart
import PathTiming.Export.Report

/-! Chart series as JSON. -/
namespace PathTiming

def BarData.jsonName : BarData → String
  | distance => "Distance"
  | cap => "Cap"
  | trans => "Trans"
  | delta => "Delta"
  | incr => "Incr"
  | cellType => "CellType"

def BarPart.jsonName : BarPart → String
  | launch => "Launch"
  | data => "Data"
  | full => "Full"
  | capture => "Capture"

def BarSeries.toJson (s : BarSeries) : Json :=
  .object [
    ("data", .string s.data.jsonName),
    ("path", .string s.part.jsonName),
    ("title", .string s.title),
    ("names", .list .string s.names),
    ("lines", .list .nat s.lines),
    ("values", .list .float s.values),
    ("tags", .list .string s.tags),
    ("drive", .list (.option .float) s.drive),
    ("highlight", .option .nat s.highlight)]

end PathTiming
