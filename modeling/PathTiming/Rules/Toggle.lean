import PathTiming.Unicode.Lowercase

/-! Boolean switches of a rules file. -/
namespace PathTiming

inductive Toggle where
  /-- Check the clock networks of every path. -/
  | clockCheckEnable
  /-- Print delta totals. -/
  | deltaSumEnable
  /-- Print path segments. -/
  | pathSegmentEnable
  /-- Let overrides remove clock pins of cells typed as clock cells only. -/
  | ckmWithNonClockCell
  /-- Print the pins that the report command asked to go through. -/
  | throughPinOnReport
  | slackOnReport
  | clockUncertaintyOnReport
  /-- Print the setup or hold time of the library. -/
  | libraryRequiredOnReport
  | datapathLevelOnReport
  | clockSkewOnReport
  | segmentDataLatencyOnReport
  | segmentDataDeltaOnReport
  | segmentLaunchClkLatencyOnReport
  | segmentLaunchClkDeltaOnReport
  | segmentCaptureClkLatencyOnReport
  | segmentCaptureClkDeltaOnReport
  /-- Count reconvergence pessimism as part of the capture source latency. -/
  | segmentCaptureClkLatencyIncludeCrpr
deriving Repr, DecidableEq, Inhabited

namespace Toggle

def all : List Toggle := [
  clockCheckEnable, deltaSumEnable, pathSegmentEnable, ckmWithNonClockCell, throughPinOnReport,
  slackOnReport, clockUncertaintyOnReport, libraryRequiredOnReport, datapathLevelOnReport,
  clockSkewOnReport, segmentDataLatencyOnReport, segmentDataDeltaOnReport,
  segmentLaunchClkLatencyOnReport, segmentLaunchClkDeltaOnReport,
  segmentCaptureClkLatencyOnReport, segmentCaptureClkDeltaOnReport,
  segmentCaptureClkLatencyIncludeCrpr]

def key : Toggle → String
  | clockCheckEnable => "clock_check_enable"
  | deltaSumEnable => "delta_sum_enable"
  | pathSegmentEnable => "path_segment_enable"
  | ckmWithNonClockCell => "ckm_with_non_clock_cell"
  | throughPinOnReport => "through_pin_on_report"
  | slackOnReport => "slack_on_report"
  | clockUncertaintyOnReport => "clock_uncertainty_on_report"
  | libraryRequiredOnReport => "library_required_on_report"
  | datapathLevelOnReport => "datapath_level_on_report"
  | clockSkewOnReport => "clock_skew_on_report"
  | segmentDataLatencyOnReport => "segment_data_latency_on_report"
  | segmentDataDeltaOnReport => "segment_data_delta_on_report"
  | segmentLaunchClkLatencyOnReport => "segment_launch_clk_latency_on_report"
  | segmentLaunchClkDeltaOnReport => "segment_launch_clk_delta_on_report"
  | segmentCaptureClkLatencyOnReport => "segment_capture_clk_latency_on_report"
  | segmentCaptureClkDeltaOnReport => "segment_capture_clk_delta_on_report"
  | segmentCaptureClkLatencyIncludeCrpr => "segment_capture_clk_latency_include_crpr"

def ofKey? (key : String) : Option Toggle := all.find? fun t => t.key = key

/-- The value of a switch that no rule sets. -/
def default : Toggle → Bool
  | slackOnReport | clockSkewOnReport | segmentDataLatencyOnReport | segmentDataDeltaOnReport
  | segmentLaunchClkLatencyOnReport | segmentLaunchClkDeltaOnReport
  | segmentCaptureClkLatencyOnReport | segmentCaptureClkDeltaOnReport
  | segmentCaptureClkLatencyIncludeCrpr => true
  | _ => false

def spelling (b : Bool) : String := if b then "true" else "false"

/-- The value that a text gives to a switch. Only the word for the opposite of the default, in any
case, turns it; every other text means the default. -/
def resolve (t : Toggle) (text : String) : Bool :=
  if Unicode.toLower text = spelling (!t.default) then !t.default else t.default

end Toggle

structure Toggles where
  value : Toggle → Bool := Toggle.default

instance : Inhabited Toggles := ⟨{}⟩

def Toggles.set (ts : Toggles) (t : Toggle) (b : Bool) : Toggles :=
  ⟨fun u => if u = t then b else ts.value u⟩

end PathTiming
