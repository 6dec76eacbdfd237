import PathTiming.Main
import PathTiming.Proofs.Blocks
import PathTiming.Proofs.LineIndex
import PathTiming.Proofs.LineSplit
import PathTiming.Unicode.Break
import PathTiming.Unicode.Utf8
import PathTiming.Proofs.RangeSelection
import PathTiming.Proofs.LineShift
import PathTiming.Proofs.BlockIndependence
import PathTiming.Proofs.TokenSpan
import PathTiming.Proofs.PathInvariant
import PathTiming.Proofs.ReportSession
import PathTiming.Proofs.SegmentPartition
import PathTiming.Proofs.NetworkComparison
import PathTiming.Proofs.RuleLines
import PathTiming.Proofs.RuleOrder
import PathTiming.Proofs.ChartShape
import PathTiming.Proofs.DefaultClass
import PathTiming.Proofs.DiskWrite
import PathTiming.Proofs.MetricTable
import PathTiming.Proofs.RunOutcome
import PathTiming.Proofs.SourceNumbers
import PathTiming.Proofs.LogHistory
import PathTiming.Proofs.LaunchClockPin
import PathTiming.Proofs.PortClockPin
import PathTiming.Proofs.GeneratedSource
import PathTiming.Proofs.NetworkTrace
import PathTiming.Proofs.StickyTags
import PathTiming.Proofs.PinConservation
import PathTiming.Proofs.AlignedRow
import PathTiming.Proofs.StageFences
import PathTiming.Proofs.Classification
import PathTiming.Proofs.ClockLatency
import PathTiming.Proofs.FormatFault
import PathTiming.Proofs.RuleTables
import PathTiming.Proofs.ClassPriority
import PathTiming.Proofs.LabelShape
import PathTiming.Proofs.RuleLookup
import PathTiming.Proofs.AnchoredPattern
import PathTiming.Proofs.SwitchLines
import PathTiming.Proofs.ClockMembership
import PathTiming.Proofs.SeriesTags
import PathTiming.Proofs.DriveWarnings
import PathTiming.Proofs.ChartRequest
import PathTiming.Proofs.RangeGrammar
import PathTiming.Proofs.SummaryOutcome
import PathTiming.Proofs.PlaceDistance
