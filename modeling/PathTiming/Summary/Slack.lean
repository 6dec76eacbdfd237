import PathTiming.Report.Report
import PathTiming.Summary.Layout

/-! The slack block of a path summary: the times, and what they are made of. -/
namespace PathTiming.Summary

def libraryLabel : DelayType → String
  | .max => "library setup:"
  | .min => "library hold:"

/-- What the slack is made of, as far as the path and the rules have it. An output delay stands in
place of a library time. -/
def slackDetails (rules : RuleSet) (path : TimingPath) : List String :=
  (if rules.toggle .clockUncertaintyOnReport then [field "clock uncertainty:" path.uncertainty]
    else []) ++
  (if rules.toggle .libraryRequiredOnReport && path.outputDelay.isNone then
      [field (libraryLabel path.delayType) path.library]
    else []) ++
  (path.inputDelay.map (field "input delay:")).toList ++
  (path.outputDelay.map fun delay => field "output delay:" (-delay)).toList ++
  (path.pathMargin.map (field "path margin:")).toList ++
  path.holdChecks.entries.map fun (tag, value) => field s!"{tag}:" value

def hasSlackDetails (rules : RuleSet) (path : TimingPath) : Bool :=
  path.inputDelay.isSome || path.outputDelay.isSome || path.pathMargin.isSome ||
    path.hasHoldChecks || rules.toggle .clockUncertaintyOnReport ||
    rules.toggle .libraryRequiredOnReport

def slack (rules : RuleSet) (path : TimingPath) : List String :=
  if !rules.toggle .slackOnReport then []
  else
    [field "data latency:" path.dataLatency,
      field "arrival:" path.arrival,
      field "required:" path.required,
      field "slack:" path.slack] ++
    (if hasSlackDetails rules path then [thinRule] else []) ++
    slackDetails rules path ++
    (if rules.toggle .datapathLevelOnReport then
        [label "datapath level:" ++ s!" {path.datapathLevel}"]
      else []) ++
    [rule]

end PathTiming.Summary
