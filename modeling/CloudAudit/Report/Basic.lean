import CloudAudit.Engine.Settings
import CloudAudit.Report.Totals
import CloudAudit.Timestamp

/-!
# Reports

The assessments of a run with their totals, overall and by regulation. Regulations come in the
order of their first assessment.
-/

namespace CloudAudit

/-- Where the controls of a run came from. -/
structure ChecklistMeta where
  name : String
  digest : String
  controlCount : Nat
  deriving DecidableEq, Repr

structure Report where
  generatedAt : Timestamp
  checklist : Option ChecklistMeta
  matchPolicy : MatchPolicy
  results : List Assessment
  totals : Totals
  overallRate : Number.Binary64
  overallAssessedRate : Number.Binary64
  byRegulation : List RegulationSummary
  deriving Inhabited

namespace Report

/-- Records a status under a name; a new name goes to the end. -/
def recordUnder (name : String) (status : Status) :
    List (String × Totals) → List (String × Totals)
  | [] => [(name, Totals.record {} status)]
  | (n, totals) :: rest =>
    if n = name then (n, totals.record status) :: rest
    else (n, totals) :: recordUnder name status rest

def regulationTotals (results : List Assessment) : List (String × Totals) :=
  results.foldl (fun entries result => recordUnder result.control.regulation result.status entries)
    []

/-- Totals of all results, and the summary of every regulation. -/
def summarize (results : List Assessment) : Totals × List RegulationSummary :=
  (Totals.ofStatuses (results.map Assessment.status),
    (regulationTotals results).map fun (name, totals) => RegulationSummary.ofTotals name totals)

def ofResults (generatedAt : Timestamp) (checklist : Option ChecklistMeta)
    (matchPolicy : MatchPolicy) (results : List Assessment) : Report :=
  let (totals, byRegulation) := summarize results
  { generatedAt, checklist, matchPolicy, results, totals, byRegulation
    overallRate := totals.rate
    overallAssessedRate := totals.assessedRate }

/-- The summary of one regulation. -/
def regulation? (report : Report) (name : String) : Option RegulationSummary :=
  report.byRegulation.find? fun summary => summary.regulation == name

def withStatus (report : Report) (status : Status) : List Assessment :=
  report.results.filter fun result => result.status = status

/-- No control failed, and none was left without an assessment. -/
def isCompliant (report : Report) : Bool :=
  report.totals.failed = 0 && report.totals.error = 0

/-- How many controls wait for a person. -/
def pendingReview (report : Report) : Nat :=
  (report.withStatus .manual).length

end Report

end CloudAudit
