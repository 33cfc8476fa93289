import CloudAudit.Report.Record

/-!
# What templates see of reports

The data that the templates of reports are given. Members are in the order of their keys.
-/

namespace CloudAudit

/-- The explanation of a failed rule, with the resource in front if that has a name. -/
def RuleOutcome.line (outcome : RuleOutcome) : String :=
  match outcome.resource with
  | some resource => s!"{resource}: {outcome.explanation}"
  | none => outcome.explanation

namespace Assessment

/-- Controls are counted from one. -/
def view (result : Assessment) : Json :=
  .object [
    ("controlStatement", .string result.control.statement),
    ("evidence", .string result.control.evidence),
    ("evidenceNotes", Json.ofTexts result.notes),
    ("failedProperties", Json.ofTexts (failedPaths result.failedRules)),
    ("failedRules", Json.ofTexts (result.failedRules.map RuleOutcome.line)),
    ("number", .int (result.index + 1 : Nat)),
    ("regulation", .string result.control.regulation),
    ("requirement", .string result.control.requirement),
    ("status", result.status.toJson),
    ("statusLabel", .string result.status.label)]

end Assessment

namespace RegulationSummary

def view (summary : RegulationSummary) : Json :=
  .object [
    ("assessedRate", .float summary.assessedRate),
    ("error", .int summary.totals.error),
    ("failed", .int summary.totals.failed),
    ("manual", .int summary.totals.manual),
    ("passed", .int summary.totals.passed),
    ("rate", .float summary.rate),
    ("regulation", .string summary.regulation),
    ("total", .int summary.total)]

/-- A regulation with the controls under it. -/
def sectionView (results : List Assessment) (summary : RegulationSummary) : Json :=
  let own := results.filter fun result => result.control.regulation == summary.regulation
  .object [
    ("controls", .array (own.map Assessment.view)),
    ("error", .int summary.totals.error),
    ("failed", .int summary.totals.failed),
    ("manual", .int summary.totals.manual),
    ("passed", .int summary.totals.passed),
    ("rate", .float summary.rate),
    ("regulation", .string summary.regulation),
    ("total", .int summary.total)]

end RegulationSummary

def Totals.view (totals : Totals) : Json :=
  .object [
    ("error", .int totals.error),
    ("failed", .int totals.failed),
    ("manual", .int totals.manual),
    ("passed", .int totals.passed),
    ("total", .int totals.total)]

def ChecklistMeta.view (checklist : ChecklistMeta) : Json :=
  .object [
    ("controlCount", .int checklist.controlCount),
    ("digest", .string checklist.digest),
    ("name", .string checklist.name)]

namespace Report

def view (report : Report) : Json :=
  .object [
    ("checklist", Json.ofOption ChecklistMeta.view report.checklist),
    ("generatedAt", .string report.generatedAt.reportText),
    ("matchPolicy", report.matchPolicy.toJson),
    ("overallAssessedRate", .float report.overallAssessedRate),
    ("overallRate", .float report.overallRate),
    ("sections", .array (report.byRegulation.map (RegulationSummary.sectionView report.results))),
    ("totals", report.totals.view)]

def summaryView (report : Report) : Json :=
  .object [
    ("checklistName", Json.ofOption (fun checklist => .string checklist.name) report.checklist),
    ("overallRate", .float report.overallRate),
    ("regulations", .array (report.byRegulation.map RegulationSummary.view)),
    ("totals", report.totals.view)]

end Report

namespace Remediation

/-- Advice for every plan that has items. -/
def recommended : List String :=
  ["Review each failed control's requirements",
    "Deploy missing Azure resources",
    "Configure Azure Policy assignments",
    "Enable security features (Defender, Sentinel, etc.)",
    "Re-run validation after remediation"]

def itemView (position : Nat) (item : RemediationItem) : Json :=
  .object [
    ("action", .string item.action),
    ("number", .int (position + 1 : Nat)),
    ("priority", .string item.priority.label),
    ("regulation", .string item.regulation),
    ("requirement", .string item.requirement)]

def view (items : List RemediationItem) : Json :=
  .object [
    ("count", .int items.length),
    ("items", .array (items.mapIdx itemView)),
    ("recommended",
      Json.ofTexts (recommended.mapIdx fun position advice => s!"{position + 1}. {advice}"))]

end Remediation

end CloudAudit
