import CloudAudit.Control.Record
import CloudAudit.Report.Remediation

/-!
# Reports in JSON
-/

namespace CloudAudit

open Json (Fields)

namespace Status

def toJson (status : Status) : Json := .string status.name

def ofJson? (j : Json) : Option Status := do
  let name ← j.choice?
  [passed, failed, manual, error].find? fun status => status.name == name

end Status

namespace RequirementStatus

def toJson (status : RequirementStatus) : Json := .string status.name

def ofJson? (j : Json) : Option RequirementStatus := do
  let name ← j.choice?
  [satisfied, missingResources, nonCompliant, skipped, queryFailed].find? fun status =>
    status.name == name

end RequirementStatus

namespace RuleOutcome

def toJson (outcome : RuleOutcome) : Json :=
  .object <|
    [("resourceType", .string outcome.resourceType)]
    ++ Json.optionalMember "resource" (outcome.resource.map .string)
    ++ [("propertyPath", .string outcome.path), ("check", outcome.check.toJson),
      ("passed", .bool outcome.passed), ("explanation", .string outcome.explanation)]

def ofJson? (j : Json) : Option RuleOutcome := do
  let fields ← j.fields? ["resourceType", "resource", "propertyPath", "check", "passed",
    "explanation"]
  let resourceType ← fields.required "resourceType" Json.string?
  let resource ← fields.withDefault "resource" none (Json.optional? Json.string?)
  let path ← fields.required "propertyPath" Json.string?
  let check ← fields.required "check" Check.ofJson?
  let passed ← fields.required "passed" Json.bool?
  let explanation ← fields.required "explanation" Json.string?
  return { resourceType, resource, path, check, passed, explanation }

end RuleOutcome

namespace RequirementOutcome

def toJson (outcome : RequirementOutcome) : Json :=
  .object [("resourceType", .string outcome.resourceType), ("required", .bool outcome.required),
    ("matchedResources", .int outcome.matched), ("compliantResources", .int outcome.compliant),
    ("status", outcome.status.toJson)]

def ofJson? (j : Json) : Option RequirementOutcome := do
  let fields ← j.fields? ["resourceType", "required", "matchedResources", "compliantResources",
    "status"]
  let resourceType ← fields.required "resourceType" Json.string?
  let required ← fields.required "required" Json.bool?
  let matched ← fields.required "matchedResources" Json.natural?
  let compliant ← fields.required "compliantResources" Json.natural?
  let status ← fields.required "status" RequirementStatus.ofJson?
  return { resourceType, required, matched, compliant, status }

end RequirementOutcome

namespace Assessment

def toJson (result : Assessment) : Json :=
  .object [("controlIndex", .int result.index), ("control", result.control.toJson),
    ("status", result.status.toJson), ("matchedResourceCount", .int result.matched),
    ("ruleOutcomes", .array (result.ruleOutcomes.map RuleOutcome.toJson)),
    ("requirementOutcomes", .array (result.requirementOutcomes.map RequirementOutcome.toJson)),
    ("evidenceNotes", Json.ofTexts result.notes)]

def ofJson? (j : Json) : Option Assessment := do
  let fields ← j.fields? ["controlIndex", "control", "status", "matchedResourceCount",
    "ruleOutcomes", "requirementOutcomes", "evidenceNotes"]
  let index ← fields.required "controlIndex" Json.natural?
  let control ← fields.required "control" Control.ofJson?
  let status ← fields.required "status" Status.ofJson?
  let matched ← fields.required "matchedResourceCount" Json.natural?
  let ruleOutcomes ← fields.required "ruleOutcomes" (Json.list? RuleOutcome.ofJson?)
  let requirementOutcomes ←
    fields.required "requirementOutcomes" (Json.list? RequirementOutcome.ofJson?)
  let notes ← fields.required "evidenceNotes" (Json.list? Json.string?)
  return { index, control, status, matched, ruleOutcomes, requirementOutcomes, notes }

end Assessment

namespace Totals

def fieldNames : List String := ["passed", "failed", "manual", "error"]

def members (totals : Totals) : List (String × Json) :=
  [("passed", .int totals.passed), ("failed", .int totals.failed),
    ("manual", .int totals.manual), ("error", .int totals.error)]

def toJson (totals : Totals) : Json := .object totals.members

def ofFields? (fields : Fields) : Option Totals := do
  let passed ← fields.required "passed" Json.natural?
  let failed ← fields.required "failed" Json.natural?
  let manual ← fields.required "manual" Json.natural?
  let error ← fields.required "error" Json.natural?
  return { passed, failed, manual, error }

def ofJson? (j : Json) : Option Totals := do ofFields? (← j.fields? fieldNames)

end Totals

namespace RegulationSummary

/-- The counters stand among the other members. -/
def toJson (summary : RegulationSummary) : Json :=
  .object <|
    ("regulation", .string summary.regulation) :: summary.totals.members
    ++ [("total", .int summary.total), ("rate", .float summary.rate),
      ("assessedRate", .float summary.assessedRate)]

/-- Only an object will do, since the counters have no place of their own in a list. -/
def ofJson? (j : Json) : Option RegulationSummary := do
  let fields ← j.objectFields? ("regulation" :: Totals.fieldNames
    ++ ["total", "rate", "assessedRate"])
  let regulation ← fields.required "regulation" Json.string?
  let totals ← Totals.ofFields? fields
  let total ← fields.required "total" Json.natural?
  let rate ← fields.required "rate" Json.float?
  let assessedRate ← fields.required "assessedRate" Json.float?
  return { regulation, totals, total, rate, assessedRate }

end RegulationSummary

namespace ChecklistMeta

def toJson (checklist : ChecklistMeta) : Json :=
  .object [("name", .string checklist.name), ("digest", .string checklist.digest),
    ("controlCount", .int checklist.controlCount)]

def ofJson? (j : Json) : Option ChecklistMeta := do
  let fields ← j.fields? ["name", "digest", "controlCount"]
  let name ← fields.required "name" Json.string?
  let digest ← fields.required "digest" Json.string?
  let controlCount ← fields.required "controlCount" Json.natural?
  return { name, digest, controlCount }

end ChecklistMeta

namespace Timestamp

def toJson (t : Timestamp) : Json := .string t.text

def ofJson? (j : Json) : Option Timestamp := j.string?.bind parse?

end Timestamp

namespace Report

def toJson (report : Report) : Json :=
  .object <|
    [("generatedAt", report.generatedAt.toJson)]
    ++ Json.optionalMember "checklist" (report.checklist.map ChecklistMeta.toJson)
    ++ [("matchPolicy", report.matchPolicy.toJson),
      ("results", .array (report.results.map Assessment.toJson)),
      ("totals", report.totals.toJson), ("overallRate", .float report.overallRate),
      ("overallAssessedRate", .float report.overallAssessedRate),
      ("byRegulation", .array (report.byRegulation.map RegulationSummary.toJson))]

def ofJson? (j : Json) : Option Report := do
  let fields ← j.fields? ["generatedAt", "checklist", "matchPolicy", "results", "totals",
    "overallRate", "overallAssessedRate", "byRegulation"]
  let generatedAt ← fields.required "generatedAt" Timestamp.ofJson?
  let checklist ← fields.withDefault "checklist" none (Json.optional? ChecklistMeta.ofJson?)
  let matchPolicy ← fields.required "matchPolicy" MatchPolicy.ofJson?
  let results ← fields.required "results" (Json.list? Assessment.ofJson?)
  let totals ← fields.required "totals" Totals.ofJson?
  let overallRate ← fields.required "overallRate" Json.float?
  let overallAssessedRate ← fields.required "overallAssessedRate" Json.float?
  let byRegulation ← fields.required "byRegulation" (Json.list? RegulationSummary.ofJson?)
  return { generatedAt, checklist, matchPolicy, results, totals, overallRate,
           overallAssessedRate, byRegulation }

end Report

namespace Priority

def toJson (priority : Priority) : Json := .string priority.name

def ofJson? (j : Json) : Option Priority := j.choice?.bind ofName?

end Priority

namespace RemediationItem

def toJson (item : RemediationItem) : Json :=
  .object [("controlIndex", .int item.index), ("regulation", .string item.regulation),
    ("requirement", .string item.requirement), ("priority", item.priority.toJson),
    ("action", .string item.action)]

def ofJson? (j : Json) : Option RemediationItem := do
  let fields ← j.fields? ["controlIndex", "regulation", "requirement", "priority", "action"]
  let index ← fields.required "controlIndex" Json.natural?
  let regulation ← fields.required "regulation" Json.string?
  let requirement ← fields.required "requirement" Json.string?
  let priority ← fields.required "priority" Priority.ofJson?
  let action ← fields.required "action" Json.string?
  return { index, regulation, requirement, priority, action }

end RemediationItem

namespace RemediationPolicy

def toJson (policy : RemediationPolicy) : Json :=
  .object [("criticalRegulations", Json.ofOption Json.ofTexts policy.critical),
    ("lowPriorityRegulations", Json.ofTexts policy.low)]

def ofJson? (j : Json) : Option RemediationPolicy := do
  let fields ← j.fields? ["criticalRegulations", "lowPriorityRegulations"]
  let critical ←
    fields.withDefault "criticalRegulations" none (Json.optional? (Json.list? Json.string?))
  let low ← fields.withDefault "lowPriorityRegulations" [] (Json.list? Json.string?)
  return { critical, low }

end RemediationPolicy

end CloudAudit
