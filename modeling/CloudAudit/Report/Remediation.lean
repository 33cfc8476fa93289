import CloudAudit.Report.Basic
import CloudAudit.Text.Segments

/-!
# Remediation plans

An action for every failed control, by priority of its regulation and then in checklist order.
Manual controls and errors need a person and are left out.
-/

namespace CloudAudit

inductive Priority where
  | high
  | medium
  | low
  deriving DecidableEq, Repr, Inhabited

namespace Priority

def all : List Priority := [high, medium, low]

def name : Priority → String
  | high => "high"
  | medium => "medium"
  | low => "low"

def label : Priority → String
  | high => "HIGH"
  | medium => "MEDIUM"
  | low => "LOW"

def ofName? (s : String) : Option Priority :=
  all.find? fun priority => priority.name == s

/-- The most urgent comes first. -/
def rank : Priority → Nat
  | high => 0
  | medium => 1
  | low => 2

end Priority

/-- Without a list every regulation is critical; a low one is low all the same. -/
structure RemediationPolicy where
  critical : Option (List String) := none
  low : List String := []
  deriving DecidableEq, Repr, Inhabited

namespace RemediationPolicy

def isCritical (policy : RemediationPolicy) (regulation : String) : Bool :=
  match policy.critical with
  | none => true
  | some regulations => regulations.contains regulation

def isLow (policy : RemediationPolicy) (regulation : String) : Bool :=
  policy.low.contains regulation

def priority (policy : RemediationPolicy) (regulation : String) : Priority :=
  if policy.isLow regulation then .low
  else if policy.isCritical regulation then .high
  else .medium

end RemediationPolicy

structure RemediationItem where
  index : Nat
  regulation : String
  requirement : String
  priority : Priority
  action : String
  deriving DecidableEq, Repr

namespace Remediation

/-- What is said of a failed control without failed requirements. -/
def genericAction : String :=
  "Review control details and implement required Azure resources"

def deployText (resourceType : String) : String :=
  s!"Deploy {resourceType} (no matching resources found)"

def configureText (resourceType : String) (paths : List String) (compliant matched : Nat) :
    String :=
  let listed := Text.join ", " paths
  s!"Configure {resourceType}: {listed} ({compliant} of {matched} resource(s) compliant)"

/-- The part of an action that is about one requirement. -/
def clause? (failed : List RuleOutcome) (outcome : RequirementOutcome) : Option String :=
  match outcome.status with
  | .missingResources => some (deployText outcome.resourceType)
  | .nonCompliant =>
    let related := failed.filter fun rule => rule.resourceType == outcome.resourceType
    some (configureText outcome.resourceType (Assessment.failedPaths related)
      outcome.compliant outcome.matched)
  | _ => none

def clauses (result : Assessment) : List String :=
  result.requirementOutcomes.filterMap (clause? result.failedRules)

def action (result : Assessment) : String :=
  if (clauses result).isEmpty then genericAction else Text.join "; " (clauses result)

def item (policy : RemediationPolicy) (result : Assessment) : RemediationItem :=
  { index := result.index
    regulation := result.control.regulation
    requirement := result.control.requirement
    priority := policy.priority result.control.regulation
    action := action result }

end Remediation

/-- The items of all failed controls by priority; the sort is a stable one. -/
def Report.plan (policy : RemediationPolicy) (report : Report) : List RemediationItem :=
  ((report.withStatus .failed).map (Remediation.item policy)).mergeSort fun item other =>
    item.priority.rank ≤ other.priority.rank

end CloudAudit
