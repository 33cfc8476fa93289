import CloudAudit.Control.Basic

/-!
# Assessments

What an assessment of a control records: its status, the outcome of every requirement, the outcome
of every rule on every resource, and notes of evidence.
-/

namespace CloudAudit

inductive Status where
  | passed
  | failed
  | manual
  /-- The inventory could not be asked, so the control was not assessed. -/
  | error
  deriving DecidableEq, Repr, Inhabited

namespace Status

def name : Status → String
  | passed => "passed"
  | failed => "failed"
  | manual => "manual"
  | error => "error"

def label : Status → String
  | passed => "PASSED"
  | failed => "FAILED"
  | manual => "MANUAL"
  | error => "ERROR"

end Status

/-- The outcome of one rule on one resource. -/
structure RuleOutcome where
  resourceType : String
  resource : Option String
  path : String
  check : Check
  passed : Bool
  explanation : String
  deriving DecidableEq, Repr

inductive RequirementStatus where
  | satisfied
  /-- A required type without any resource. -/
  | missingResources
  /-- There are resources, but too few of them keep the rules. -/
  | nonCompliant
  /-- An optional type without any resource. -/
  | skipped
  | queryFailed
  deriving DecidableEq, Repr, Inhabited

namespace RequirementStatus

def name : RequirementStatus → String
  | satisfied => "satisfied"
  | missingResources => "missingResources"
  | nonCompliant => "nonCompliant"
  | skipped => "skipped"
  | queryFailed => "queryFailed"

end RequirementStatus

structure RequirementOutcome where
  resourceType : String
  required : Bool
  matched : Nat
  compliant : Nat
  status : RequirementStatus
  deriving DecidableEq, Repr

def RequirementOutcome.isFailure (outcome : RequirementOutcome) : Bool :=
  outcome.status = .missingResources || outcome.status = .nonCompliant

structure Assessment where
  /-- The position in the checklist. -/
  index : Nat
  control : Control
  status : Status
  matched : Nat := 0
  ruleOutcomes : List RuleOutcome := []
  requirementOutcomes : List RequirementOutcome := []
  notes : List String := []
  deriving Inhabited

namespace Assessment

def failedRules (assessment : Assessment) : List RuleOutcome :=
  assessment.ruleOutcomes.filter fun outcome => !outcome.passed

/-- The paths of failed rules, each once, in the order of the first failure. -/
def failedPaths (outcomes : List RuleOutcome) : List String :=
  (outcomes.map RuleOutcome.path).eraseDups

end Assessment

end CloudAudit
