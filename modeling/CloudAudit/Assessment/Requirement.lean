import CloudAudit.Assessment.Basic
import CloudAudit.Control.Evaluation
import CloudAudit.Engine.Settings
import CloudAudit.Inventory.Failure

/-!
# Assessment of a requirement

The part of an assessment that one requirement adds, as a function of the reply to its query.
-/

namespace CloudAudit

/-- What one requirement adds to an assessment. -/
structure RequirementFinding where
  outcome : RequirementOutcome
  notes : List String
  ruleOutcomes : List RuleOutcome := []

namespace Requirement

/-- Whether a resource keeps every rule. -/
def compliant (requirement : Requirement) (resource : Json) : Bool :=
  requirement.rules.all fun rule => rule.holds resource

def compliantCount (requirement : Requirement) (resources : List Json) : Nat :=
  resources.countP requirement.compliant

/-- The outcomes of all rules on one resource. -/
def ruleOutcomes (requirement : Requirement) (resource : Json) : List RuleOutcome :=
  requirement.rules.map fun rule =>
    let evaluation := rule.evaluate resource
    { resourceType := requirement.resourceType
      resource := Resource.label? resource
      path := rule.path
      check := rule.check
      passed := evaluation.passed
      explanation := evaluation.explanation }

/-- Whether enough of the resources are compliant. -/
def isMet (policy : MatchPolicy) (compliant matched : Nat) : Bool :=
  match policy with
  | .any => 0 < compliant
  | .all => compliant = matched

/-- The status when there are resources. -/
def matchedStatus (policy : MatchPolicy) (requirement : Requirement) (resources : List Json) :
    RequirementStatus :=
  if requirement.rules.isEmpty
    || isMet policy (requirement.compliantCount resources) resources.length then .satisfied
  else .nonCompliant

def status (policy : MatchPolicy) (requirement : Requirement) : Reply → RequirementStatus
  | .error _ => .queryFailed
  | .ok [] => if requirement.required then .missingResources else .skipped
  | .ok resources => requirement.matchedStatus policy resources

def matchedResources : Reply → List Json
  | .error _ => []
  | .ok resources => resources

def outcome (policy : MatchPolicy) (requirement : Requirement) (reply : Reply) :
    RequirementOutcome :=
  let resources := matchedResources reply
  { resourceType := requirement.resourceType
    required := requirement.required
    matched := resources.length
    compliant := requirement.compliantCount resources
    status := requirement.status policy reply }

def notes (requirement : Requirement) (reply : Reply) : List String :=
  let t := requirement.resourceType
  match reply with
  | .error failure => [s!"{t}: query failed: {failure.message}"]
  | .ok [] =>
    if requirement.required then [s!"{t}: no matching resources found (required)"]
    else [s!"{t}: no matching resources found (optional, skipped)"]
  | .ok resources =>
    let found := s!"{t}: found {resources.length} resource(s)"
    if requirement.rules.isEmpty then [found]
    else
      let compliant := requirement.compliantCount resources
      let satisfy :=
        s!"{resources.length} resource(s) satisfy all {requirement.rules.length} rule(s)"
      [found, s!"{t}: {compliant} of {satisfy}"]

def finding (policy : MatchPolicy) (requirement : Requirement) (reply : Reply) :
    RequirementFinding :=
  { outcome := requirement.outcome policy reply
    notes := requirement.notes reply
    ruleOutcomes := (matchedResources reply).flatMap requirement.ruleOutcomes }

end Requirement

end CloudAudit
