import CloudAudit.Assessment.Requirement

/-!
# Assessment of a control

A control is assessed from the replies to the queries of its requirements, one query for each, in
order. A required type without resources fails the control; else a failed query makes it an error;
else a requirement that is not met fails it. A manual control asks nothing.
-/

namespace CloudAudit

def Status.ofOutcomes (outcomes : List RequirementOutcome) : Status :=
  let some? (status : RequirementStatus) := outcomes.any fun outcome => outcome.status = status
  if some? .missingResources then .failed
  else if some? .queryFailed then .error
  else if some? .nonCompliant then .failed
  else .passed

namespace Control

def manualAssessment (index : Nat) (control : Control) : Assessment :=
  { index
    control
    status := .manual
    notes :=
      "Manual verification required" :: (control.notes.map fun text => s!"Note: {text}").toList }

/-- The assessment of a control whose evaluation came to no end. -/
def abortedAssessment (index : Nat) (control : Control) : Assessment :=
  { index, control, status := .error, notes := ["Evaluation aborted before completion"] }

def findings (policy : MatchPolicy) (control : Control) (replies : List Reply) :
    List RequirementFinding :=
  List.zipWith (fun requirement reply => requirement.finding policy reply)
    control.requirements replies

/-- The assessment from one reply for each requirement. -/
def assess (policy : MatchPolicy) (index : Nat) (control : Control) (replies : List Reply) :
    Assessment :=
  let findings := control.findings policy replies
  let outcomes := findings.map RequirementFinding.outcome
  let unused := if control.requirements.isEmpty then ["No resource validations defined"] else []
  { index
    control
    status := Status.ofOutcomes outcomes
    matched := outcomes.foldl (fun count outcome => count + outcome.matched) 0
    ruleOutcomes := findings.flatMap RequirementFinding.ruleOutcomes
    requirementOutcomes := outcomes
    notes := unused ++ findings.flatMap RequirementFinding.notes }

/-- Asks for the type of every requirement in order, and assesses the control. -/
def validate {m : Type → Type} [Monad m] (query : String → m Reply) (policy : MatchPolicy)
    (index : Nat) (control : Control) : m Assessment :=
  if control.manual then pure (control.manualAssessment index)
  else do
    let replies ← control.requirements.mapM fun requirement => query requirement.resourceType
    return control.assess policy index replies

end Control

end CloudAudit
