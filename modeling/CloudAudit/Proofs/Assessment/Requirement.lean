import CloudAudit.Assessment.Requirement

/-!
# When a requirement is met

What the status of a requirement says about the reply to its query. `KeptBy` and `MetBy` are the
meaning of the rules and of the match policy in terms of the resources; the status of a requirement
is decided by them (`status_eq_nonCompliant_iff`) and by the kind of the reply
(`status_eq_missingResources_iff`, `status_eq_queryFailed_iff`).
-/

namespace CloudAudit.Requirement

/-- Every rule of the requirement passes on the resource. -/
def KeptBy (requirement : Requirement) (resource : Json) : Prop :=
  ∀ rule ∈ requirement.rules, (rule.evaluate resource).passed = true

/-- The resources are enough for the match policy. -/
def MetBy (requirement : Requirement) (resources : List Json) : MatchPolicy → Prop
  | .any => ∃ resource ∈ resources, requirement.KeptBy resource
  | .all => ∀ resource ∈ resources, requirement.KeptBy resource

theorem compliant_iff_keptBy (requirement : Requirement) (resource : Json) :
    requirement.compliant resource = true ↔ requirement.KeptBy resource := by
  unfold compliant KeptBy
  rw [List.all_eq_true]
  exact Iff.rfl

instance (requirement : Requirement) : DecidablePred requirement.KeptBy :=
  fun resource => decidable_of_iff _ (requirement.compliant_iff_keptBy resource)

theorem compliantCount_eq (requirement : Requirement) (resources : List Json) :
    requirement.compliantCount resources =
      resources.countP fun resource => requirement.KeptBy resource := by
  refine List.countP_congr fun resource _ => ?_
  rw [compliant_iff_keptBy, decide_eq_true_eq]

/-- Counting the compliant resources decides whether the policy is content with them. -/
theorem isMet_compliantCount_iff (policy : MatchPolicy) (requirement : Requirement)
    (resources : List Json) :
    isMet policy (requirement.compliantCount resources) resources.length = true ↔
      requirement.MetBy resources policy := by
  unfold compliantCount
  cases policy with
  | any =>
    simp only [isMet, MetBy, decide_eq_true_eq, List.countP_pos_iff, compliant_iff_keptBy]
  | all =>
    simp only [isMet, MetBy, decide_eq_true_eq, List.countP_eq_length, compliant_iff_keptBy]

theorem matchedStatus_eq_nonCompliant_iff {policy : MatchPolicy} {requirement : Requirement}
    {resources : List Json} :
    requirement.matchedStatus policy resources = .nonCompliant ↔
      requirement.rules ≠ [] ∧ ¬ requirement.MetBy resources policy := by
  rw [← isMet_compliantCount_iff, ne_eq, ← List.isEmpty_iff, ← not_or, ← Bool.or_eq_true]
  unfold matchedStatus
  split
  · next h => simp [h]
  · next h => simp [h]

section Status

variable {policy : MatchPolicy} {requirement : Requirement} {reply : Reply}

theorem status_eq_missingResources_iff :
    requirement.status policy reply = .missingResources ↔
      reply = .ok [] ∧ requirement.required = true := by
  rcases reply with failure | _ | ⟨resource, rest⟩
  · simp [status]
  · cases h : requirement.required <;> simp [status, h]
  · simp only [status, matchedStatus]
    split <;> simp

theorem status_eq_queryFailed_iff :
    requirement.status policy reply = .queryFailed ↔ ∃ failure, reply = .error failure := by
  rcases reply with failure | _ | ⟨resource, rest⟩
  · simp [status]
  · cases h : requirement.required <;> simp [status, h]
  · simp only [status, matchedStatus]
    split <;> simp

theorem status_eq_nonCompliant_iff :
    requirement.status policy reply = .nonCompliant ↔
      ∃ resources, reply = .ok resources ∧ requirement.rules ≠ [] ∧ resources ≠ [] ∧
        ¬ requirement.MetBy resources policy := by
  rcases reply with failure | _ | ⟨resource, rest⟩
  · simp [status]
  · cases h : requirement.required <;> simp [status, h]
  · show requirement.matchedStatus policy (resource :: rest) = .nonCompliant ↔ _
    rw [matchedStatus_eq_nonCompliant_iff]
    constructor
    · rintro ⟨hrules, hmet⟩
      exact ⟨_, rfl, hrules, List.cons_ne_nil _ _, hmet⟩
    · rintro ⟨resources, hr, hrules, -, hmet⟩
      obtain rfl : resource :: rest = resources := Except.ok.inj hr
      exact ⟨hrules, hmet⟩

end Status

end CloudAudit.Requirement
