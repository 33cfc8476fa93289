import CloudAudit.Proofs.Assessment.Answers
import CloudAudit.Proofs.Assessment.Requirement

/-!
# The verdict on a control

`Verdict` says which status a control deserves, in terms of what the inventory does when it is
asked for the types of the requirements in order; the assessment of the control gives exactly that
status.
-/

namespace CloudAudit

/-! ## The verdict -/

/-- Nothing is there of a type that has to be there. -/
def Missing (answers : List (Requirement × Response)) : Prop :=
  ∃ requirement : Requirement,
    (requirement, .answered (.ok [])) ∈ answers ∧ requirement.required = true

/-- A query failed, or there was no answer in time. -/
def Unanswered (answers : List (Requirement × Response)) : Prop :=
  ∃ answer ∈ answers, answer.2 = .late ∨ ∃ failure, answer.2 = .answered (.error failure)

/-- A requirement with rules has resources, and they are not enough for the match policy. -/
def Unmet (policy : MatchPolicy) (answers : List (Requirement × Response)) : Prop :=
  ∃ (requirement : Requirement) (resources : List Json),
    (requirement, .answered (.ok resources)) ∈ answers ∧
      requirement.rules ≠ [] ∧ resources ≠ [] ∧ ¬ requirement.MetBy resources policy

/-- The status that a control deserves for the answers. A missing type weighs more than a query
without an answer, and that weighs more than a requirement that is not met. -/
inductive Verdict (policy : MatchPolicy) (control : Control)
    (answers : List (Requirement × Response)) : Status → Prop where
  | manual (h : control.manual = true) : Verdict policy control answers .manual
  | missing (h : control.manual = false) (hm : Missing answers) :
      Verdict policy control answers .failed
  | unanswered (h : control.manual = false) (hm : ¬ Missing answers) (hu : Unanswered answers) :
      Verdict policy control answers .error
  | unmet (h : control.manual = false) (hm : ¬ Missing answers) (hu : ¬ Unanswered answers)
      (hn : Unmet policy answers) : Verdict policy control answers .failed
  | passed (h : control.manual = false) (hm : ¬ Missing answers) (hu : ¬ Unanswered answers)
      (hn : ¬ Unmet policy answers) : Verdict policy control answers .passed

/-- A control deserves one status. -/
theorem Verdict.unique {policy : MatchPolicy} {control : Control}
    {answers : List (Requirement × Response)} {s t : Status}
    (hs : Verdict policy control answers s) (ht : Verdict policy control answers t) : s = t := by
  cases hs <;> cases ht <;> simp_all

section Status

variable (policy : MatchPolicy) (limit : Nat) (answers : List (Requirement × Response))

theorem any_outcomesOf_iff (status : RequirementStatus) :
    ((outcomesOf policy limit answers).any fun outcome => outcome.status = status) = true ↔
      ∃ answer ∈ answers, answer.1.status policy (replyOf limit answer) = status := by
  simp [outcomesOf, List.any_map, List.any_eq_true, Requirement.outcome]

theorem any_missingResources_iff :
    ((outcomesOf policy limit answers).any fun outcome => outcome.status = .missingResources) =
      true ↔ Missing answers := by
  rw [any_outcomesOf_iff]
  simp only [Requirement.status_eq_missingResources_iff, replyOf, Response.reply_eq_ok_iff]
  constructor
  · rintro ⟨⟨requirement, response⟩, ha, rfl, hr⟩
    exact ⟨requirement, ha, hr⟩
  · rintro ⟨requirement, ha, hr⟩
    exact ⟨_, ha, rfl, hr⟩

theorem any_queryFailed_iff :
    ((outcomesOf policy limit answers).any fun outcome => outcome.status = .queryFailed) = true ↔
      Unanswered answers := by
  rw [any_outcomesOf_iff]
  simp only [Requirement.status_eq_queryFailed_iff, replyOf, Response.reply_eq_error_iff]
  exact Iff.rfl

theorem any_nonCompliant_iff :
    ((outcomesOf policy limit answers).any fun outcome => outcome.status = .nonCompliant) = true ↔
      Unmet policy answers := by
  rw [any_outcomesOf_iff]
  simp only [Requirement.status_eq_nonCompliant_iff, replyOf, Response.reply_eq_ok_iff]
  constructor
  · rintro ⟨⟨requirement, response⟩, ha, resources, rfl, h⟩
    exact ⟨requirement, resources, ha, h⟩
  · rintro ⟨requirement, resources, ha, h⟩
    exact ⟨_, ha, resources, rfl, h⟩

/-- The status of the outcomes is the one that a control deserves that is not manual. -/
theorem verdict_ofOutcomes {control : Control} (h : control.manual = false) :
    Verdict policy control answers (Status.ofOutcomes (outcomesOf policy limit answers)) := by
  unfold Status.ofOutcomes
  by_cases hm : Missing answers
  · rw [if_pos ((any_missingResources_iff policy limit answers).mpr hm)]
    exact .missing h hm
  rw [if_neg (mt (any_missingResources_iff policy limit answers).mp hm)]
  by_cases hu : Unanswered answers
  · rw [if_pos ((any_queryFailed_iff policy limit answers).mpr hu)]
    exact .unanswered h hm hu
  rw [if_neg (mt (any_queryFailed_iff policy limit answers).mp hu)]
  by_cases hn : Unmet policy answers
  · rw [if_pos ((any_nonCompliant_iff policy limit answers).mpr hn)]
    exact .unmet h hm hu hn
  · rw [if_neg (mt (any_nonCompliant_iff policy limit answers).mp hn)]
    exact .passed h hm hu hn

end Status

theorem Control.status_assess (policy : MatchPolicy) (index : Nat) (control : Control)
    (replies : List Reply) :
    (control.assess policy index replies).status =
      Status.ofOutcomes (control.assess policy index replies).requirementOutcomes := rfl

/-- **The verdict law.** Whatever the inventory does, a control gets the status that it deserves
for the answers, and no other. -/
theorem status_validate_eq_iff {σ : Type} (respond : String → StateM σ Response)
    (settings : EngineSettings) (index : Nat) (control : Control) (start : σ) (status : Status) :
    ((control.validate (limited settings.timeoutSeconds respond) settings.matchPolicy
        index).run start).1.status = status ↔
      Verdict settings.matchPolicy control (control.answers respond start) status := by
  have hv : Verdict settings.matchPolicy control (control.answers respond start)
      ((control.validate (limited settings.timeoutSeconds respond) settings.matchPolicy
        index).run start).1.status := by
    cases h : control.manual with
    | true =>
      rw [Control.validate_of_manual h]
      exact .manual h
    | false =>
      have ho := Control.requirementOutcomes_assess (control.map_fst_answers respond start)
        settings.matchPolicy settings.timeoutSeconds index
      rw [Control.validate_run_fst respond h, Control.status_assess, ho]
      exact verdict_ofOutcomes _ _ _ h
  constructor
  · rintro rfl
    exact hv
  · exact hv.unique

end CloudAudit
