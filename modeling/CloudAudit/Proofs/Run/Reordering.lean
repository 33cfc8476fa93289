import CloudAudit.Proofs.Report.Headings
import CloudAudit.Proofs.Run.Fixed

/-!
# The order of resources

An inventory may list the resources of a type in any order. The outcomes of the rules come in the
order of the resources, and that is all: every count, status and note, the books of the report and
the headings of the plan are the same (`FixedRun.order_irrelevant`).
-/

namespace CloudAudit

/-- Two replies that list the same resources, each as often, or fail in the same way. -/
inductive Reply.Reordered : Reply → Reply → Prop where
  | listed {resources others : List Json} (h : resources.Perm others) :
    Reordered (.ok resources) (.ok others)
  | failed (failure : QueryFailure) : Reordered (.error failure) (.error failure)

/-! ## Requirements -/

namespace Requirement

variable (requirement : Requirement)

theorem compliantCount_perm {resources others : List Json} (h : resources.Perm others) :
    requirement.compliantCount resources = requirement.compliantCount others :=
  h.countP_eq _

theorem matchedStatus_perm (policy : MatchPolicy) {resources others : List Json}
    (h : resources.Perm others) :
    requirement.matchedStatus policy resources = requirement.matchedStatus policy others := by
  unfold matchedStatus
  rw [requirement.compliantCount_perm h, h.length_eq]

variable {first second : Reply}

theorem matchedResources_reordered (h : first.Reordered second) :
    (matchedResources first).Perm (matchedResources second) := by
  cases h with
  | listed h => exact h
  | failed failure => exact List.Perm.refl _

theorem status_reordered (policy : MatchPolicy) (h : first.Reordered second) :
    requirement.status policy first = requirement.status policy second := by
  cases h with
  | failed failure => rfl
  | @listed resources others h =>
    cases resources with
    | nil => rw [List.nil_perm.mp h]
    | cons resource rest =>
      cases others with
      | nil => exact absurd h.length_eq (Nat.succ_ne_zero _)
      | cons other more => exact requirement.matchedStatus_perm policy h

theorem outcome_reordered (policy : MatchPolicy) (h : first.Reordered second) :
    requirement.outcome policy first = requirement.outcome policy second := by
  have hresources := matchedResources_reordered h
  unfold outcome
  dsimp only
  rw [requirement.compliantCount_perm hresources, hresources.length_eq,
    requirement.status_reordered policy h]

theorem notes_reordered (h : first.Reordered second) :
    requirement.notes first = requirement.notes second := by
  cases h with
  | failed failure => rfl
  | @listed resources others h =>
    cases resources with
    | nil => rw [List.nil_perm.mp h]
    | cons resource rest =>
      cases others with
      | nil => exact absurd h.length_eq (Nat.succ_ne_zero _)
      | cons other more =>
        unfold notes
        simp only [h.length_eq, requirement.compliantCount_perm h]

end Requirement

/-! ## Controls -/

/-- Two assessments of a control that differ in the order of their rule outcomes at most. -/
structure Assessment.Reordered (first second : Assessment) : Prop where
  index_eq : first.index = second.index
  control_eq : first.control = second.control
  status_eq : first.status = second.status
  matched_eq : first.matched = second.matched
  requirementOutcomes_eq : first.requirementOutcomes = second.requirementOutcomes
  notes_eq : first.notes = second.notes
  ruleOutcomes_perm : first.ruleOutcomes.Perm second.ruleOutcomes

namespace Assessment.Reordered

variable {first second : Assessment}

protected theorem refl (result : Assessment) : Reordered result result :=
  ⟨rfl, rfl, rfl, rfl, rfl, rfl, List.Perm.refl _⟩

theorem failsAlong (h : Reordered first second) : Report.FailsAlong first second :=
  ⟨h.index_eq, h.control_eq, fun hfailed => h.status_eq ▸ hfailed⟩

theorem failsAlong_symm (h : Reordered first second) : Report.FailsAlong second first :=
  ⟨h.index_eq.symm, h.control_eq.symm, fun hfailed => h.status_eq ▸ hfailed⟩

end Assessment.Reordered

/-- Replies in another order give the same findings, up to the order of the rule outcomes. -/
theorem Control.validate_reordered {answer other : String → Reply}
    (h : ∀ resourceType, (answer resourceType).Reordered (other resourceType))
    (policy : MatchPolicy) (index : Nat) (control : Control) :
    (Id.run (control.validate answer policy index)).Reordered
      (Id.run (control.validate other policy index)) := by
  rw [validate_id, validate_id]
  by_cases hm : control.manual = true
  · rw [if_pos hm, if_pos hm]
    exact .refl _
  rw [if_neg hm, if_neg hm]
  unfold assess
  rw [findings_map, findings_map]
  simp only [List.map_map, List.flatMap_map]
  have houtcomes : (control.requirements.map fun requirement =>
        requirement.outcome policy (answer requirement.resourceType)) =
      control.requirements.map fun requirement =>
        requirement.outcome policy (other requirement.resourceType) :=
    List.map_congr_left fun requirement _ => requirement.outcome_reordered policy (h _)
  have hnotes : (control.requirements.flatMap fun requirement =>
        requirement.notes (answer requirement.resourceType)) =
      control.requirements.flatMap fun requirement =>
        requirement.notes (other requirement.resourceType) :=
    List.flatMap_congr fun requirement _ => requirement.notes_reordered (h _)
  exact
    { index_eq := rfl
      control_eq := rfl
      status_eq := congrArg Status.ofOutcomes houtcomes
      matched_eq := congrArg
        (List.foldl (fun count (outcome : RequirementOutcome) => count + outcome.matched) 0)
        houtcomes
      requirementOutcomes_eq := houtcomes
      notes_eq := congrArg (List.append _) hnotes
      ruleOutcomes_perm := List.Perm.flatMap_left _ fun requirement _ =>
        (Requirement.matchedResources_reordered (h _)).flatMap_right _ }

/-! ## Runs -/

/-- Two reports that say the same, control by control, up to the order of the evidence. -/
structure Report.Reordered (first second : Report) : Prop where
  results : List.Forall₂ Assessment.Reordered first.results second.results
  totals_eq : first.totals = second.totals
  overallRate_eq : first.overallRate = second.overallRate
  overallAssessedRate_eq : first.overallAssessedRate = second.overallAssessedRate
  byRegulation_eq : first.byRegulation = second.byRegulation
  plan_eq : ∀ policy,
    (first.plan policy).map RemediationItem.heading =
      (second.plan policy).map RemediationItem.heading

theorem Report.reordered_ofResults {results others : List Assessment}
    (h : List.Forall₂ Assessment.Reordered results others) (firstAt secondAt : Timestamp)
    (firstSource secondSource : Option ChecklistMeta) (matchPolicy other : MatchPolicy) :
    (Report.ofResults firstAt firstSource matchPolicy results).Reordered
      (Report.ofResults secondAt secondSource other others) := by
  have hbooks : summarize results = summarize others := summarize_eq <|
    h.imp fun result other hro => ⟨congrArg Control.regulation hro.control_eq, hro.status_eq⟩
  exact
    { results := h
      totals_eq := congrArg Prod.fst hbooks
      overallRate_eq := congrArg (fun books => books.1.rate) hbooks
      overallAssessedRate_eq := congrArg (fun books => books.1.assessedRate) hbooks
      byRegulation_eq := congrArg Prod.snd hbooks
      plan_eq := fun policy => List.Sublist.antisymm
        (plan_sublist (h.imp fun _ _ hro => hro.failsAlong) policy)
        (plan_sublist (List.Forall₂.flip (h.imp fun _ _ hro => hro.failsAlong_symm)) policy) }

/-- **The order of resources does not matter.** Two runs over a checklist, in which each type is
answered by the same resources in some order or by the same failure, come to the same report up to
the order of the rule outcomes. -/
theorem FixedRun.order_irrelevant (first second : FixedRun)
    (hcontrols : first.controls = second.controls)
    (hpolicy : first.settings.matchPolicy = second.settings.matchPolicy)
    (hdead : ∀ index, index ∈ first.dead ↔ index ∈ second.dead)
    (hreply : ∀ resourceType, (first.reply resourceType).Reordered (second.reply resourceType))
    (firstAt secondAt : Timestamp) (firstSource secondSource : Option ChecklistMeta) :
    (first.report firstAt firstSource).Reordered (second.report secondAt secondSource) := by
  refine Report.reordered_ofResults (forall₂_results hcontrols hdead ?_ ?_) _ _ _ _ _ _
  · exact fun control index => .refl _
  · intro control index
    rw [← hpolicy]
    exact Control.validate_reordered hreply _ _ _

/-! ## Two vaults in two orders -/

namespace TwoOrders

def checklist : List Control :=
  [{ regulation := "DORA", requirement := "Vaults"
     requirements := [
       { resourceType := "vault", required := true
         rules := [⟨"softDelete", .equals, .bool true⟩] }] },
    { regulation := "GDPR", requirement := "Servers"
      requirements := [{ resourceType := "server" }] }]

def soft : Json := .object [("name", .string "a"), ("softDelete", .bool true)]

def hard : Json := .object [("name", .string "b"), ("softDelete", .bool false)]

def store (resources : List Json) : Store :=
  { resources := [("vault", resources)], failures := [("server", .auth "token expired")] }

/-- Every vault has to keep the rules, and one does not. -/
def run (concurrency : Nat) (resources : List Json) : FixedRun :=
  .ofStore (store resources) { concurrency, matchPolicy := .all } checklist

theorem answer_reordered (resourceType : String) :
    Reply.Reordered ((store [soft, hard]).answer resourceType)
      ((store [hard, soft]).answer resourceType) := by
  unfold Store.answer store
  dsimp only
  split
  · exact .failed _
  · refine .listed ?_
    unfold Store.held
    by_cases h : "vault" = resourceType
    · subst h
      exact List.Perm.swap hard soft []
    · simp [h]

theorem reordered_vaults :
    (∀ resourceType, Reply.Reordered ((run 1 [soft, hard]).reply resourceType)
        ((run 4 [hard, soft]).reply resourceType)) ∧
      ((run 1 [soft, hard]).report default none).Reordered
        ((run 4 [hard, soft]).report default none) :=
  ⟨answer_reordered, FixedRun.order_irrelevant (run 1 [soft, hard]) (run 4 [hard, soft]) rfl rfl
    (fun _ => Iff.rfl) answer_reordered default default none none⟩

end TwoOrders

end CloudAudit
