import CloudAudit.Proofs.Assessment.Verdict
import CloudAudit.Proofs.Distinct
import CloudAudit.Proofs.Report.Bookkeeping

/-!
# Which paths a remediation names

The clause about a requirement that is not met names paths of failed rules. The outcome of a rule
knows the resource type, and not the requirement that the rule belongs to, so the clause names what
fails under any requirement of the control for the same type (`failedPaths_assess`). These are the
paths of the requirement itself, in their order, exactly when the other requirements for the type
add nothing (`eraseDups_around_eq_iff`).
-/

namespace CloudAudit

/-! ## Failed paths -/

/-- The paths of the rules that fail on some resources, resource by resource. -/
def Requirement.failures (requirement : Requirement) (resources : List Json) : List String :=
  resources.flatMap fun resource =>
    (requirement.rules.filter fun rule => !(rule.evaluate resource).passed).map Rule.path

/-- The paths of the rules that fail under the requirements for one resource type. -/
def failuresUnder (resourceType : String) (answers : List (Requirement × Response)) :
    List String :=
  (answers.filter fun answer => answer.1.resourceType = resourceType).flatMap fun answer =>
    answer.1.failures answer.2.resources

theorem failuresUnder_append (resourceType : String)
    (before after : List (Requirement × Response)) :
    failuresUnder resourceType (before ++ after) =
      failuresUnder resourceType before ++ failuresUnder resourceType after := by
  unfold failuresUnder
  rw [List.filter_append, List.flatMap_append]

theorem failuresUnder_cons_self (answer : Requirement × Response)
    (rest : List (Requirement × Response)) :
    failuresUnder answer.1.resourceType (answer :: rest) =
      answer.1.failures answer.2.resources ++ failuresUnder answer.1.resourceType rest := by
  unfold failuresUnder
  rw [List.filter_cons_of_pos (by simp), List.flatMap_cons]

/-- What fails for the type of a requirement fails under it or under one around it. -/
theorem failuresUnder_around (before : List (Requirement × Response)) (requirement : Requirement)
    (resources : List Json) (after : List (Requirement × Response)) :
    failuresUnder requirement.resourceType
        (before ++ (requirement, .answered (.ok resources)) :: after) =
      failuresUnder requirement.resourceType before ++ requirement.failures resources ++
        failuresUnder requirement.resourceType after := by
  have hself := failuresUnder_cons_self (requirement, .answered (.ok resources)) after
  rw [failuresUnder_append, hself, ← List.append_assoc]
  rfl

/-- The failed outcomes of rules on resources of one type. -/
def failedOn (resourceType : String) (outcomes : List RuleOutcome) : List RuleOutcome :=
  (outcomes.filter fun outcome => !outcome.passed).filter fun outcome =>
    outcome.resourceType == resourceType

theorem failedOn_flatMap {α : Type} (resourceType : String) (f : α → List RuleOutcome)
    (values : List α) :
    failedOn resourceType (values.flatMap f) =
      values.flatMap fun value => failedOn resourceType (f value) := by
  unfold failedOn
  rw [List.filter_flatMap, List.filter_flatMap]

/-- On one resource a requirement fails on its failing rules, all of them for its own type. -/
theorem map_path_failedOn_ruleOutcomes (resourceType : String) (requirement : Requirement)
    (resource : Json) :
    (failedOn resourceType (requirement.ruleOutcomes resource)).map RuleOutcome.path =
      if requirement.resourceType = resourceType then
        (requirement.rules.filter fun rule => !(rule.evaluate resource).passed).map Rule.path
      else [] := by
  unfold failedOn Requirement.ruleOutcomes
  rw [List.filter_map, List.filter_map, List.map_map]
  by_cases h : requirement.resourceType = resourceType
  · simp [Function.comp_def, h]
  · simp [Function.comp_def, h]

theorem map_path_failedOn_flatMap (resourceType : String) (requirement : Requirement)
    (resources : List Json) :
    (failedOn resourceType (resources.flatMap requirement.ruleOutcomes)).map RuleOutcome.path =
      if requirement.resourceType = resourceType then requirement.failures resources else [] := by
  rw [failedOn_flatMap, List.map_flatMap]
  simp only [map_path_failedOn_ruleOutcomes]
  by_cases h : requirement.resourceType = resourceType
  · simp only [if_pos h]
    rfl
  · simp [if_neg h]

/-- The failed outcomes on a type are those of all requirements for the type. -/
theorem map_path_failedOn_answers (resourceType : String)
    (answers : List (Requirement × Response)) :
    (failedOn resourceType (answers.flatMap fun answer =>
        answer.2.resources.flatMap answer.1.ruleOutcomes)).map RuleOutcome.path =
      failuresUnder resourceType answers := by
  rw [failedOn_flatMap, List.map_flatMap]
  simp only [map_path_failedOn_flatMap]
  unfold failuresUnder
  induction answers with
  | nil => rfl
  | cons answer rest ih =>
    rw [List.flatMap_cons, ih]
    by_cases h : answer.1.resourceType = resourceType <;> simp [h]

/-! ## Clauses -/

section Clauses

variable {control : Control} {answers : List (Requirement × Response)}
  (h : answers.map Prod.fst = control.requirements) (policy : MatchPolicy) (limit index : Nat)

include h

/-- A clause about a type names what fails under any requirement for the type. -/
theorem failedPaths_assess (resourceType : String) :
    Assessment.failedPaths
        (failedOn resourceType
          (control.assess policy index (answers.map (replyOf limit))).ruleOutcomes) =
      (failuresUnder resourceType answers).eraseDups := by
  unfold Assessment.failedPaths
  rw [Control.ruleOutcomes_assess h, map_path_failedOn_answers]

end Clauses

namespace Remediation

/-- The clause about a requirement that is not met, in terms of the answers. -/
theorem clause?_nonCompliant {control : Control} {answers : List (Requirement × Response)}
    (h : answers.map Prod.fst = control.requirements) (policy : MatchPolicy) (limit index : Nat)
    {outcome : RequirementOutcome} (hs : outcome.status = .nonCompliant) :
    clause? (control.assess policy index (answers.map (replyOf limit))).failedRules outcome =
      some (configureText outcome.resourceType
        (failuresUnder outcome.resourceType answers).eraseDups outcome.compliant
        outcome.matched) := by
  unfold clause?
  rw [hs]
  show some (configureText _ (Assessment.failedPaths (failedOn _ _)) _ _) = _
  rw [failedPaths_assess h]

/-- A failed result has its item in every plan of a report that it is in, and with a clause the
action is made of the clauses. -/
theorem exists_item {report : Report} {result : Assessment} (hm : result ∈ report.results)
    (hs : result.status = .failed) (hc : clauses result ≠ []) (policy : RemediationPolicy) :
    ∃ item ∈ report.plan policy,
      item.index = result.index ∧ item.action = Text.join "; " (clauses result) := by
  refine ⟨item policy result, ?_, rfl, ?_⟩
  · rw [(Report.plan_perm policy report).mem_iff]
    exact List.mem_map_of_mem (List.mem_filter.mpr ⟨hm, decide_eq_true hs⟩)
  · show action result = _
    unfold action
    rw [if_neg (by simpa using hc)]

end Remediation

theorem eq_take_append_cons_drop {α : Type} {values : List α} {position : Nat} {value : α}
    (h : values[position]? = some value) :
    values = values.take position ++ value :: values.drop (position + 1) := by
  obtain ⟨hlt, rfl⟩ := List.getElem?_eq_some_iff.mp h
  rw [List.getElem_cons_drop, List.take_append_drop]

/-- An outcome that is not met comes from an answer that lists resources. -/
theorem exists_answer_of_nonCompliant {control : Control}
    {answers : List (Requirement × Response)} (h : answers.map Prod.fst = control.requirements)
    {policy : MatchPolicy} {limit index : Nat} {result : Assessment}
    (hr : control.assess policy index (answers.map (replyOf limit)) = result) {position : Nat}
    {outcome : RequirementOutcome} (ho : result.requirementOutcomes[position]? = some outcome)
    (hs : outcome.status = .nonCompliant) :
    ∃ requirement resources,
      answers[position]? = some (requirement, .answered (.ok resources)) ∧
        outcome = requirement.outcome policy (.ok resources) := by
  subst hr
  rw [Control.requirementOutcomes_assess h, outcomesOf, List.getElem?_map,
    Option.map_eq_some_iff] at ho
  obtain ⟨⟨requirement, response⟩, ha, rfl⟩ := ho
  obtain ⟨resources, hreply, -⟩ := Requirement.status_eq_nonCompliant_iff.mp hs
  obtain rfl := Response.reply_eq_ok_iff.mp hreply
  exact ⟨requirement, resources, ha, rfl⟩

/-- The paths that the clause about a requirement names, given the requirements around it. -/
def namedPaths (before : List (Requirement × Response)) (requirement : Requirement)
    (resources : List Json) (after : List (Requirement × Response)) : List String :=
  (failuresUnder requirement.resourceType before ++ requirement.failures resources ++
    failuresUnder requirement.resourceType after).eraseDups

/-- What the plan says about a requirement that is not met: its clause names the paths that fail
under any requirement for its type. These are its own paths, each once and in the order of their
first failure, exactly when the paths of the requirements before it are the first of its own, and
those of the requirements after it are among its own. -/
structure Attribution (answers : List (Requirement × Response)) (result : Assessment)
    (before : List (Requirement × Response)) (requirement : Requirement) (resources : List Json)
    (after : List (Requirement × Response)) : Prop where
  answers_eq : answers = before ++ (requirement, .answered (.ok resources)) :: after
  clauses_eq :
    Remediation.clauses result =
      (result.requirementOutcomes.take before.length).filterMap
          (Remediation.clause? result.failedRules) ++
        Remediation.configureText requirement.resourceType
            (namedPaths before requirement resources after)
            (requirement.compliantCount resources) resources.length ::
          (result.requirementOutcomes.drop (before.length + 1)).filterMap
            (Remediation.clause? result.failedRules)
  own_iff :
    namedPaths before requirement resources after =
        (requirement.failures resources).eraseDups ↔
      (failuresUnder requirement.resourceType before).eraseDups <+:
          (requirement.failures resources).eraseDups ∧
        ∀ path ∈ failuresUnder requirement.resourceType after,
          path ∈ requirement.failures resources
  planned :
    result.status = .failed → ∀ (report : Report) (policy : RemediationPolicy),
      result ∈ report.results → ∃ item ∈ report.plan policy,
        item.index = result.index ∧
          item.action = Text.join "; " (Remediation.clauses result)

theorem attribution_assess {control : Control} {answers : List (Requirement × Response)}
    (h : answers.map Prod.fst = control.requirements) {policy : MatchPolicy} {limit index : Nat}
    {result : Assessment}
    (hr : control.assess policy index (answers.map (replyOf limit)) = result) {position : Nat}
    {outcome : RequirementOutcome} (ho : result.requirementOutcomes[position]? = some outcome)
    (hs : outcome.status = .nonCompliant) :
    ∃ before requirement resources after,
      before.length = position ∧
        Attribution answers result before requirement resources after := by
  obtain ⟨requirement, resources, ha, rfl⟩ := exists_answer_of_nonCompliant h hr ho hs
  have hanswers := eq_take_append_cons_drop ha
  have hlength : (answers.take position).length = position :=
    List.length_take_of_le (Nat.le_of_lt (List.getElem?_eq_some_iff.mp ha).1)
  have hclause : Remediation.clause? result.failedRules
      (requirement.outcome policy (.ok resources)) =
        some (Remediation.configureText requirement.resourceType
          (namedPaths (answers.take position) requirement resources
            (answers.drop (position + 1)))
          (requirement.compliantCount resources) resources.length) := by
    unfold namedPaths
    rw [← failuresUnder_around, ← hanswers, ← hr]
    exact Remediation.clause?_nonCompliant h policy limit index hs
  refine ⟨_, requirement, resources, _, hlength, ⟨hanswers, ?_, eraseDups_around_eq_iff, ?_⟩⟩
  · rw [hlength]
    unfold Remediation.clauses
    conv_lhs => rw [eq_take_append_cons_drop ho]
    rw [List.filterMap_append, List.filterMap_cons_some hclause]
  · intro hfailed report remediation hm
    refine Remediation.exists_item hm hfailed ?_ remediation
    exact List.ne_nil_of_mem (List.mem_filterMap.mpr ⟨_, List.mem_of_getElem? ho, hclause⟩)

/-- **Attribution.** Whatever the inventory does, every requirement of a control that is not met
has its clause in the plan, with the paths that fail for its type. -/
theorem clause_attribution {σ : Type} (respond : String → StateM σ Response)
    (settings : EngineSettings) (index : Nat) (control : Control) (start : σ)
    {result : Assessment}
    (hr : ((control.validate (limited settings.timeoutSeconds respond) settings.matchPolicy
      index).run start).1 = result)
    {position : Nat} {outcome : RequirementOutcome}
    (ho : result.requirementOutcomes[position]? = some outcome)
    (hs : outcome.status = .nonCompliant) :
    ∃ before requirement resources after,
      before.length = position ∧
        Attribution (control.answers respond start) result before requirement resources
          after := by
  cases hmanual : control.manual with
  | true =>
    -- nothing is asked for a manual control, so there is no outcome
    rw [Control.validate_of_manual hmanual] at hr
    obtain rfl : control.manualAssessment index = result := hr
    exact absurd ho (by simp [Control.manualAssessment])
  | false =>
    rw [Control.validate_run_fst respond hmanual] at hr
    exact attribution_assess (control.map_fst_answers respond start) hr ho hs

/-! ## A type required twice -/

namespace SharedType

def softDelete : Requirement :=
  { resourceType := "vault", rules := [⟨"softDelete", .equals, .bool true⟩] }

def purgeProtection : Requirement :=
  { resourceType := "vault", required := true
    rules := [⟨"purgeProtection", .equals, .bool true⟩] }

def control : Control :=
  { regulation := "DORA", requirement := "Vaults", requirements := [softDelete, purgeProtection] }

def vaults : List Json :=
  [.object [("name", .string "a"), ("purgeProtection", .bool false), ("softDelete", .bool true)],
    .object [("name", .string "b"), ("purgeProtection", .bool false), ("softDelete", .bool false)]]

def respond (_ : String) : StateM Unit Response := pure (.answered (.ok vaults))

def result : Assessment := control.assess .any 0 [.ok vaults, .ok vaults]

/-- The second requirement for vaults is not met. -/
theorem attribution_purgeProtection :
    ((control.validate (limited 30 respond) .any 0).run ()).1 = result ∧
      result.requirementOutcomes[1]? = some ⟨"vault", true, 2, 0, .nonCompliant⟩ ∧
      ∃ before requirement resources after,
        before.length = 1 ∧
          Attribution (control.answers respond ()) result before requirement resources after :=
  ⟨rfl, rfl, @clause_attribution Unit respond {} 0 control () result rfl 1
    ⟨"vault", true, 2, 0, .nonCompliant⟩ rfl rfl⟩

/-- The first requirement for vaults is met, and the clause of the second names its path. -/
theorem clause_names_foreign_path :
    ((control.validate (limited 30 respond) .any 0).run ()).1 = result ∧
      result.requirementOutcomes.map RequirementOutcome.status = [.satisfied, .nonCompliant] ∧
      ((Report.ofResults default none .any [result]).plan {}).map RemediationItem.action =
        ["Configure vault: softDelete, purgeProtection (0 of 2 resource(s) compliant)"] ∧
      (purgeProtection.failures vaults).eraseDups = ["purgeProtection"] ∧
      Remediation.configureText "vault" (purgeProtection.failures vaults).eraseDups 0 2 ∉
        Remediation.clauses result := by
  refine ⟨rfl, ?_, ?_, ?_, ?_⟩ <;> decide +kernel

end SharedType

end CloudAudit
