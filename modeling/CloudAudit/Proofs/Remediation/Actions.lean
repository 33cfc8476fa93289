import CloudAudit.Proofs.Remediation.Attribution

/-!
# What failed controls ask for

A control fails when a requirement does, and every requirement that fails has its clause in the
action of the control: a type to deploy, or paths to configure, of which there is at least one since
some resource breaks some rule. So the generic text is never used for what comes out of an
assessment (`Control.asks_for_failures`).
-/

namespace CloudAudit

/-! ## Failing requirements -/

/-- A control that fails has a requirement that does. -/
theorem Status.exists_failure_of_ofOutcomes {outcomes : List RequirementOutcome}
    (h : Status.ofOutcomes outcomes = .failed) :
    ∃ outcome ∈ outcomes, outcome.isFailure = true := by
  unfold Status.ofOutcomes at h
  dsimp only at h
  split at h
  · next hmissing =>
    obtain ⟨outcome, ho, hs⟩ := List.any_eq_true.mp hmissing
    exact ⟨outcome, ho, by simp [RequirementOutcome.isFailure, of_decide_eq_true hs]⟩
  split at h
  · exact nomatch h
  split at h
  · next hunmet =>
    obtain ⟨outcome, ho, hs⟩ := List.any_eq_true.mp hunmet
    exact ⟨outcome, ho, by simp [RequirementOutcome.isFailure, of_decide_eq_true hs]⟩
  · exact nomatch h

namespace Requirement

variable {policy : MatchPolicy} {requirement : Requirement} {resources : List Json}

theorem mem_failures_iff {path : String} :
    path ∈ requirement.failures resources ↔
      ∃ resource ∈ resources, ∃ rule ∈ requirement.rules,
        (rule.evaluate resource).passed = false ∧ rule.path = path := by
  simp only [failures, List.mem_flatMap, List.mem_map, List.mem_filter, Bool.not_eq_true',
    and_assoc]

/-- Resources that are not enough break a rule. -/
theorem exists_not_keptBy (hne : resources ≠ []) (h : ¬ requirement.MetBy resources policy) :
    ∃ resource ∈ resources, ¬ requirement.KeptBy resource := by
  cases policy with
  | any =>
    obtain ⟨resource, hr⟩ := List.exists_mem_of_ne_nil resources hne
    exact ⟨resource, hr, fun hk => h ⟨resource, hr, hk⟩⟩
  | all =>
    simp only [MetBy, not_forall] at h
    obtain ⟨resource, hr, hk⟩ := h
    exact ⟨resource, hr, hk⟩

theorem failures_ne_nil (hne : resources ≠ []) (h : ¬ requirement.MetBy resources policy) :
    requirement.failures resources ≠ [] := by
  obtain ⟨resource, hresource, hk⟩ := exists_not_keptBy hne h
  simp only [KeptBy, not_forall, Bool.not_eq_true] at hk
  obtain ⟨rule, hrule, hfailed⟩ := hk
  exact List.ne_nil_of_mem (mem_failures_iff.mpr ⟨resource, hresource, rule, hrule, hfailed, rfl⟩)

theorem compliantCount_lt (hne : resources ≠ []) (h : ¬ requirement.MetBy resources policy) :
    requirement.compliantCount resources < resources.length := by
  obtain ⟨resource, hresource, hk⟩ := exists_not_keptBy hne h
  have hle : requirement.compliantCount resources ≤ resources.length := List.countP_le_length
  refine Nat.lt_of_le_of_ne hle fun he => ?_
  rw [compliantCount_eq, List.countP_eq_length] at he
  exact hk (of_decide_eq_true (he resource hresource))

theorem compliantCount_eq_zero (h : ¬ requirement.MetBy resources .any) :
    requirement.compliantCount resources = 0 := by
  rw [compliantCount_eq, List.countP_eq_zero]
  intro resource hresource hk
  exact h ⟨resource, hresource, of_decide_eq_true hk⟩

end Requirement

/-- What fails under a requirement that is not met fails for its type. -/
theorem failuresUnder_ne_nil {answers : List (Requirement × Response)} {policy : MatchPolicy}
    {requirement : Requirement} {resources : List Json}
    (ha : (requirement, .answered (.ok resources)) ∈ answers) (hne : resources ≠ [])
    (h : ¬ requirement.MetBy resources policy) :
    failuresUnder requirement.resourceType answers ≠ [] := by
  obtain ⟨path, hpath⟩ := List.exists_mem_of_ne_nil _ (Requirement.failures_ne_nil hne h)
  unfold failuresUnder
  refine List.ne_nil_of_mem (List.mem_flatMap.mpr ⟨_, List.mem_filter.mpr ⟨ha, ?_⟩, hpath⟩)
  exact decide_eq_true rfl

/-! ## Clauses -/

namespace Remediation

/-- What is said about a requirement that failed. -/
inductive ClauseFor (policy : MatchPolicy) (result : Assessment) (outcome : RequirementOutcome) :
    String → Prop where
  | deploy (hstatus : outcome.status = .missingResources) (hrequired : outcome.required = true)
      (hmatched : outcome.matched = 0) :
      ClauseFor policy result outcome (deployText outcome.resourceType)
  /-- The paths are those of rules that fail on resources of the type. -/
  | configure (hstatus : outcome.status = .nonCompliant) {paths : List String}
      (hpaths : paths ≠ [])
      (hfailed : ∀ path ∈ paths, ∃ rule ∈ result.ruleOutcomes, rule.passed = false ∧
        rule.resourceType = outcome.resourceType ∧ rule.path = path)
      (hlt : outcome.compliant < outcome.matched)
      (hany : policy = .any → outcome.compliant = 0) :
      ClauseFor policy result outcome
        (configureText outcome.resourceType paths outcome.compliant outcome.matched)

theorem exists_of_mem_failedPaths {result : Assessment} {resourceType path : String}
    (h : path ∈ Assessment.failedPaths (failedOn resourceType result.ruleOutcomes)) :
    ∃ rule ∈ result.ruleOutcomes, rule.passed = false ∧
      rule.resourceType = resourceType ∧ rule.path = path := by
  unfold Assessment.failedPaths failedOn at h
  rw [List.mem_eraseDups, List.mem_map] at h
  obtain ⟨rule, hrule, hpath⟩ := h
  simp only [List.mem_filter, Bool.not_eq_true', beq_iff_eq] at hrule
  exact ⟨rule, hrule.1.1, hrule.1.2, hrule.2, hpath⟩

section Clauses

variable {control : Control} {answers : List (Requirement × Response)}
  (h : answers.map Prod.fst = control.requirements) {policy : MatchPolicy} {limit index : Nat}
  {result : Assessment} (hr : control.assess policy index (answers.map (replyOf limit)) = result)

include h hr

/-- Every requirement that fails has a clause. -/
theorem exists_clause {outcome : RequirementOutcome} (ho : outcome ∈ result.requirementOutcomes)
    (hfails : outcome.isFailure = true) :
    ∃ clause, clause? result.failedRules outcome = some clause ∧
      ClauseFor policy result outcome clause := by
  subst hr
  have houtcomes := Control.requirementOutcomes_assess h policy limit index
  have hmem := ho
  rw [houtcomes, outcomesOf, List.mem_map] at hmem
  obtain ⟨⟨requirement, response⟩, ha, rfl⟩ := hmem
  simp only [RequirementOutcome.isFailure, Bool.or_eq_true, decide_eq_true_eq] at hfails
  rcases hfails with hmissing | hunmet
  · obtain ⟨hreply, hrequired⟩ := Requirement.status_eq_missingResources_iff.mp hmissing
    refine ⟨deployText requirement.resourceType, ?_, .deploy hmissing hrequired ?_⟩
    · unfold clause?
      rw [hmissing]
      rfl
    · show (Requirement.matchedResources _).length = 0
      rw [hreply]
      rfl
  · obtain ⟨resources, hreply, -, hne, hmet⟩ := Requirement.status_eq_nonCompliant_iff.mp hunmet
    obtain rfl := Response.reply_eq_ok_iff.mp hreply
    refine ⟨_, clause?_nonCompliant h policy limit index hunmet, .configure hunmet ?_ ?_ ?_ ?_⟩
    · obtain ⟨path, hpath⟩ := List.exists_mem_of_ne_nil _ (failuresUnder_ne_nil ha hne hmet)
      exact List.ne_nil_of_mem (List.mem_eraseDups.mpr hpath)
    · intro path hpath
      rw [← failedPaths_assess h policy limit index] at hpath
      exact exists_of_mem_failedPaths hpath
    · exact Requirement.compliantCount_lt hne hmet
    · rintro rfl
      exact Requirement.compliantCount_eq_zero hmet

end Clauses

/-- A requirement that does not fail has no clause. -/
theorem clause?_of_not_isFailure {outcome : RequirementOutcome} (failed : List RuleOutcome)
    (h : outcome.isFailure = false) : clause? failed outcome = none := by
  unfold clause?
  unfold RequirementOutcome.isFailure at h
  cases hs : outcome.status <;> simp [hs] at h ⊢

/-- There is a clause for each requirement that fails, in order, and no other. -/
theorem forall₂_clauses {result : Assessment} {R : RequirementOutcome → String → Prop}
    {outcomes : List RequirementOutcome}
    (h : ∀ outcome ∈ outcomes, outcome.isFailure = true →
      ∃ clause, clause? result.failedRules outcome = some clause ∧ R outcome clause) :
    List.Forall₂ R (outcomes.filter RequirementOutcome.isFailure)
      (outcomes.filterMap (clause? result.failedRules)) := by
  induction outcomes with
  | nil => exact .nil
  | cons outcome rest ih =>
    rw [List.forall_mem_cons] at h
    obtain ⟨hfirst, hrest⟩ := h
    cases hfails : outcome.isFailure with
    | true =>
      obtain ⟨clause, hclause, hR⟩ := hfirst hfails
      rw [List.filter_cons_of_pos hfails, List.filterMap_cons_some hclause]
      exact .cons hR (ih hrest)
    | false =>
      rw [List.filter_cons_of_neg (by simp [hfails]),
        List.filterMap_cons_none (clause?_of_not_isFailure _ hfails)]
      exact ih hrest

/-! ## Actions -/

theorem head?_deployText (resourceType : String) :
    (deployText resourceType).toList.head? = some 'D' := by
  have hparts : deployText resourceType =
      "Deploy " ++ resourceType ++ " (no matching resources found)" := rfl
  have hverb : "Deploy ".toList.head? = some 'D' := rfl
  rw [hparts, String.toList_append, String.toList_append, List.head?_append, List.head?_append,
    hverb, Option.some_or, Option.some_or]

theorem head?_configureText (resourceType : String) (paths : List String)
    (compliant matched : Nat) :
    (configureText resourceType paths compliant matched).toList.head? = some 'C' := by
  have hparts : configureText resourceType paths compliant matched =
      "Configure " ++ resourceType ++ ": " ++ Text.join ", " paths ++ " (" ++
        toString compliant ++ " of " ++ toString matched ++ " resource(s) compliant)" := rfl
  have hverb : "Configure ".toList.head? = some 'C' := rfl
  simp only [hparts, String.toList_append, List.head?_append, hverb, Option.some_or]

theorem head?_join (separator : String) {first : String} {c : Char}
    (h : first.toList.head? = some c) (rest : List String) :
    (Text.join separator (first :: rest)).toList.head? = some c := by
  unfold Text.join
  cases rest with
  | nil => rw [String.intercalate_singleton, h]
  | cons second others =>
    rw [String.intercalate_cons_cons, String.append_assoc, String.toList_append, List.head?_append,
      h]
    rfl

/-- A text that starts with a clause is not the generic one. -/
theorem ClauseFor.join_ne_genericAction {policy : MatchPolicy} {result : Assessment}
    {outcome : RequirementOutcome} {clause : String}
    (h : ClauseFor policy result outcome clause) (rest : List String) :
    Text.join "; " (clause :: rest) ≠ genericAction := by
  have hgeneric : genericAction.toList.head? = some 'R' := rfl
  intro he
  cases h with
  | deploy =>
    have hhead := head?_join "; " (head?_deployText outcome.resourceType) rest
    rw [he, hgeneric] at hhead
    exact absurd hhead (by decide)
  | @configure _ paths =>
    have hhead := head?_join "; " (head?_configureText outcome.resourceType paths
      outcome.compliant outcome.matched) rest
    rw [he, hgeneric] at hhead
    exact absurd hhead (by decide)

end Remediation

/-- What a plan says about a control that failed. -/
structure Actionable (policy : MatchPolicy) (control : Control) (result : Assessment) : Prop where
  /-- The outcomes are in the order of the requirements. -/
  outcomes : result.requirementOutcomes.map RequirementOutcome.resourceType =
    control.requirements.map Requirement.resourceType
  clauses : List.Forall₂ (Remediation.ClauseFor policy result)
    (result.requirementOutcomes.filter RequirementOutcome.isFailure) (Remediation.clauses result)
  clauses_ne_nil : Remediation.clauses result ≠ []
  action_eq : Remediation.action result = Text.join "; " (Remediation.clauses result)
  action_ne : Remediation.action result ≠ Remediation.genericAction
  planned : ∀ (report : Report) (remediation : RemediationPolicy), result ∈ report.results →
    ∃ item ∈ report.plan remediation, item.index = result.index ∧
      item.action = Text.join "; " (Remediation.clauses result)

theorem actionable_assess {control : Control} {answers : List (Requirement × Response)}
    (h : answers.map Prod.fst = control.requirements) {policy : MatchPolicy} {limit index : Nat}
    {result : Assessment} (hr : control.assess policy index (answers.map (replyOf limit)) = result)
    (hfailed : result.status = .failed) : Actionable policy control result := by
  have hclauses : List.Forall₂ (Remediation.ClauseFor policy result)
      (result.requirementOutcomes.filter RequirementOutcome.isFailure)
      (Remediation.clauses result) :=
    Remediation.forall₂_clauses fun outcome ho hfails => Remediation.exists_clause h hr ho hfails
  have hsome : Remediation.clauses result ≠ [] := by
    have hstatus : Status.ofOutcomes result.requirementOutcomes = .failed := by
      rw [← hfailed, ← hr]
      rfl
    obtain ⟨outcome, ho, hfails⟩ := Status.exists_failure_of_ofOutcomes hstatus
    intro hnone
    rw [hnone, List.forall₂_nil_right_iff] at hclauses
    exact List.ne_nil_of_mem (List.mem_filter.mpr ⟨ho, hfails⟩) hclauses
  have haction : Remediation.action result = Text.join "; " (Remediation.clauses result) := by
    unfold Remediation.action
    rw [if_neg (by simpa using hsome)]
  refine ⟨?_, hclauses, hsome, haction, ?_, ?_⟩
  · rw [← hr, Control.requirementOutcomes_assess h, outcomesOf, List.map_map, ← h, List.map_map]
    rfl
  · rw [haction]
    cases hlist : Remediation.clauses result with
    | nil => exact absurd hlist hsome
    | cons clause rest =>
      rw [hlist, List.forall₂_cons_right_iff] at hclauses
      obtain ⟨outcome, _, hclause, -⟩ := hclauses
      exact hclause.join_ne_genericAction rest
  · intro report remediation hm
    exact Remediation.exists_item hm hfailed hsome remediation

/-- **Failed controls ask for what is wrong with them.** Whatever the inventory does, the action
for a control that fails is made of one clause for each requirement that fails. -/
theorem Control.asks_for_failures {σ : Type} (respond : String → StateM σ Response)
    (settings : EngineSettings) (index : Nat) (control : Control) (start : σ)
    (h : (control.assessed respond settings index start).status = .failed) :
    Actionable settings.matchPolicy control (control.assessed respond settings index start) := by
  cases hmanual : control.manual with
  | true =>
    rw [assessed_of_manual respond settings index start hmanual] at h
    exact nomatch h
  | false =>
    have hresult := assessed_eq_assess respond settings index start hmanual
    exact actionable_assess (control.map_fst_answers respond start) hresult.symm h

/-! ## A type that is missing and one that is not compliant -/

namespace TwoFailures

def control : Control :=
  { regulation := "DORA", requirement := "Backups"
    requirements := [
      { resourceType := "vault", rules := [⟨"softDelete", .equals, .bool true⟩] },
      { resourceType := "disk" },
      { resourceType := "backup", required := true }] }

def respond (resourceType : String) : StateM Unit Response :=
  pure (.answered (.ok (if resourceType = "vault" then [.object []] else [])))

theorem asks_for_vault_and_backup :
    (control.assessed respond {} 0 ()).status = .failed ∧
      Remediation.action (control.assessed respond {} 0 ()) =
        "Configure vault: softDelete (0 of 1 resource(s) compliant); " ++
          "Deploy backup (no matching resources found)" ∧
      Actionable .any control (control.assessed respond {} 0 ()) := by
  refine ⟨rfl, ?_, Control.asks_for_failures respond {} 0 control () rfl⟩
  decide +kernel

end TwoFailures

end CloudAudit
