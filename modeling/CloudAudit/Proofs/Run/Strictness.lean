import CloudAudit.Proofs.Assessment.Monotonicity
import CloudAudit.Proofs.Report.Bookkeeping
import CloudAudit.Proofs.Report.Headings
import CloudAudit.Proofs.Run.Endings

/-!
# The strict policy

When every resource has to keep the rules, and not just one of them, the evidence stays the same.
Requirements that were satisfied may turn out not to be, and controls that passed may fail, and
nothing else changes (`strict_tightens`). This holds since a type without resources is dealt with
before the policy is asked: of no resources all keep the rules, and none does.
-/

namespace CloudAudit

/-! ## Requirements -/

namespace Requirement

theorem isMet_any_of_isMet_all {compliant matched : Nat} (hpos : 0 < matched)
    (h : isMet .all compliant matched = true) : isMet .any compliant matched = true := by
  simp only [isMet, decide_eq_true_eq] at h ⊢
  omega

theorem matchedStatus_all (requirement : Requirement) {resources : List Json}
    (hpos : 0 < resources.length) :
    requirement.matchedStatus .all resources = requirement.matchedStatus .any resources ∨
      requirement.matchedStatus .any resources = .satisfied ∧
        requirement.matchedStatus .all resources = .nonCompliant := by
  unfold matchedStatus
  by_cases hrules : requirement.rules.isEmpty = true
  · simp [hrules]
  by_cases hall : isMet .all (requirement.compliantCount resources) resources.length = true
  · simp [hall, isMet_any_of_isMet_all hpos hall]
  · by_cases hany : isMet .any (requirement.compliantCount resources) resources.length = true
    · exact .inr (by simp [hrules, hall, hany])
    · simp [hrules, hall, hany]

theorem status_all (requirement : Requirement) (reply : Reply) :
    requirement.status .all reply = requirement.status .any reply ∨
      requirement.status .any reply = .satisfied ∧
        requirement.status .all reply = .nonCompliant := by
  rcases reply with failure | _ | ⟨resource, rest⟩
  · exact .inl rfl
  · exact .inl rfl
  · exact requirement.matchedStatus_all (Nat.succ_pos _)

end Requirement

/-- The outcome of a requirement under the lenient policy and under the strict one. -/
structure RequirementOutcome.Tightened (lenient strict : RequirementOutcome) : Prop where
  resourceType_eq : strict.resourceType = lenient.resourceType
  required_eq : strict.required = lenient.required
  matched_eq : strict.matched = lenient.matched
  compliant_eq : strict.compliant = lenient.compliant
  status : strict.status = lenient.status ∨
    lenient.status = .satisfied ∧ strict.status = .nonCompliant

theorem Requirement.tightened_outcome (requirement : Requirement) (reply : Reply) :
    (requirement.outcome .any reply).Tightened (requirement.outcome .all reply) :=
  ⟨rfl, rfl, rfl, rfl, requirement.status_all reply⟩

/-! ## Controls -/

/-- The assessment of a control under the lenient policy and under the strict one. -/
structure Assessment.Tightened (lenient strict : Assessment) : Prop where
  index_eq : strict.index = lenient.index
  control_eq : strict.control = lenient.control
  matched_eq : strict.matched = lenient.matched
  ruleOutcomes_eq : strict.ruleOutcomes = lenient.ruleOutcomes
  notes_eq : strict.notes = lenient.notes
  requirementOutcomes : List.Forall₂ RequirementOutcome.Tightened lenient.requirementOutcomes
    strict.requirementOutcomes
  status : strict.status = lenient.status ∨ lenient.status = .passed ∧ strict.status = .failed

namespace Assessment.Tightened

variable {lenient strict : Assessment}

protected theorem of_eq (h : strict = lenient)
    (houtcomes : lenient.requirementOutcomes = []) : Tightened lenient strict := by
  subst h
  refine ⟨rfl, rfl, rfl, rfl, rfl, ?_, .inl rfl⟩
  rw [houtcomes]
  exact .nil

theorem failsAlong (h : Tightened lenient strict) : Report.FailsAlong lenient strict := by
  refine ⟨h.index_eq.symm, h.control_eq.symm, fun hfailed => ?_⟩
  rcases h.status with he | ⟨-, hfailed⟩
  · rw [he, hfailed]
  · exact hfailed

/-- Controls end with one of the statuses that do not change, or with one of the other two. -/
theorem status_eq_iff (h : Tightened lenient strict) {status : Status} (hp : status ≠ .passed)
    (hf : status ≠ .failed) : strict.status = status ↔ lenient.status = status := by
  have hlowered : lenient.status.Lowered strict.status := h.status
  exact hlowered.eq_iff hp hf

end Assessment.Tightened

/-- The findings of a control, one for each requirement with its reply. -/
theorem Control.findings_eq_map (policy : MatchPolicy) (control : Control)
    (replies : List Reply) :
    control.findings policy replies =
      (control.requirements.zip replies).map fun pair => pair.1.finding policy pair.2 := by
  unfold findings
  rw [← List.map_uncurry_zip_eq_zipWith]
  rfl

theorem Control.tightened_assess (index : Nat) (control : Control) (replies : List Reply) :
    (control.assess .any index replies).Tightened (control.assess .all index replies) := by
  have houtcomes : List.Forall₂ RequirementOutcome.Tightened
      ((control.findings .any replies).map RequirementFinding.outcome)
      ((control.findings .all replies).map RequirementFinding.outcome) := by
    rw [findings_eq_map, findings_eq_map, List.map_map, List.map_map,
      List.forall₂_map_left_iff, List.forall₂_map_right_iff, List.forall₂_same]
    exact fun pair _ => pair.1.tightened_outcome pair.2
  have hlowered := Status.lowered_ofOutcomes (houtcomes.imp fun _ _ ho => ho.status)
  refine ⟨rfl, rfl, ?_, ?_, ?_, houtcomes, hlowered⟩
  all_goals
    unfold assess
    simp only [findings_eq_map, List.map_map, List.foldl_map, List.flatMap_map]
    rfl

theorem Task.tightened_assessment (task : Task) :
    (task.assessment .any).Tightened (task.assessment .all) := by
  unfold assessment
  by_cases h : task.control.manual = true
  · rw [if_pos h, if_pos h]
    exact .of_eq rfl rfl
  · rw [if_neg h, if_neg h]
    exact Control.tightened_assess _ _ _

theorem Ending.tightened_assessment (ending : Ending) :
    (ending.assessment .any).Tightened (ending.assessment .all) := by
  cases ending with
  | heard task => exact task.tightened_assessment
  | lost control index => exact .of_eq rfl rfl

/-! ## Reports -/

/-- The report of a run under the lenient policy and under the strict one. -/
structure Report.Tightened (lenient strict : Report) : Prop where
  results : List.Forall₂ Assessment.Tightened lenient.results strict.results
  passed_of_passed : ∀ {index : Nat} {result other : Assessment},
    lenient.results[index]? = some result → strict.results[index]? = some other →
      other.status = .passed → result.status = .passed
  manual_eq : strict.totals.manual = lenient.totals.manual
  error_eq : strict.totals.error = lenient.totals.error
  /-- Every control of the lenient plan is in the strict one, in the same order. -/
  plan : ∀ policy, ((lenient.plan policy).map RemediationItem.heading).Sublist
    ((strict.plan policy).map RemediationItem.heading)

theorem Report.tightened_ofResults {results others : List Assessment}
    (h : List.Forall₂ Assessment.Tightened results others) (generatedAt : Timestamp)
    (checklist : Option ChecklistMeta) :
    (Report.ofResults generatedAt checklist .any results).Tightened
      (Report.ofResults generatedAt checklist .all others) := by
  have hcount : ∀ status, status ≠ .passed → status ≠ .failed →
      (Report.ofResults generatedAt checklist .all others).totals.count status =
        (Report.ofResults generatedAt checklist .any results).totals.count status := by
    intro status hp hf
    rw [count_totals_ofResults, count_totals_ofResults]
    refine (countP_eq_of_forall₂ (fun result other hro => ?_) h).symm
    rw [decide_eq_true_eq, decide_eq_true_eq]
    exact (hro.status_eq_iff hp hf).symm
  refine ⟨h, fun {index result other} hr ho hpassed => ?_, hcount .manual (by decide) (by decide),
    hcount .error (by decide) (by decide), plan_sublist (h.imp fun _ _ hro => hro.failsAlong)⟩
  obtain ⟨hlt, rfl⟩ := List.getElem?_eq_some_iff.mp hr
  obtain ⟨hlt', rfl⟩ := List.getElem?_eq_some_iff.mp ho
  rcases (h.get hlt hlt').status with he | ⟨-, hfailed⟩
  · exact he.symm.trans hpassed
  · exact absurd (hpassed.symm.trans hfailed) (by decide)

/-! ## Runs -/

theorem Control.tightened_validate (answer : String → Reply) (index : Nat) (control : Control) :
    (Id.run (control.validate answer .any index)).Tightened
      (Id.run (control.validate answer .all index)) := by
  rw [validate_eq_ask, validate_eq_ask]
  exact (Id.run (Task.ask answer (control, index))).tightened_assessment

namespace Run

variable {σ : Type}

/-- What the strict policy makes of the runs of a checklist over an inventory. -/
structure Strictness (settings : EngineSettings) (query : String → OptionT (StateM σ) Reply)
    (controls : List Control) (start : σ) : Prop where
  /-- The runs that the settings allow are those that follow events. -/
  follows_iff (policy : MatchPolicy) (results : List Assessment) :
    (∃ dead, Yields { settings with matchPolicy := policy } query controls start dead results) ↔
      ∃ events, follow? { settings with matchPolicy := policy } query controls start events =
        some results
  /-- Whatever the inventory does, when the same happens in both runs. -/
  follow (events : List Event) (generatedAt : Timestamp) (checklist : Option ChecklistMeta) :
    Option.Rel Report.Tightened
      ((follow? { settings with matchPolicy := .any } query controls start events).map
        (Report.ofResults generatedAt checklist .any))
      ((follow? { settings with matchPolicy := .all } query controls start events).map
        (Report.ofResults generatedAt checklist .all))
  /-- Whatever happens in the runs, when each type has one answer and the same tasks die. -/
  consistent {answer : String → Reply} (hq : Consistent query answer start)
    {dead lost : List Nat} {results others : List Assessment}
    (hany : Yields { settings with matchPolicy := .any } query controls start dead results)
    (hall : Yields { settings with matchPolicy := .all } query controls start lost others)
    (hdead : ∀ index, index ∈ dead ↔ index ∈ lost) (generatedAt : Timestamp)
    (checklist : Option ChecklistMeta) :
    (Report.ofResults generatedAt checklist .any results).Tightened
      (Report.ofResults generatedAt checklist .all others)

/-- **The strict policy only tightens.** -/
theorem strict_tightens (settings : EngineSettings) (query : String → OptionT (StateM σ) Reply)
    (controls : List Control) (start : σ) : Strictness settings query controls start where
  follows_iff _ _ := exists_yields_iff
  follow events generatedAt checklist := by
    obtain ⟨endings?, hfollow⟩ := exists_endings controls settings query start events
    rw [hfollow, hfollow]
    cases endings? with
    | none => exact .none
    | some endings =>
      refine .some (Report.tightened_ofResults ?_ generatedAt checklist)
      rw [List.forall₂_map_left_iff, List.forall₂_map_right_iff, List.forall₂_same]
      exact fun ending _ => ending.tightened_assessment
  consistent := by
    intro answer hq dead lost results others hany hall hdead generatedAt checklist
    refine Report.tightened_ofResults ?_ generatedAt checklist
    rw [hany.results_eq hq, hall.results_eq hq, List.forall₂_map_left_iff,
      List.forall₂_map_right_iff, List.forall₂_same]
    intro entry _
    simp only [hdead]
    split
    · exact .of_eq rfl rfl
    · exact Control.tightened_validate _ _ _

end Run

end CloudAudit
