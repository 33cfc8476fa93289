import CloudAudit.Proofs.Assessment.Trace
import CloudAudit.Proofs.Assessment.Verdict

/-!
# More resources and fewer rules

A control is compared with itself, over answers that list more resources, and with fewer rules. In
every comparison a requirement has the same status on both sides, or is satisfied on one side and
not compliant on the other, and it is always the same side that comes off better; so the control
has the same status on both sides, or passes on that side and fails on the other
(`Status.lowered_ofOutcomes`). Which side it is, is said in `Control.monotone`.
-/

namespace CloudAudit

/-! ## Lower statuses -/

/-- The same status, or not compliant in place of satisfied. -/
def RequirementStatus.Lowered (high low : RequirementStatus) : Prop :=
  low = high ∨ high = .satisfied ∧ low = .nonCompliant

/-- The same status, or failed in place of passed. -/
def Status.Lowered (high low : Status) : Prop :=
  low = high ∨ high = .passed ∧ low = .failed

namespace Status.Lowered

variable {high low : Status}

theorem passed_of_passed (h : Lowered high low) (hlow : low = .passed) : high = .passed := by
  rcases h with he | ⟨-, hfailed⟩
  · rw [← he, hlow]
  · exact absurd (hlow.symm.trans hfailed) (by decide)

/-- All but the two statuses that may change are on both sides or on none. -/
theorem eq_iff (h : Lowered high low) {status : Status} (hp : status ≠ .passed)
    (hf : status ≠ .failed) : low = status ↔ high = status := by
  rcases h with he | ⟨hpassed, hfailed⟩
  · rw [he]
  · rw [hpassed, hfailed]
    exact ⟨fun he => absurd he.symm hf, fun he => absurd he.symm hp⟩

end Status.Lowered

section Outcomes

variable {higher lower : List RequirementOutcome}
  (h : List.Forall₂ (fun high low => high.status.Lowered low.status) higher lower)
include h

/-- Apart from the two statuses that may change, the same are found on both sides. -/
theorem any_status_iff (status : RequirementStatus) (hs : status ≠ .satisfied)
    (hn : status ≠ .nonCompliant) :
    (lower.any fun outcome => outcome.status = status) = true ↔
      (higher.any fun outcome => outcome.status = status) = true := by
  induction h with
  | nil => exact Iff.rfl
  | @cons outcome other outcomes others ho _ ih =>
    have hstatus : other.status = status ↔ outcome.status = status := by
      rcases ho with he | ⟨hsatisfied, hnonCompliant⟩
      · rw [he]
      · rw [hsatisfied, hnonCompliant]
        exact ⟨fun he => absurd he.symm hn, fun he => absurd he.symm hs⟩
    simp only [List.any_cons, Bool.or_eq_true, decide_eq_true_eq, hstatus, ih]

/-- What is not compliant stays so on the lower side. -/
theorem any_nonCompliant_of_any
    (hany : (higher.any fun outcome => outcome.status = .nonCompliant) = true) :
    (lower.any fun outcome => outcome.status = .nonCompliant) = true := by
  induction h with
  | nil => exact hany
  | @cons outcome other outcomes others ho _ ih =>
    simp only [List.any_cons, Bool.or_eq_true, decide_eq_true_eq] at hany ⊢
    rcases hany with hfirst | hrest
    · left
      rcases ho with he | ⟨-, hnonCompliant⟩
      · rw [he, hfirst]
      · exact hnonCompliant
    · exact .inr (ih hrest)

theorem Status.lowered_ofOutcomes :
    (Status.ofOutcomes higher).Lowered (Status.ofOutcomes lower) := by
  unfold Status.ofOutcomes
  simp only [any_status_iff h .missingResources (by decide) (by decide),
    any_status_iff h .queryFailed (by decide) (by decide)]
  split
  · exact .inl rfl
  split
  · exact .inl rfl
  by_cases hhigher : (higher.any fun outcome => outcome.status = .nonCompliant) = true
  · rw [if_pos hhigher, if_pos (any_nonCompliant_of_any h hhigher)]
    exact .inl rfl
  · rw [if_neg hhigher]
    split
    · exact .inr ⟨rfl, rfl⟩
    · exact .inl rfl

end Outcomes

/-! ## Requirements -/

/-- The same requirement with all of its rules or only some. -/
structure Requirement.Relaxed (strict lax : Requirement) : Prop where
  resourceType_eq : lax.resourceType = strict.resourceType
  required_eq : lax.required = strict.required
  rules : lax.rules.Sublist strict.rules

/-- The same answer, or one that lists further resources beside some. -/
inductive Response.Grown : Response → Response → Prop where
  | same (response : Response) : Grown response response
  | listed {few many : List Json} (hne : few ≠ []) (hsub : few.Sublist many) :
      Grown (.answered (.ok few)) (.answered (.ok many))

namespace Requirement

variable {policy : MatchPolicy} {strict lax requirement : Requirement} {few many : List Json}

theorem Relaxed.keptBy (h : strict.Relaxed lax) {resource : Json} (hk : strict.KeptBy resource) :
    lax.KeptBy resource :=
  fun rule hr => hk rule (h.rules.subset hr)

theorem Relaxed.metBy (h : strict.Relaxed lax) (hm : strict.MetBy few policy) :
    lax.MetBy few policy := by
  cases policy with
  | any =>
    obtain ⟨resource, hr, hk⟩ := hm
    exact ⟨resource, hr, h.keptBy hk⟩
  | all => exact fun resource hr => h.keptBy (hm resource hr)

theorem metBy_any_of_sublist (hsub : few.Sublist many) (hm : requirement.MetBy few .any) :
    requirement.MetBy many .any := by
  obtain ⟨resource, hr, hk⟩ := hm
  exact ⟨resource, hsub.subset hr, hk⟩

theorem metBy_all_of_sublist (hsub : few.Sublist many) (hm : requirement.MetBy many .all) :
    requirement.MetBy few .all :=
  fun resource hr => hm resource (hsub.subset hr)

theorem metBy_of_no_rules {resources : List Json} (hrules : requirement.rules = [])
    (hne : resources ≠ []) : requirement.MetBy resources policy := by
  have hkept : ∀ resource, requirement.KeptBy resource := by simp [KeptBy, hrules]
  cases policy with
  | any =>
    obtain ⟨resource, hr⟩ := List.exists_mem_of_ne_nil resources hne
    exact ⟨resource, hr, hkept resource⟩
  | all => exact fun resource _ => hkept resource

theorem matchedStatus_eq_or (policy : MatchPolicy) (requirement : Requirement)
    (resources : List Json) :
    requirement.matchedStatus policy resources = .satisfied ∨
      requirement.matchedStatus policy resources = .nonCompliant := by
  unfold matchedStatus
  split
  · exact .inl rfl
  · exact .inr rfl

/-- Resources that do better by one requirement than by another lower the status of neither. -/
theorem lowered_matchedStatus {high low : Requirement} {highs lows : List Json} (hlows : lows ≠ [])
    (h : low.MetBy lows policy → high.MetBy highs policy) :
    (high.matchedStatus policy highs).Lowered (low.matchedStatus policy lows) := by
  rcases high.matchedStatus_eq_or policy highs with hhigh | hhigh
  · rcases low.matchedStatus_eq_or policy lows with hlow | hlow
    · exact .inl (hlow.trans hhigh.symm)
    · exact .inr ⟨hhigh, hlow⟩
  · have hunmet := (matchedStatus_eq_nonCompliant_iff.mp hhigh).2
    have hlow : low.matchedStatus policy lows = .nonCompliant :=
      matchedStatus_eq_nonCompliant_iff.mpr
        ⟨fun hrules => hunmet (h (metBy_of_no_rules hrules hlows)), fun hm => hunmet (h hm)⟩
    exact .inl (hlow.trans hhigh.symm)

theorem status_ok_of_ne_nil (policy : MatchPolicy) (requirement : Requirement)
    {resources : List Json} (hne : resources ≠ []) :
    requirement.status policy (.ok resources) = requirement.matchedStatus policy resources := by
  cases resources with
  | nil => exact absurd rfl hne
  | cons resource rest => rfl

theorem Relaxed.lowered_status (h : strict.Relaxed lax) (policy : MatchPolicy) (reply : Reply) :
    (lax.status policy reply).Lowered (strict.status policy reply) := by
  rcases reply with failure | _ | ⟨resource, rest⟩
  · exact .inl rfl
  · refine .inl ?_
    simp only [status, h.required_eq]
  · exact lowered_matchedStatus (List.cons_ne_nil _ _) h.metBy

theorem lowered_status_any {limit : Nat} {fewer more : Response} (h : fewer.Grown more)
    (requirement : Requirement) :
    (requirement.status .any (replyOf limit (requirement, more))).Lowered
      (requirement.status .any (replyOf limit (requirement, fewer))) := by
  cases h with
  | same => exact .inl rfl
  | @listed few many hne hsub =>
    have hmany : many ≠ [] := fun hnil => hne (List.sublist_nil.mp (hnil ▸ hsub))
    show (requirement.status .any (.ok many)).Lowered (requirement.status .any (.ok few))
    rw [status_ok_of_ne_nil _ _ hne, status_ok_of_ne_nil _ _ hmany]
    exact lowered_matchedStatus hne (metBy_any_of_sublist hsub)

theorem lowered_status_all {limit : Nat} {fewer more : Response} (h : fewer.Grown more)
    (requirement : Requirement) :
    (requirement.status .all (replyOf limit (requirement, fewer))).Lowered
      (requirement.status .all (replyOf limit (requirement, more))) := by
  cases h with
  | same => exact .inl rfl
  | @listed few many hne hsub =>
    have hmany : many ≠ [] := fun hnil => hne (List.sublist_nil.mp (hnil ▸ hsub))
    show (requirement.status .all (.ok few)).Lowered (requirement.status .all (.ok many))
    rw [status_ok_of_ne_nil _ _ hne, status_ok_of_ne_nil _ _ hmany]
    exact lowered_matchedStatus hmany (metBy_all_of_sublist hsub)

end Requirement

/-! ## Answers -/

/-- The answers to the same requirements, some of them with further resources. -/
def Enlarged : List (Requirement × Response) → List (Requirement × Response) → Prop :=
  List.Forall₂ fun few many => few.1 = many.1 ∧ few.2.Grown many.2

/-- The same answers to requirements, some of them with fewer rules. -/
def Eased : List (Requirement × Response) → List (Requirement × Response) → Prop :=
  List.Forall₂ fun strict lax => strict.1.Relaxed lax.1 ∧ strict.2 = lax.2

section Answers

variable {answers others : List (Requirement × Response)}

theorem Enlarged.lowered_any (h : Enlarged answers others) (limit : Nat) :
    (Status.ofOutcomes (outcomesOf .any limit others)).Lowered
      (Status.ofOutcomes (outcomesOf .any limit answers)) := by
  refine Status.lowered_ofOutcomes ?_
  unfold outcomesOf
  rw [List.forall₂_map_left_iff, List.forall₂_map_right_iff]
  refine List.Forall₂.flip (h.imp ?_)
  rintro ⟨requirement, few⟩ ⟨_, many⟩ ⟨rfl, hgrown⟩
  exact requirement.lowered_status_any hgrown

theorem Enlarged.lowered_all (h : Enlarged answers others) (limit : Nat) :
    (Status.ofOutcomes (outcomesOf .all limit answers)).Lowered
      (Status.ofOutcomes (outcomesOf .all limit others)) := by
  refine Status.lowered_ofOutcomes ?_
  unfold outcomesOf
  rw [List.forall₂_map_left_iff, List.forall₂_map_right_iff]
  refine h.imp ?_
  rintro ⟨requirement, few⟩ ⟨_, many⟩ ⟨rfl, hgrown⟩
  exact requirement.lowered_status_all hgrown

theorem Requirement.Relaxed.replyOf_eq {strict lax : Requirement} (h : strict.Relaxed lax)
    (limit : Nat) (response : Response) :
    replyOf limit (lax, response) = replyOf limit (strict, response) := by
  unfold replyOf
  rw [h.resourceType_eq]

end Answers

/-! ## Fewer rules -/

/-- The outcomes of a requirement and of the same one with fewer rules. -/
structure RequirementOutcome.Relaxed (strict lax : RequirementOutcome) : Prop where
  resourceType_eq : lax.resourceType = strict.resourceType
  required_eq : lax.required = strict.required
  matched_eq : lax.matched = strict.matched
  compliant_le : strict.compliant ≤ lax.compliant
  status : lax.status.Lowered strict.status

theorem Requirement.Relaxed.compliantCount_le {strict lax : Requirement} (h : strict.Relaxed lax)
    (resources : List Json) : strict.compliantCount resources ≤ lax.compliantCount resources := by
  rw [compliantCount_eq, compliantCount_eq]
  refine List.countP_mono_left fun resource _ hk => ?_
  rw [decide_eq_true_eq] at hk ⊢
  exact h.keptBy hk

theorem Requirement.Relaxed.outcome {strict lax : Requirement} (h : strict.Relaxed lax)
    (policy : MatchPolicy) (reply : Reply) :
    (strict.outcome policy reply).Relaxed (lax.outcome policy reply) :=
  ⟨h.resourceType_eq, h.required_eq, rfl, h.compliantCount_le _, h.lowered_status policy reply⟩

section Eased

variable {answers others : List (Requirement × Response)} (h : Eased answers others)
  (policy : MatchPolicy) (limit : Nat)
include h

theorem Eased.outcomes :
    List.Forall₂ RequirementOutcome.Relaxed (outcomesOf policy limit answers)
      (outcomesOf policy limit others) := by
  unfold outcomesOf
  rw [List.forall₂_map_left_iff, List.forall₂_map_right_iff]
  refine h.imp ?_
  rintro ⟨strict, response⟩ ⟨lax, _⟩ ⟨hrelaxed, rfl⟩
  show (strict.outcome policy _).Relaxed (lax.outcome policy _)
  rw [hrelaxed.replyOf_eq]
  exact hrelaxed.outcome policy _

theorem Eased.lowered :
    (Status.ofOutcomes (outcomesOf policy limit others)).Lowered
      (Status.ofOutcomes (outcomesOf policy limit answers)) :=
  Status.lowered_ofOutcomes ((h.outcomes policy limit).flip.imp fun _ _ ho => ho.status)

end Eased

/-- The same control with all rules of its requirements or only some. -/
structure Control.Relaxed (strict lax : Control) : Prop where
  requirements : List.Forall₂ Requirement.Relaxed strict.requirements lax.requirements
  others_eq : lax = { strict with requirements := lax.requirements }

theorem Control.Relaxed.manual_eq {strict lax : Control} (h : strict.Relaxed lax) :
    lax.manual = strict.manual := by
  rw [h.others_eq]

section Inquiry

variable {σ : Type} (respond : String → StateM σ Response)

/-- The rules have no part in the queries. -/
theorem Requirement.eased_inquire {strict lax : List Requirement}
    (h : List.Forall₂ Requirement.Relaxed strict lax) (start : σ) :
    Eased ((Requirement.inquire respond strict).run start).1
      ((Requirement.inquire respond lax).run start).1 := by
  induction h generalizing start with
  | nil => exact .nil
  | @cons requirement other requirements others hr _ ih =>
    rw [run_inquire_cons, run_inquire_cons, hr.resourceType_eq]
    exact .cons ⟨hr, rfl⟩ (ih _)

theorem Control.Relaxed.eased_answers {strict lax : Control} (h : strict.Relaxed lax)
    (start : σ) : Eased (strict.answers respond start) (lax.answers respond start) :=
  Requirement.eased_inquire respond h.requirements start

end Inquiry

/-! ## Controls -/

namespace Control

variable {σ : Type}

section Status

variable (respond : String → StateM σ Response) (settings : EngineSettings) (index : Nat)
  {control : Control} (start : σ)

theorem status_assessed (h : control.manual = false) :
    (control.assessed respond settings index start).status =
      Status.ofOutcomes (outcomesOf settings.matchPolicy settings.timeoutSeconds
        (control.answers respond start)) := by
  rw [← requirementOutcomes_assessed respond settings index start h]
  unfold assessed
  rw [validate_run_fst respond h]
  rfl

/-- The same control with fewer rules does no worse, and its outcomes are no worse. -/
theorem Relaxed.assessed {strict lax : Control} (h : strict.Relaxed lax) :
    List.Forall₂ RequirementOutcome.Relaxed
        (strict.assessed respond settings index start).requirementOutcomes
        (lax.assessed respond settings index start).requirementOutcomes ∧
      (lax.assessed respond settings index start).status.Lowered
        (strict.assessed respond settings index start).status := by
  cases hmanual : strict.manual with
  | true =>
    have hlax := h.manual_eq.trans hmanual
    rw [assessed_of_manual respond settings index start hmanual,
      assessed_of_manual respond settings index start hlax]
    exact ⟨.nil, .inl rfl⟩
  | false =>
    have hlax := h.manual_eq.trans hmanual
    have heased := h.eased_answers respond start
    rw [requirementOutcomes_assessed respond settings index start hmanual,
      requirementOutcomes_assessed respond settings index start hlax,
      status_assessed respond settings index start hmanual,
      status_assessed respond settings index start hlax]
    exact ⟨heased.outcomes _ _, heased.lowered _ _⟩

end Status

/-- What further resources and fewer rules make of a control. -/
structure Monotone (respond : String → StateM σ Response) (settings : EngineSettings)
    (index : Nat) (control : Control) (start : σ) : Prop where
  /-- Where one resource is enough, further ones do no harm. -/
  more_resources : settings.matchPolicy = .any →
    (control.assessed respond settings index start).status = .passed →
      ∀ {τ : Type} (other : String → StateM τ Response) (otherStart : τ),
        Enlarged (control.answers respond start) (control.answers other otherStart) →
          (control.assessed other settings index otherStart).status = .passed
  /-- Where every resource counts, one less does no harm as long as there are others. -/
  fewer_resources : settings.matchPolicy = .all →
    (control.assessed respond settings index start).status = .passed →
      ∀ {τ : Type} (other : String → StateM τ Response) (otherStart : τ),
        Enlarged (control.answers other otherStart) (control.answers respond start) →
          (control.assessed other settings index otherStart).status = .passed
  fewer_rules : (control.assessed respond settings index start).status = .passed →
    ∀ lax, control.Relaxed lax → (lax.assessed respond settings index start).status = .passed
  /-- Under further rules no more resources are compliant than before. -/
  compliant_le : ∀ strict : Control, strict.Relaxed control →
    List.Forall₂ RequirementOutcome.Relaxed
      (strict.assessed respond settings index start).requirementOutcomes
      (control.assessed respond settings index start).requirementOutcomes
  not_passed : (control.assessed respond settings index start).status ≠ .passed →
    ∀ strict : Control, strict.Relaxed control →
      (strict.assessed respond settings index start).status ≠ .passed
  /-- Rules have no part in the other two statuses. -/
  unaffected : ∀ other : Control, control.Relaxed other ∨ other.Relaxed control →
    ∀ status, status = .error ∨ status = .manual →
      ((other.assessed respond settings index start).status = status ↔
        (control.assessed respond settings index start).status = status)

/-- **Resources and rules weigh in one direction only.** -/
theorem monotone (respond : String → StateM σ Response) (settings : EngineSettings)
    (index : Nat) (control : Control) (start : σ) :
    control.Monotone respond settings index start where
  more_resources := by
    intro hpolicy hpassed τ other otherStart henlarged
    cases hmanual : control.manual with
    | true =>
      rw [assessed_of_manual respond settings index start hmanual] at hpassed
      exact nomatch hpassed
    | false =>
      rw [status_assessed respond settings index start hmanual, hpolicy] at hpassed
      rw [status_assessed other settings index otherStart hmanual, hpolicy]
      exact (henlarged.lowered_any _).passed_of_passed hpassed
  fewer_resources := by
    intro hpolicy hpassed τ other otherStart henlarged
    cases hmanual : control.manual with
    | true =>
      rw [assessed_of_manual respond settings index start hmanual] at hpassed
      exact nomatch hpassed
    | false =>
      rw [status_assessed respond settings index start hmanual, hpolicy] at hpassed
      rw [status_assessed other settings index otherStart hmanual, hpolicy]
      exact (henlarged.lowered_all _).passed_of_passed hpassed
  fewer_rules := by
    intro hpassed lax hrelaxed
    exact (hrelaxed.assessed respond settings index start).2.passed_of_passed hpassed
  compliant_le := by
    intro strict hrelaxed
    exact (hrelaxed.assessed respond settings index start).1
  not_passed := by
    intro hstatus strict hrelaxed hpassed
    exact hstatus ((hrelaxed.assessed respond settings index start).2.passed_of_passed hpassed)
  unaffected := by
    intro other hrelaxed status hstatus
    have hp : status ≠ .passed := by rcases hstatus with rfl | rfl <;> decide
    have hf : status ≠ .failed := by rcases hstatus with rfl | rfl <;> decide
    rcases hrelaxed with hrelaxed | hrelaxed
    · exact ((hrelaxed.assessed respond settings index start).2.eq_iff hp hf).symm
    · exact (hrelaxed.assessed respond settings index start).2.eq_iff hp hf

/-- An optional type: with no resource at all it is passed over, and with one it may fail. -/
def optionalControl : Control :=
  { regulation := "R", requirement := "r"
    requirements := [{ resourceType := "T", rules := [{ path := "a", check := .present }] }] }

example : (optionalControl.assess .any 0 [.ok []]).status = .passed ∧
    (optionalControl.assess .any 0 [.ok [.object []]]).status = .failed := by decide

end Control

end CloudAudit
