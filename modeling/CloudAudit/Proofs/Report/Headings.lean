import CloudAudit.Proofs.Remediation.Ordering
import Mathlib.Data.List.Forall2

/-!
# What reports and plans depend on

Totals, rates and summaries are decided by the regulations and the statuses of the results
(`summarize_eq`), and what a plan is about, the actions aside, by the controls that failed
(`plan_sublist`). So results that differ in their evidence only give the same books, and more
failures give a longer plan in the same order.
-/

namespace CloudAudit

/-- Lists with related members count the same when the members that count are related. -/
theorem countP_eq_of_forall₂ {α β : Type} {R : α → β → Prop} {p : α → Bool} {q : β → Bool}
    (hpq : ∀ a b, R a b → (p a = true ↔ q b = true)) {values : List α} {others : List β}
    (h : List.Forall₂ R values others) : values.countP p = others.countP q := by
  have hfiltered : List.Forall₂ R (values.filter p) (others.filter q) :=
    List.rel_filter (fun a b hab => hpq a b hab) h
  rw [List.countP_eq_length_filter, List.countP_eq_length_filter, hfiltered.length_eq]

/-- What an item of a plan is about, and how urgent it is. -/
def RemediationItem.heading (item : RemediationItem) : Nat × String × String × Priority :=
  (item.index, item.regulation, item.requirement, item.priority)

/-- What the item of a result is about. -/
def Remediation.heading (policy : RemediationPolicy) (result : Assessment) :
    Nat × String × String × Priority :=
  (result.index, result.control.regulation, result.control.requirement,
    policy.priority result.control.regulation)

namespace Report

/-! ## Books -/

/-- Recording a result takes its regulation and its status. -/
theorem regulationTotals_eq_foldl (results : List Assessment) :
    regulationTotals results =
      (results.map fun result => (result.control.regulation, result.status)).foldl
        (fun entries key => recordUnder key.1 key.2 entries) [] := by
  rw [List.foldl_map]
  rfl

/-- The books of results are decided by their regulations and statuses. -/
theorem summarize_eq {results others : List Assessment}
    (h : List.Forall₂ (fun result other => result.control.regulation = other.control.regulation ∧
      result.status = other.status) results others) :
    summarize results = summarize others := by
  have hkeys : (results.map fun result => (result.control.regulation, result.status)) =
      others.map fun other => (other.control.regulation, other.status) := by
    rw [← List.forall₂_eq_eq_eq, List.forall₂_map_left_iff, List.forall₂_map_right_iff]
    exact h.imp fun result other hro => Prod.ext hro.1 hro.2
  have hstatuses : results.map Assessment.status = others.map Assessment.status := by
    have hsnd := congrArg (List.map Prod.snd) hkeys
    rwa [List.map_map, List.map_map] at hsnd
  unfold summarize
  rw [regulationTotals_eq_foldl, hkeys, ← regulationTotals_eq_foldl, hstatuses]

/-! ## Plans -/

/-- What the items of one priority are about. -/
def headings (policy : RemediationPolicy) (priority : Priority) (results : List Assessment) :
    List (Nat × String × String × Priority) :=
  (results.filter fun result =>
    result.status = .failed ∧ policy.priority result.control.regulation = priority).map
      (Remediation.heading policy)

/-- The items of a plan are those of the priorities, one priority after the other. -/
theorem map_heading_plan (policy : RemediationPolicy) (report : Report) :
    (report.plan policy).map RemediationItem.heading =
      Priority.all.flatMap fun priority => headings policy priority report.results := by
  rw [plan_eq_flatMap, List.map_flatMap]
  refine List.flatMap_congr fun priority _ => ?_
  unfold headings itemsOf
  rw [List.map_map]
  rfl

section Headings

variable {policy : RemediationPolicy} {priority : Priority}

theorem headings_cons (result : Assessment) (rest : List Assessment) :
    headings policy priority (result :: rest) =
      if result.status = .failed ∧ policy.priority result.control.regulation = priority then
        Remediation.heading policy result :: headings policy priority rest
      else headings policy priority rest := by
  unfold headings
  rw [List.filter_cons]
  simp only [decide_eq_true_eq]
  split <;> rfl

/-- The other result is about the same control, and it fails if this one does. -/
def FailsAlong (result other : Assessment) : Prop :=
  result.index = other.index ∧ result.control = other.control ∧
    (result.status = .failed → other.status = .failed)

theorem headings_sublist {results others : List Assessment}
    (h : List.Forall₂ FailsAlong results others) :
    (headings policy priority results).Sublist (headings policy priority others) := by
  induction h with
  | nil => exact List.Sublist.refl _
  | @cons result other results others hro _ ih =>
    obtain ⟨hindex, hcontrol, hfailed⟩ := hro
    have hheading : Remediation.heading policy result = Remediation.heading policy other := by
      unfold Remediation.heading
      rw [hindex, hcontrol]
    rw [headings_cons, headings_cons, hheading, hcontrol]
    by_cases hresult : result.status = .failed ∧
        policy.priority other.control.regulation = priority
    · rw [if_pos hresult, if_pos ⟨hfailed hresult.1, hresult.2⟩]
      exact ih.cons_cons _
    · rw [if_neg hresult]
      split
      · exact ih.cons _
      · exact ih

end Headings

/-- **More failures give more of a plan.** What was planned before stays, in its order. -/
theorem plan_sublist {report other : Report}
    (h : List.Forall₂ FailsAlong report.results other.results) (policy : RemediationPolicy) :
    ((report.plan policy).map RemediationItem.heading).Sublist
      ((other.plan policy).map RemediationItem.heading) := by
  rw [map_heading_plan, map_heading_plan]
  simp only [Priority.all, List.flatMap_cons, List.flatMap_nil]
  exact (headings_sublist h).append
    ((headings_sublist h).append ((headings_sublist h).append (List.Sublist.refl [])))

end Report

end CloudAudit
