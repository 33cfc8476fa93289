import CloudAudit.Report.Remediation
import Mathlib.Data.List.Basic
import Mathlib.Data.List.Pairwise

/-!
# The order of remediation plans

A stable sort keeps the items of each priority in their order (`filter_mergeSort`), and of a sorted
list the items of high priority come first, then those of medium and of low priority. So a plan is
what the failed results of each priority come to, one priority after the other
(`Report.plan_ordered`).
-/

namespace CloudAudit

/-! ## Stable sorting -/

section Sorting

variable {α : Type} (rank : α → Nat)

theorem rank_le_trans (a b c : α) (hab : decide (rank a ≤ rank b) = true)
    (hbc : decide (rank b ≤ rank c) = true) : decide (rank a ≤ rank c) = true := by
  rw [decide_eq_true_eq] at hab hbc ⊢
  omega

theorem rank_le_total (a b : α) :
    (decide (rank a ≤ rank b) || decide (rank b ≤ rank a)) = true := by
  rw [Bool.or_eq_true, decide_eq_true_eq, decide_eq_true_eq]
  omega

theorem pairwise_mergeSort_rank (values : List α) :
    (values.mergeSort fun a b => rank a ≤ rank b).Pairwise fun a b => rank a ≤ rank b := by
  have hsorted := List.pairwise_mergeSort (rank_le_trans rank) (rank_le_total rank) values
  exact hsorted.imp fun h => of_decide_eq_true h

/-- The values of one rank keep their order. -/
theorem filter_mergeSort (k : Nat) (values : List α) :
    (values.mergeSort fun a b => rank a ≤ rank b).filter (fun a => rank a = k) =
      values.filter fun a => rank a = k := by
  -- values of one rank are sorted as they stand, and a stable sort keeps what is sorted
  have hsorted : (values.filter fun a => rank a = k).Pairwise
      fun a b => decide (rank a ≤ rank b) = true := by
    refine List.pairwise_of_forall_mem_list ?_
    intro a ha b hb
    have hka : rank a = k := by simpa using (List.mem_filter.mp ha).2
    have hkb : rank b = k := by simpa using (List.mem_filter.mp hb).2
    rw [decide_eq_true_eq]
    omega
  have hkept := (List.sublist_mergeSort (rank_le_trans rank) (rank_le_total rank) hsorted
    List.filter_sublist).filter fun a => rank a = k
  rw [List.filter_filter, List.filter_congr fun a _ => Bool.and_self _] at hkept
  have hlength := ((List.mergeSort_perm values fun a b => rank a ≤ rank b).filter
    fun a => rank a = k).length_eq
  exact (hkept.eq_of_length hlength.symm).symm

end Sorting

/-! ## Priorities -/

namespace Priority

theorem rank_inj {priority other : Priority} : priority.rank = other.rank ↔ priority = other := by
  constructor
  · intro h
    cases priority <;> cases other <;> first | rfl | exact absurd h (by decide)
  · rintro rfl
    rfl

end Priority

namespace RemediationPolicy

variable (policy : RemediationPolicy) (regulation : String)

theorem isLow_iff : policy.isLow regulation = true ↔ regulation ∈ policy.low :=
  List.contains_iff_mem

theorem isCritical_iff : policy.isCritical regulation = true ↔
    policy.critical = none ∨
      ∃ regulations, policy.critical = some regulations ∧ regulation ∈ regulations := by
  unfold isCritical
  cases policy.critical with
  | none => simp
  | some regulations => simp

theorem isCritical_eq_false_iff : policy.isCritical regulation = false ↔
    ∃ regulations, policy.critical = some regulations ∧ regulation ∉ regulations := by
  unfold isCritical
  cases policy.critical with
  | none => simp
  | some regulations => simp

theorem priority_eq_low_iff : policy.priority regulation = .low ↔ regulation ∈ policy.low := by
  rw [← isLow_iff]
  unfold priority
  cases policy.isLow regulation <;> cases policy.isCritical regulation <;> simp

theorem priority_eq_high_iff : policy.priority regulation = .high ↔
    regulation ∉ policy.low ∧ (policy.critical = none ∨
      ∃ regulations, policy.critical = some regulations ∧ regulation ∈ regulations) := by
  rw [← isLow_iff, ← isCritical_iff]
  unfold priority
  cases policy.isLow regulation <;> cases policy.isCritical regulation <;> simp

theorem priority_eq_medium_iff : policy.priority regulation = .medium ↔
    regulation ∉ policy.low ∧
      ∃ regulations, policy.critical = some regulations ∧ regulation ∉ regulations := by
  rw [← isLow_iff, ← isCritical_eq_false_iff]
  unfold priority
  cases policy.isLow regulation <;> cases policy.isCritical regulation <;> simp

end RemediationPolicy

/-! ## Plans -/

/-- In a sorted list of items one priority comes after the other. -/
theorem eq_flatMap_priority {items : List RemediationItem}
    (h : items.Pairwise fun item other => item.priority.rank ≤ other.priority.rank) :
    items = Priority.all.flatMap fun priority =>
      items.filter fun item => item.priority = priority := by
  induction items with
  | nil => rfl
  | cons item rest ih =>
    rw [List.pairwise_cons] at h
    obtain ⟨hfirst, hrest⟩ := h
    have hnone : ∀ priority : Priority, priority.rank < item.priority.rank →
        (rest.filter fun other => other.priority = priority) = [] := by
      intro priority hlt
      rw [List.filter_eq_nil_iff]
      intro other ho he
      rw [decide_eq_true_eq] at he
      have hle := hfirst other ho
      rw [he] at hle
      omega
    have hih := ih hrest
    simp only [Priority.all, List.flatMap_cons, List.flatMap_nil, List.append_nil] at hih ⊢
    cases hp : item.priority with
    | high => simpa [List.filter_cons, hp] using hih
    | medium =>
      have hhigh := hnone .high (by rw [hp]; decide)
      rw [hhigh] at hih
      simpa [List.filter_cons, hp, hhigh] using hih
    | low =>
      have hhigh := hnone .high (by rw [hp]; decide)
      have hmedium := hnone .medium (by rw [hp]; decide)
      rw [hhigh, hmedium] at hih
      simpa [List.filter_cons, hp, hhigh, hmedium] using hih

namespace Report

variable (policy : RemediationPolicy) (report : Report)

/-- A plan puts the items of the failed results into another order. -/
theorem plan_perm :
    (report.plan policy).Perm ((report.withStatus .failed).map (Remediation.item policy)) :=
  List.mergeSort_perm _ _

theorem pairwise_plan :
    (report.plan policy).Pairwise fun item other => item.priority.rank ≤ other.priority.rank :=
  pairwise_mergeSort_rank (fun item : RemediationItem => item.priority.rank) _

theorem filter_priority_plan (priority : Priority) :
    ((report.plan policy).filter fun item => item.priority = priority) =
      ((report.withStatus .failed).map (Remediation.item policy)).filter
        fun item => item.priority = priority := by
  have hkept := filter_mergeSort (fun item : RemediationItem => item.priority.rank) priority.rank
    ((report.withStatus .failed).map (Remediation.item policy))
  simp only [Priority.rank_inj] at hkept
  exact hkept

/-- The items of the failed results whose regulations have a priority, in the order of the
results. -/
def itemsOf (priority : Priority) (results : List Assessment) : List RemediationItem :=
  (results.filter fun result =>
    result.status = .failed ∧ policy.priority result.control.regulation = priority).map
      (Remediation.item policy)

/-- A plan takes one priority after the other. -/
theorem plan_eq_flatMap :
    report.plan policy = Priority.all.flatMap fun priority =>
      itemsOf policy priority report.results := by
  refine (eq_flatMap_priority (pairwise_plan policy report)).trans ?_
  refine List.flatMap_congr fun priority _ => ?_
  rw [filter_priority_plan]
  unfold itemsOf withStatus
  rw [List.filter_map, List.filter_filter]
  refine congrArg _ (List.filter_congr fun result _ => ?_)
  rw [Bool.and_comm, Bool.decide_and]
  rfl

/-- What the plan of a report is. -/
structure Ordered : Prop where
  plan_eq : report.plan policy =
    itemsOf policy .high report.results ++ itemsOf policy .medium report.results ++
      itemsOf policy .low report.results
  /-- Every item is about its result. -/
  heading : ∀ result : Assessment,
    (Remediation.item policy result).index = result.index ∧
      (Remediation.item policy result).regulation = result.control.regulation ∧
      (Remediation.item policy result).requirement = result.control.requirement ∧
      (Remediation.item policy result).priority = policy.priority result.control.regulation
  low_iff : ∀ regulation, policy.priority regulation = .low ↔ regulation ∈ policy.low
  high_iff : ∀ regulation, policy.priority regulation = .high ↔
    regulation ∉ policy.low ∧
      (policy.critical = none ∨ ∃ regulations, policy.critical = some regulations ∧
        regulation ∈ regulations)
  medium_iff : ∀ regulation, policy.priority regulation = .medium ↔
    regulation ∉ policy.low ∧
      ∃ regulations, policy.critical = some regulations ∧ regulation ∉ regulations
  perm : (report.plan policy).Perm ((report.withStatus .failed).map (Remediation.item policy))
  /-- Where every regulation is critical and none is low, the plan is in the order of the
  results. -/
  plan_default : report.plan {} = (report.withStatus .failed).map (Remediation.item {})
  index_default : (report.results.map Assessment.index).Pairwise (· < ·) →
    ((report.plan {}).map RemediationItem.index).Pairwise (· < ·)

theorem plan_default : report.plan {} = (report.withStatus .failed).map (Remediation.item {}) := by
  refine List.mergeSort_of_pairwise ?_
  rw [List.pairwise_map]
  exact List.pairwise_of_forall fun result other => rfl

/-- **Plans are in the order of priorities.** -/
theorem plan_ordered : Ordered policy report where
  plan_eq := by
    rw [plan_eq_flatMap]
    simp only [Priority.all, List.flatMap_cons, List.flatMap_nil, List.append_nil,
      List.append_assoc]
  heading := fun result => ⟨rfl, rfl, rfl, rfl⟩
  low_iff := policy.priority_eq_low_iff
  high_iff := policy.priority_eq_high_iff
  medium_iff := policy.priority_eq_medium_iff
  perm := plan_perm policy report
  plan_default := plan_default report
  index_default := by
    intro hresults
    rw [plan_default, List.map_map]
    have hfailed : (report.withStatus .failed).Sublist report.results := List.filter_sublist
    exact hresults.sublist (hfailed.map Assessment.index)

end Report

end CloudAudit
