import CloudAudit.Assessment.Control
import CloudAudit.Proofs.Infix
import CloudAudit.Proofs.Remediation.PlanText
import CloudAudit.Proofs.Report.Bookkeeping
import CloudAudit.Proofs.Template.Standard

/-!
# The all-clear of a remediation plan

The text of a plan without items says that all checks passed or require manual verification. A plan
has no items when no control failed, so the sentence is also there when controls could not be
assessed (`all_clear`). In the text of any other plan it is there only where an item quotes it: the
fixed parts of the text have no `k`, and a break cuts them off from the texts of the items.
-/

namespace CloudAudit

/-! ## Where the sentence stands -/

/-- A sentence stands in one of the texts of an item. -/
def RemediationItem.Quotes (item : RemediationItem) (sentence : String) : Prop :=
  Text.contains item.regulation sentence = true ∨
    Text.contains item.requirement sentence = true ∨ Text.contains item.action sentence = true

namespace Remediation

/-- What the text of a plan without items says. -/
def allClear : String := "All checks passed or require manual verification."

theorem contains_clearText : Text.contains clearText allClear = true := by
  decide +kernel

/-- No part of a plan has a `k` but the texts of its items. -/
theorem not_infix_of_k_not_mem {hay : List Char} (h : 'k' ∉ hay) :
    ¬ allClear.toList <:+: hay :=
  not_infix_of_not_mem (c := 'k') (by decide) h

/-- The sentence stops at the breaks of a plan. -/
theorem infix_break_iff {c : Char} (hc : c ∈ ['\n', '[', ']', ':']) (front rest : List Char) :
    allClear.toList <:+: front ++ c :: rest ↔
      allClear.toList <:+: front ∨ allClear.toList <:+: rest :=
  have h : ∀ c ∈ ['\n', '[', ']', ':'], c ∉ allClear.toList := by simp [allClear]
  infix_append_cons_iff (h c hc) front rest

theorem infix_blank_iff (rest : List Char) :
    allClear.toList <:+: ' ' :: rest ↔ allClear.toList <:+: rest :=
  infix_cons_iff_of_head?_ne (by decide) (by decide) rest

theorem k_not_mem_toString (n : Nat) : 'k' ∉ (toString n).toList := by
  rw [Nat.toString_eq_repr, Nat.repr_eq_ofList_toDigits, String.toList_ofList]
  intro h
  exact absurd (Nat.isDigit_of_mem_toDigits (by decide) (by decide) h) (by decide)

theorem infix_itemText (position : Nat) (item : RemediationItem) (rest : List Char) :
    allClear.toList <:+: (itemText position item).toList ++ rest ↔
      item.Quotes allClear ∨ allClear.toList <:+: rest := by
  have hparts : (itemText position item).toList ++ rest =
      [] ++ '\n' :: (((toString (position + 1)).toList ++ ['.', ' ']) ++ '[' ::
        (item.priority.label.toList ++ ']' :: ' ' ::
          (item.regulation.toList ++ ':' :: ' ' ::
            (item.requirement.toList ++ '\n' :: ("   Action".toList ++ ':' :: ' ' ::
              (item.action.toList ++ '\n' :: rest)))))) := by
    simp [itemText]
  have hnumber : ¬ allClear.toList <:+: (toString (position + 1)).toList ++ ['.', ' '] := by
    refine not_infix_of_k_not_mem fun h => ?_
    rcases List.mem_append.mp h with h | h
    · exact k_not_mem_toString _ h
    · exact absurd h (by decide)
  have hpriority : ¬ allClear.toList <:+: item.priority.label.toList :=
    not_infix_of_k_not_mem (by cases item.priority <;> decide)
  have haction : ¬ allClear.toList <:+: "   Action".toList := not_infix_of_k_not_mem (by decide)
  have hnothing : ¬ allClear.toList <:+: [] := not_infix_of_k_not_mem List.not_mem_nil
  have hline := infix_break_iff (c := '\n') (by decide)
  have hopen := infix_break_iff (c := '[') (by decide)
  have hclose := infix_break_iff (c := ']') (by decide)
  have hcolon := infix_break_iff (c := ':') (by decide)
  rw [hparts, hline, hopen, hclose, infix_blank_iff, hcolon, infix_blank_iff, hline, hcolon,
    infix_blank_iff, hline]
  simp only [hnumber, hpriority, haction, hnothing, RemediationItem.Quotes, Text.contains,
    Text.occursIn_iff, false_or, or_assoc]

theorem k_not_mem_adviceText (position : Nat) {advice : String} (h : 'k' ∉ advice.toList) :
    'k' ∉ (adviceText position advice).toList := by
  simp only [adviceText, String.toList_append, List.mem_append, not_or]
  exact ⟨⟨⟨k_not_mem_toString _, by decide⟩, h⟩, by decide⟩

theorem k_not_mem_advised : 'k' ∉ advised.toList := by
  have h : ∀ advice ∈ recommended, 'k' ∉ advice.toList := by decide
  unfold advised
  rw [String.toList_join, List.mem_flatMap]
  rintro ⟨text, ht, hk⟩
  obtain ⟨position, hp, rfl⟩ := List.mem_mapIdx.mp ht
  exact k_not_mem_adviceText position (h _ (List.getElem_mem hp)) hk

/-- The text of a plan with items does not say it of its own. -/
theorem contains_planText (items : List RemediationItem) :
    Text.contains (planText items) allClear = true ↔ ∃ item ∈ items, item.Quotes allClear := by
  have hlisted : (listed items).toList =
      items.zipIdx.flatMap fun entry => (itemText entry.2 entry.1).toList := by
    unfold listed
    rw [String.toList_join, List.mapIdx_eq_zipIdx_map, List.flatMap_map]
  have hparts : (planText items).toList =
      ("Remediation Plan (".toList ++ (toString items.length).toList ++
        " failed controls)".toList) ++ '\n' ::
        ((listed items).toList ++ ("\nRecommended Actions:\n".toList ++ advised.toList)) := by
    unfold planText
    simp
  have hheading : ¬ allClear.toList <:+: "Remediation Plan (".toList ++
      (toString items.length).toList ++ " failed controls)".toList := by
    refine not_infix_of_k_not_mem ?_
    simp only [List.mem_append, not_or]
    exact ⟨⟨by decide, k_not_mem_toString _⟩, by decide⟩
  have hclosing : ¬ allClear.toList <:+: "\nRecommended Actions:\n".toList ++ advised.toList := by
    refine not_infix_of_k_not_mem ?_
    rw [List.mem_append, not_or]
    exact ⟨by decide, k_not_mem_advised⟩
  have hline := infix_break_iff (c := '\n') (by decide)
  have hentries := infix_flatMap_append_iff
    (fun entry : RemediationItem × Nat => infix_itemText entry.2 entry.1) items.zipIdx
    ("\nRecommended Actions:\n".toList ++ advised.toList)
  have hsaid : Text.contains (planText items) allClear = true ↔
      ∃ entry ∈ items.zipIdx, entry.1.Quotes allClear := by
    unfold Text.contains
    rw [Text.occursIn_iff, hparts, hline, or_iff_right hheading, hlisted, hentries,
      or_iff_left hclosing]
  rw [hsaid]
  -- the number of an item does not count
  constructor
  · rintro ⟨entry, he, hq⟩
    exact ⟨entry.1, List.fst_mem_of_mem_zipIdx he, hq⟩
  · rintro ⟨item, hi, hq⟩
    obtain ⟨position, hp, rfl⟩ := List.mem_iff_getElem.mp hi
    exact ⟨(items[position], position), List.mem_zipIdx_iff_getElem?.mpr
      (List.getElem?_eq_getElem hp), hq⟩

theorem contains_text_iff (items : List RemediationItem) :
    Text.contains (if items.isEmpty then clearText else planText items) allClear = true ↔
      items = [] ∨ ∃ item ∈ items, item.Quotes allClear := by
  cases items with
  | nil => exact iff_of_true contains_clearText (.inl rfl)
  | cons item rest =>
    rw [List.isEmpty_cons, if_neg Bool.false_ne_true, contains_planText,
      or_iff_right (List.cons_ne_nil item rest)]

end Remediation

/-! ## The all-clear -/

/-- What the sentence in the text of a plan tells about the report. -/
structure Clearance (report : Report) (policy : RemediationPolicy) (text : String) : Prop where
  /-- The sentence is there when no control failed, or when it is quoted. -/
  said_iff : Text.contains text Remediation.allClear = true ↔
    report.withStatus .failed = [] ∨
      ∃ result ∈ report.withStatus .failed,
        (Remediation.item policy result).Quotes Remediation.allClear
  /-- It is wrong when a control could not be assessed, or when it is quoted. -/
  wrong_iff : (Text.contains text Remediation.allClear = true ∧ report.isCompliant = false) ↔
    (report.withStatus .failed = [] ∧ report.withStatus .error ≠ []) ∨
      ∃ result ∈ report.withStatus .failed,
        (Remediation.item policy result).Quotes Remediation.allClear

namespace Report

theorem plan_eq_nil_iff (report : Report) (policy : RemediationPolicy) :
    report.plan policy = [] ↔ report.withStatus .failed = [] := by
  rw [← List.perm_nil, (report.plan_perm policy).congr_left, List.perm_nil, List.map_eq_nil_iff]

/-- The items of a plan quote what the failed results quote. -/
theorem exists_mem_plan_iff (report : Report) (policy : RemediationPolicy)
    (property : RemediationItem → Prop) :
    (∃ item ∈ report.plan policy, property item) ↔
      ∃ result ∈ report.withStatus .failed, property (Remediation.item policy result) := by
  simp only [(report.plan_perm policy).mem_iff, List.mem_map, exists_exists_and_eq_and]

theorem isCompliant_ofResults_eq_false_iff (generatedAt : Timestamp)
    (checklist : Option ChecklistMeta) (matchPolicy : MatchPolicy) (results : List Assessment) :
    (ofResults generatedAt checklist matchPolicy results).isCompliant = false ↔
      (ofResults generatedAt checklist matchPolicy results).withStatus .failed ≠ [] ∨
        (ofResults generatedAt checklist matchPolicy results).withStatus .error ≠ [] := by
  have hf := count_totals_ofResults generatedAt checklist matchPolicy results .failed
  have he := count_totals_ofResults generatedAt checklist matchPolicy results .error
  simp only [Totals.count, List.countP_eq_length_filter] at hf he
  simp only [isCompliant, hf, he, Bool.and_eq_false_iff, decide_eq_false_iff_not,
    List.length_eq_zero_iff]
  exact Iff.rfl

end Report

/-- **The all-clear.** The standard template, as it is read from its text, makes a text of every
plan, and it says that all is clear whenever no control failed, whatever could not be assessed. -/
theorem all_clear (generatedAt : Timestamp) (checklist : Option ChecklistMeta)
    (matchPolicy : MatchPolicy) (results : List Assessment) (policy : RemediationPolicy) :
    let report := Report.ofResults generatedAt checklist matchPolicy results
    Template.read? Templates.remediationSource.text = some Templates.remediation ∧
      ∃ text, Templates.standard.remediation? (report.plan policy) = some text ∧
        Clearance report policy text := by
  intro report
  refine ⟨Templates.read?_remediationSource, _, Remediation.remediation?_standard _, ?_⟩
  have hsaid := Remediation.contains_text_iff (report.plan policy)
  rw [report.plan_eq_nil_iff, report.exists_mem_plan_iff] at hsaid
  refine ⟨hsaid, ?_⟩
  rw [hsaid, Report.isCompliant_ofResults_eq_false_iff]
  constructor
  · rintro ⟨hnone | hquoted, hcompliant⟩
    · exact .inl ⟨hnone, hcompliant.resolve_left (not_not_intro hnone)⟩
    · exact .inr hquoted
  · rintro (⟨hnone, herror⟩ | ⟨result, hr, hq⟩)
    · exact ⟨.inl hnone, .inr herror⟩
    · exact ⟨.inr ⟨result, hr, hq⟩, .inl (List.ne_nil_of_mem hr)⟩

/-! ## A control that could not be assessed -/

namespace Unassessed

def vaults : Control :=
  { regulation := "DORA", requirement := "Vaults"
    requirements := [{ resourceType := "vault", required := true }] }

/-- The report of a run whose only query failed. -/
def report : Report :=
  Report.ofResults default none .any
    [Id.run (vaults.validate (fun _ => .error (.auth "token expired")) .any 0)]

theorem all_clear_unassessed :
    report.results.map Assessment.status = [.error] ∧ report.isCompliant = false ∧
      ∃ text, Templates.standard.remediation? (report.plan {}) = some text ∧
        Text.contains text Remediation.allClear = true := by
  refine ⟨rfl, rfl, Remediation.clearText, ?_, Remediation.contains_clearText⟩
  have hplan : report.plan {} = [] := (report.plan_eq_nil_iff {}).mpr rfl
  rw [hplan]
  exact Remediation.remediation?_standard []

end Unassessed

end CloudAudit
