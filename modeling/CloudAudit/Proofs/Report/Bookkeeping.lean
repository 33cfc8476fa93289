import Mathlib.Data.List.Induction
import CloudAudit.Proofs.Distinct
import CloudAudit.Proofs.Remediation.Ordering

/-!
# Bookkeeping of reports

The totals of a report, the summaries by regulation, the plan and the quick questions about a
report count the same results. The regulations are recorded one result at a time in a list that is
changed in place (`Report.recordUnder`); in the end it holds every regulation once, where it came
first, with the counts of its own results (`regulationTotals_eq`), and everything else follows.
-/

namespace CloudAudit

/-! ## Totals -/

namespace Totals

theorem count_foldl_record (statuses : List Status) (totals : Totals) (status : Status) :
    (statuses.foldl record totals).count status = totals.count status + statuses.count status := by
  induction statuses generalizing totals with
  | nil => rfl
  | cons s rest ih =>
    rw [List.foldl_cons, ih, count_record, List.count_cons]
    simp only [beq_iff_eq]
    omega

theorem count_ofStatuses (statuses : List Status) (status : Status) :
    (ofStatuses statuses).count status = statuses.count status := by
  unfold ofStatuses
  rw [count_foldl_record]
  cases status <;> simp [count]

theorem total_record (totals : Totals) (status : Status) :
    (totals.record status).total = totals.total + 1 := by
  cases status <;> simp only [record, total] <;> omega

theorem total_ofStatuses (statuses : List Status) :
    (ofStatuses statuses).total = statuses.length := by
  have h : ∀ totals : Totals,
      (statuses.foldl record totals).total = totals.total + statuses.length := by
    induction statuses with
    | nil => intro totals; rfl
    | cons s rest ih =>
      intro totals
      rw [List.foldl_cons, ih, total_record, List.length_cons]
      omega
  exact (h {}).trans (Nat.zero_add _)

theorem ofStatuses_append_singleton (statuses : List Status) (status : Status) :
    ofStatuses (statuses ++ [status]) = (ofStatuses statuses).record status := by
  unfold ofStatuses
  rw [List.foldl_append]
  rfl

end Totals

namespace Report

/-! ## Regulations -/

/-- The regulations of results, each where it came first. -/
def regulations (results : List Assessment) : List String :=
  (results.map fun result => result.control.regulation).eraseDups

/-- The results of one regulation. -/
def under (name : String) (results : List Assessment) : List Assessment :=
  results.filter fun result => result.control.regulation = name

theorem mem_regulations {name : String} {results : List Assessment} :
    name ∈ regulations results ↔ ∃ result ∈ results, result.control.regulation = name := by
  unfold regulations
  rw [List.mem_eraseDups, List.mem_map]

theorem map_ite_of_not_mem {names : List String} {name : String} (h : name ∉ names)
    (f g : String → Totals) :
    (names.map fun n => (n, if n = name then f n else g n)) = names.map fun n => (n, g n) := by
  refine List.map_congr_left fun n hn => ?_
  have hne : n ≠ name := fun e => h (e ▸ hn)
  rw [if_neg hne]

/-- Recording changes the totals of one name, or adds the name. -/
theorem recordUnder_map {names : List String} (hn : names.Nodup) (totals : String → Totals)
    (name : String) (status : Status) :
    recordUnder name status (names.map fun n => (n, totals n)) =
      if name ∈ names then
        names.map fun n => (n, if n = name then (totals n).record status else totals n)
      else (names.map fun n => (n, totals n)) ++ [(name, Totals.record {} status)] := by
  induction names with
  | nil => rfl
  | cons n rest ih =>
    obtain ⟨hnot, hrest⟩ := List.nodup_cons.mp hn
    rw [List.map_cons, recordUnder]
    by_cases h : n = name
    · subst h
      rw [if_pos rfl, if_pos List.mem_cons_self, List.map_cons, if_pos rfl,
        map_ite_of_not_mem hnot]
    · rw [if_neg h, ih hrest]
      by_cases hm : name ∈ rest
      · rw [if_pos hm, if_pos (List.mem_cons_of_mem _ hm), List.map_cons, if_neg h]
      · rw [if_neg hm, if_neg (List.not_mem_cons_of_ne_of_not_mem (Ne.symm h) hm),
          List.cons_append]

theorem nodup_regulations (results : List Assessment) : (regulations results).Nodup :=
  nodup_eraseDups _

theorem under_eq_nil {name : String} {results : List Assessment}
    (h : name ∉ regulations results) : under name results = [] := by
  unfold under
  refine List.filter_eq_nil_iff.mpr fun result hr he => h ?_
  exact mem_regulations.mpr ⟨result, hr, of_decide_eq_true he⟩

theorem under_append_singleton (name : String) (results : List Assessment) (result : Assessment) :
    under name (results ++ [result]) =
      under name results ++ if result.control.regulation = name then [result] else [] := by
  unfold under
  by_cases h : result.control.regulation = name <;> simp [h]

/-- **What the recording comes to.** Every regulation is there once, where it came first, with the
totals of its results. -/
theorem regulationTotals_eq (results : List Assessment) :
    regulationTotals results = (regulations results).map fun name =>
      (name, Totals.ofStatuses ((under name results).map Assessment.status)) := by
  induction results using List.reverseRecOn with
  | nil => rfl
  | append_singleton results result ih =>
    have hstep : regulationTotals (results ++ [result]) =
        recordUnder result.control.regulation result.status (regulationTotals results) := by
      unfold regulationTotals
      rw [List.foldl_append]
      rfl
    have hnames : regulations (results ++ [result]) =
        if result.control.regulation ∈ regulations results then regulations results
        else regulations results ++ [result.control.regulation] := by
      unfold regulations
      rw [List.map_append, List.map_singleton, eraseDups_append_singleton]
      simp only [List.mem_eraseDups]
    have htotals : ∀ name,
        Totals.ofStatuses ((under name (results ++ [result])).map Assessment.status) =
          if name = result.control.regulation then
            (Totals.ofStatuses ((under name results).map Assessment.status)).record result.status
          else Totals.ofStatuses ((under name results).map Assessment.status) := by
      intro name
      rw [under_append_singleton]
      by_cases h : result.control.regulation = name
      · rw [if_pos h, if_pos h.symm, List.map_append, List.map_singleton,
          Totals.ofStatuses_append_singleton]
      · rw [if_neg h, if_neg (Ne.symm h), List.append_nil]
    rw [hstep, ih, recordUnder_map (nodup_regulations results), hnames]
    simp only [htotals]
    by_cases hm : result.control.regulation ∈ regulations results
    · rw [if_pos hm, if_pos hm]
    · rw [if_neg hm, if_neg hm, List.map_append, List.map_singleton, if_pos rfl,
        map_ite_of_not_mem hm, under_eq_nil hm]
      rfl

theorem count_under (name : String) (results : List Assessment) (status : Status) :
    ((under name results).map Assessment.status).count status =
      results.countP fun result => result.control.regulation = name ∧ result.status = status := by
  unfold under
  rw [List.count_eq_countP, List.countP_map, List.countP_filter]
  refine List.countP_congr fun result _ => ?_
  simp [and_comm]

theorem under_ne_nil {name : String} {results : List Assessment}
    (h : name ∈ regulations results) : under name results ≠ [] := by
  obtain ⟨result, hr, hn⟩ := mem_regulations.mp h
  exact List.ne_nil_of_mem (List.mem_filter.mpr ⟨hr, decide_eq_true hn⟩)

/-! ## The books -/

/-- Everything that counts the results of a report counts the same. -/
structure Balanced (report : Report) : Prop where
  count_totals : ∀ status,
    report.totals.count status = report.results.countP fun result => result.status = status
  total_totals : report.totals.total = report.results.length
  /-- The regulations of the results, each where it came first. -/
  names : report.byRegulation.map RegulationSummary.regulation =
    (report.results.map fun result => result.control.regulation).eraseDups
  nodup_names : (report.byRegulation.map RegulationSummary.regulation).Nodup
  count_summary : ∀ summary ∈ report.byRegulation, ∀ status,
    summary.totals.count status = report.results.countP fun result =>
      result.control.regulation = summary.regulation ∧ result.status = status
  total_summary : ∀ summary ∈ report.byRegulation,
    summary.total = summary.totals.passed + summary.totals.failed + summary.totals.manual +
      summary.totals.error ∧ 1 ≤ summary.total
  sum_summaries : ∀ status,
    (report.byRegulation.map fun summary => summary.totals.count status).sum =
      report.totals.count status
  regulation?_eq_some_iff : ∀ name summary,
    report.regulation? name = some summary ↔
      summary ∈ report.byRegulation ∧ summary.regulation = name
  regulation?_isSome_iff : ∀ name,
    (report.regulation? name).isSome = true ↔
      ∃ result ∈ report.results, result.control.regulation = name
  pendingReview_eq : report.pendingReview = report.totals.manual
  isCompliant_iff : report.isCompliant = true ↔
    ∀ result ∈ report.results, result.status = .passed ∨ result.status = .manual
  length_plan : ∀ policy, (report.plan policy).length = report.totals.failed

/-- Looking up a name finds the one summary with that name. -/
theorem regulation?_eq_some_iff_of_nodup {report : Report}
    (hn : (report.byRegulation.map RegulationSummary.regulation).Nodup) (name : String)
    (summary : RegulationSummary) :
    report.regulation? name = some summary ↔
      summary ∈ report.byRegulation ∧ summary.regulation = name := by
  unfold regulation?
  constructor
  · intro h
    exact ⟨List.mem_of_find?_eq_some h, by simpa using List.find?_some h⟩
  · rintro ⟨hm, rfl⟩
    cases hf : report.byRegulation.find? fun other => other.regulation == summary.regulation with
    | none =>
      exact absurd (List.find?_eq_none.mp hf summary hm) (by simp)
    | some other =>
      have ho : other.regulation = summary.regulation := by simpa using List.find?_some hf
      rw [List.inj_on_of_nodup_map hn (List.mem_of_find?_eq_some hf) hm ho]

theorem regulation?_isSome_iff_mem {report : Report} {name : String} :
    (report.regulation? name).isSome = true ↔
      name ∈ report.byRegulation.map RegulationSummary.regulation := by
  unfold regulation?
  simp [List.find?_isSome]

section Books

variable (generatedAt : Timestamp) (checklist : Option ChecklistMeta) (matchPolicy : MatchPolicy)
  (results : List Assessment)

theorem totals_ofResults :
    (ofResults generatedAt checklist matchPolicy results).totals =
      Totals.ofStatuses (results.map Assessment.status) := rfl

/-- The summaries of a report, in terms of its results. -/
theorem byRegulation_ofResults :
    (ofResults generatedAt checklist matchPolicy results).byRegulation =
      (regulations results).map fun name => RegulationSummary.ofTotals name
        (Totals.ofStatuses ((under name results).map Assessment.status)) := by
  show (regulationTotals results).map _ = _
  rw [regulationTotals_eq, List.map_map]
  rfl

theorem map_regulation_ofResults :
    (ofResults generatedAt checklist matchPolicy results).byRegulation.map
        RegulationSummary.regulation = regulations results := by
  rw [byRegulation_ofResults, List.map_map]
  exact List.map_id _

/-- A summary of a report is that of one of its regulations. -/
theorem mem_byRegulation_ofResults {summary : RegulationSummary}
    (h : summary ∈ (ofResults generatedAt checklist matchPolicy results).byRegulation) :
    summary.regulation ∈ regulations results ∧
      summary = RegulationSummary.ofTotals summary.regulation
        (Totals.ofStatuses ((under summary.regulation results).map Assessment.status)) := by
  rw [byRegulation_ofResults] at h
  obtain ⟨name, hn, rfl⟩ := List.mem_map.mp h
  exact ⟨hn, rfl⟩

theorem count_totals_ofResults (status : Status) :
    (ofResults generatedAt checklist matchPolicy results).totals.count status =
      results.countP fun result => result.status = status := by
  rw [totals_ofResults, Totals.count_ofStatuses, List.count_eq_countP, List.countP_map]
  rfl

theorem sum_summaries_ofResults (status : Status) :
    ((ofResults generatedAt checklist matchPolicy results).byRegulation.map
        fun summary => summary.totals.count status).sum =
      results.countP fun result => result.status = status := by
  have hk : ∀ result ∈ results, result.control.regulation ∈ regulations results :=
    fun result hr => mem_regulations.mpr ⟨result, hr, rfl⟩
  have hsum := sum_countP_of_keys (nodup_regulations results)
    (fun result : Assessment => result.control.regulation)
    (fun result => decide (result.status = status)) results hk
  rw [byRegulation_ofResults, List.map_map, ← hsum]
  refine congrArg List.sum (List.map_congr_left fun name _ => ?_)
  show (Totals.ofStatuses _).count status = _
  rw [Totals.count_ofStatuses, count_under]
  simp

theorem isCompliant_ofResults :
    (ofResults generatedAt checklist matchPolicy results).isCompliant = true ↔
      ∀ result ∈ results, result.status = .passed ∨ result.status = .manual := by
  have hf := count_totals_ofResults generatedAt checklist matchPolicy results .failed
  have he := count_totals_ofResults generatedAt checklist matchPolicy results .error
  simp only [Totals.count] at hf he
  simp only [isCompliant, hf, he, Bool.and_eq_true, decide_eq_true_eq, List.countP_eq_zero]
  constructor
  · rintro ⟨hfailed, herror⟩ result hr
    cases hs : result.status with
    | passed => exact .inl rfl
    | manual => exact .inr rfl
    | failed => exact absurd hs (hfailed result hr)
    | error => exact absurd hs (herror result hr)
  · intro h
    refine ⟨fun result hr hs => ?_, fun result hr hs => ?_⟩ <;>
      rcases h result hr with h | h <;> rw [hs] at h <;> exact absurd h (by decide)

/-- **The books balance.** -/
theorem balanced_ofResults :
    (ofResults generatedAt checklist matchPolicy results).results = results ∧
      (ofResults generatedAt checklist matchPolicy results).Balanced := by
  have hnames := map_regulation_ofResults generatedAt checklist matchPolicy results
  have hcount := count_totals_ofResults generatedAt checklist matchPolicy results
  have hnodup := hnames ▸ nodup_regulations results
  have hstatus : ∀ status,
      ((ofResults generatedAt checklist matchPolicy results).withStatus status).length =
        (ofResults generatedAt checklist matchPolicy results).totals.count status := by
    intro status
    rw [hcount, List.countP_eq_length_filter]
    rfl
  refine ⟨rfl, hcount, ?_, hnames, hnodup, ?_, ?_, ?_, ?_, ?_, ?_, ?_, ?_⟩
  · show (Totals.ofStatuses (results.map Assessment.status)).total = results.length
    rw [Totals.total_ofStatuses, List.length_map]
  · intro summary hm status
    obtain ⟨-, he⟩ := mem_byRegulation_ofResults generatedAt checklist matchPolicy results hm
    rw [he]
    show (Totals.ofStatuses _).count status = _
    rw [Totals.count_ofStatuses, count_under]
    rfl
  · intro summary hm
    obtain ⟨hn, he⟩ := mem_byRegulation_ofResults generatedAt checklist matchPolicy results hm
    rw [he]
    refine ⟨rfl, ?_⟩
    show 1 ≤ (Totals.ofStatuses _).total
    rw [Totals.total_ofStatuses, List.length_map]
    exact List.length_pos_iff.mpr (under_ne_nil hn)
  · intro status
    rw [sum_summaries_ofResults, hcount]
  · exact regulation?_eq_some_iff_of_nodup hnodup
  · intro name
    exact regulation?_isSome_iff_mem.trans (hnames ▸ mem_regulations)
  · exact hstatus .manual
  · exact isCompliant_ofResults generatedAt checklist matchPolicy results
  · intro policy
    rw [(plan_perm policy _).length_eq, List.length_map]
    exact hstatus .failed

end Books

end Report

end CloudAudit
