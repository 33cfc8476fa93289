import CloudAudit.Proofs.Checklist.Loading
import CloudAudit.Proofs.Report.Bookkeeping
import CloudAudit.Proofs.Report.Headings
import CloudAudit.Proofs.Run.Results

/-!
# The summary of a checklist and the report on it

A checklist is summarized when it is loaded, control by control, and a report result by result when
the run is over. Both count the same controls under the same regulations, whatever the inventory
does and whichever tasks die. They differ in the manual controls whose tasks died, which the report
has among its errors (`Checklist.foretold`). No inventory can bring that about.
-/

namespace CloudAudit

/-! ## Regulations -/

namespace Checklist

/-- The totals under names without the statuses. -/
def totalsOnly (entries : List (String × Totals)) : List (String × Nat) :=
  entries.map fun entry => (entry.1, entry.2.total)

/-- Counting a regulation is recording any status under it. -/
theorem countRegulation_totalsOnly (name : String) (status : Status)
    (entries : List (String × Totals)) :
    countRegulation name (totalsOnly entries) =
      totalsOnly (Report.recordUnder name status entries) := by
  induction entries with
  | nil =>
    have htotal : (Totals.record {} status).total = 1 := Totals.total_record {} status
    unfold totalsOnly Report.recordUnder
    rw [List.map_singleton, htotal]
    rfl
  | cons entry rest ih =>
    obtain ⟨n, totals⟩ := entry
    unfold totalsOnly at ih ⊢
    rw [List.map_cons, countRegulation, Report.recordUnder]
    by_cases h : n = name
    · rw [if_pos h, if_pos h, List.map_cons, Totals.total_record]
    · rw [if_neg h, if_neg h, List.map_cons, ih]

/-- The regulations of a checklist are those of results for its controls. -/
theorem regulations_summary (checklist : Checklist) {results : List Assessment}
    (h : results.map Assessment.control = checklist.controls) :
    checklist.summary.regulations = totalsOnly (Report.regulationTotals results) := by
  unfold summary Report.regulationTotals
  rw [← h, List.foldl_map]
  show results.foldl (fun counts result => countRegulation result.control.regulation counts)
    (totalsOnly []) = _
  refine List.foldl_hom totalsOnly fun entries result => ?_
  exact countRegulation_totalsOnly result.control.regulation result.status entries

/-- A report counts the controls that the summary of a checklist counts. -/
structure Counts (checklist : Checklist) (report : Report) : Prop where
  total_eq : checklist.summary.total = report.totals.total
  length_eq : checklist.summary.total = report.results.length
  controlCount_eq : report.checklist.map ChecklistMeta.controlCount = some checklist.summary.total
  /-- The same regulations in the same order, each with as many controls. -/
  regulations_eq : checklist.summary.regulations =
    report.byRegulation.map fun summary => (summary.regulation, summary.total)

theorem counts_ofResults (checklist : Checklist) {results : List Assessment}
    (h : results.map Assessment.control = checklist.controls) (generatedAt : Timestamp)
    (policy : MatchPolicy) :
    checklist.Counts (.ofResults generatedAt (some checklist.source) policy results) := by
  have hlength : checklist.summary.total = results.length := by
    show checklist.controls.length = _
    rw [← h, List.length_map]
  refine ⟨?_, hlength, rfl, ?_⟩
  · rw [Report.totals_ofResults, Totals.total_ofStatuses, List.length_map]
    exact hlength
  · rw [checklist.regulations_summary h]
    show _ = ((Report.regulationTotals results).map _).map _
    rw [List.map_map]
    rfl

end Checklist

/-! ## Manual controls -/

namespace Run

/-- How many manual controls have a task that died. -/
def lostManual (controls : List Control) (dead : List Nat) : Nat :=
  (numbered controls).countP fun entry => entry.1.manual && decide (entry.2 ∈ dead)

theorem lostManual_of_spared {controls : List Control} {dead : List Nat}
    (h : Spared controls dead) : lostManual controls dead = 0 := by
  refine List.countP_eq_zero.mpr fun entry he hlost => ?_
  obtain ⟨hmanual, hdead⟩ := Bool.and_eq_true_iff.mp hlost
  have hspared := h entry.2 (of_decide_eq_true hdead) entry.1 (mem_numbered_iff.mp he)
  exact Bool.false_ne_true (hspared.symm.trans hmanual)

/-- A manual control is manual in the results, or it is lost. -/
theorem Yields.manual_count {σ : Type} {settings : EngineSettings}
    {query : String → OptionT (StateM σ) Reply} {controls : List Control} {start : σ}
    {dead : List Nat} {results : List Assessment}
    (h : Yields settings query controls start dead results) :
    controls.countP Control.manual =
      (results.countP fun result => result.status = .manual) + lostManual controls dead := by
  have hentries : controls.countP Control.manual =
      (numbered controls).countP fun entry => entry.1.manual := by
    conv_lhs => rw [← List.zipIdx_map_fst 0 controls, List.countP_map]
    rfl
  have hresults : ((numbered controls).countP fun entry =>
      entry.1.manual && !decide (entry.2 ∈ dead)) =
        results.countP fun result => result.status = .manual := by
    refine countP_eq_of_forall₂ (fun entry result htold => ?_) h.forall₂_told
    rw [Bool.and_eq_true_iff, Bool.not_eq_true', decide_eq_false_iff_not, decide_eq_true_eq]
    exact htold.manual_iff.symm
  rw [hentries, List.countP_eq_countP_filter_add _ _ fun entry => decide (entry.2 ∈ dead),
    List.countP_filter, List.countP_filter, hresults, Nat.add_comm]
  rfl

end Run

section Runs

variable {σ : Type}

/-- What the summary of a checklist tells of the reports on it before there is a run. -/
structure Checklist.Foretold (checklist : Checklist) (settings : EngineSettings)
    (query : String → OptionT (StateM σ) Reply) (start : σ) : Prop where
  counts {dead : List Nat} {results : List Assessment}
    (h : Run.Yields settings query checklist.controls start dead results)
    (generatedAt : Timestamp) :
    checklist.Counts
      (.ofResults generatedAt (some checklist.source) settings.matchPolicy results)
  /-- A manual control whose task died has another status. -/
  manual_iff {dead : List Nat} {results : List Assessment}
    (h : Run.Yields settings query checklist.controls start dead results) {index : Nat}
    {result : Assessment} (hr : results[index]? = some result) :
    result.status = .manual ↔ result.control.manual = true ∧ index ∉ dead
  /-- Those are the only manual controls that are lost. -/
  manual_count {dead : List Nat} {results : List Assessment}
    (h : Run.Yields settings query checklist.controls start dead results)
    (generatedAt : Timestamp) :
    checklist.summary.manual =
      (Report.ofResults generatedAt (some checklist.source) settings.matchPolicy
        results).totals.manual + Run.lostManual checklist.controls dead
  manual_eq {dead : List Nat} {results : List Assessment}
    (h : Run.Yields settings query checklist.controls start dead results)
    (hspared : Run.Spared checklist.controls dead) (generatedAt : Timestamp) :
    checklist.summary.manual =
      (Report.ofResults generatedAt (some checklist.source) settings.matchPolicy
        results).totals.manual
  /-- Tasks that die of their queries are not those of manual controls. -/
  spared {events : List Event} {pool : Pool σ} (hevents : ∀ position, .die position ∉ events)
    (hr : (Pool.initial checklist.controls start).run? settings.concurrency query
      settings.matchPolicy events = some pool) :
    Run.Spared checklist.controls pool.dead
  /-- What is carried out is such a run. -/
  executed {results : List Assessment}
    (h : ((Run.assess settings query checklist.controls).run.run start).1 = some results) :
    ∃ dead, Run.Yields settings query checklist.controls start dead results ∧
      Run.Spared checklist.controls dead

theorem Checklist.manual_summary (checklist : Checklist) {settings : EngineSettings}
    {query : String → OptionT (StateM σ) Reply} {start : σ} {dead : List Nat}
    {results : List Assessment}
    (h : Run.Yields settings query checklist.controls start dead results)
    (generatedAt : Timestamp) :
    checklist.summary.manual =
      (Report.ofResults generatedAt (some checklist.source) settings.matchPolicy
        results).totals.manual + Run.lostManual checklist.controls dead := by
  have hcount := Report.count_totals_ofResults generatedAt (some checklist.source)
    settings.matchPolicy results .manual
  exact h.manual_count.trans (congrArg (· + _) hcount.symm)

/-- **The summary foretells the report**, but for the manual controls whose tasks die. -/
theorem Checklist.foretold (checklist : Checklist) (settings : EngineSettings)
    (query : String → OptionT (StateM σ) Reply) (start : σ) :
    checklist.Foretold settings query start where
  counts h generatedAt := checklist.counts_ofResults h.map_control generatedAt settings.matchPolicy
  manual_iff h index result hr := by
    obtain ⟨control, -, htold⟩ := h.told hr
    rw [htold.control_eq]
    exact htold.manual_iff
  manual_count h generatedAt := checklist.manual_summary h generatedAt
  manual_eq h hspared generatedAt := by
    have hcount := checklist.manual_summary h generatedAt
    rwa [Run.lostManual_of_spared hspared] at hcount
  spared hevents hr := Pool.spared_of_run? hevents hr
  executed h := Run.exists_yields_assess h

/-- A task dies of its query, and a manual control is counted as before. -/
example :
    let vaults : Control :=
      { regulation := "DORA", requirement := "Vaults"
        requirements := [{ resourceType := "vault" }] }
    let training : Control := { regulation := "DORA", requirement := "Training", manual := true }
    let checklist : Checklist := { name := "DORA", digest := "", controls := [vaults, training] }
    let inventory : DelayedStore := { store := {}, deadly := ["vault"] }
    ((Run.assess { concurrency := 2 } (DelayedStore.query 30) checklist.controls).run.run
        inventory).1.map (fun results => (Report.ofResults default none .any results).totals) =
      some { error := 1, manual := checklist.summary.manual } := rfl

end Runs

/-! ## A manual control that is lost -/

namespace LostManual

/-- A checklist of one manual control. -/
def text : String :=
  "checklist:\n- reglementation: DORA\n  exigence: Training\n  preuve: p\n  controle: c\n" ++
    "  manual_verification: true\n"

theorem accepted : ∃ checklist, Checklist.parse? "training" text = .ok checklist ∧
    ∃ control, checklist.controls = [control] ∧ control.manual = true := by
  have hread : ((Checklist.entries? text).toOption.bind fun parts =>
      (Checklist.controls? parts.2).toOption.map fun controls => controls.map Control.manual) =
      some [true] := by
    decide +kernel
  obtain ⟨parts, hparts, hread⟩ := Option.bind_eq_some_iff.mp hread
  obtain ⟨controls, hcontrols, hmanual⟩ := Option.map_eq_some_iff.mp hread
  obtain ⟨control, rfl, hmanual⟩ := List.map_eq_singleton_iff.mp hmanual
  rw [toOption_eq_some_iff] at hparts hcontrols
  exact ⟨⟨_, _, [control]⟩,
    (Checklist.parse?_eq_ok_iff "training" hparts).mpr ⟨rfl, rfl, hcontrols⟩,
    control, rfl, List.head_eq_of_cons_eq hmanual⟩

def inventory : DelayedStore := { store := {} }

def ended : Pool DelayedStore := { inventory, waiting := [], dead := [0] }

/-- The checklist is accepted, and the task of its control dies when it has started. The summary
has a manual control, and the report has an error. -/
theorem manual_ne : ∃ checklist, Checklist.parse? "training" text = .ok checklist ∧
    ∃ results, Run.Yields { concurrency := 2 } (DelayedStore.query 30) checklist.controls
        inventory [0] results ∧
      checklist.controls.map Control.manual = [true] ∧
      results.map Assessment.status = [.error] ∧
      checklist.summary.manual = 1 ∧
      (Report.ofResults default (some checklist.source) .any results).totals = { error := 1 } := by
  obtain ⟨checklist, hparse, control, hcontrols, hmanual⟩ := accepted
  refine ⟨checklist, hparse, [control.abortedAssessment 0], ?_, ?_, rfl, ?_, rfl⟩
  · rw [hcontrols]
    have hrun : (Pool.initial [control] inventory).run? 2 (DelayedStore.query 30) .any
        [.start, .die 0] = some ended := rfl
    have hover : ended.isOver = true := rfl
    exact .parallel (Nat.lt_succ_self 1) hrun hover
  · rw [hcontrols, List.map_singleton, hmanual]
  · show checklist.controls.countP Control.manual = 1
    rw [hcontrols, List.countP_singleton, hmanual]
    rfl

end LostManual

end CloudAudit
