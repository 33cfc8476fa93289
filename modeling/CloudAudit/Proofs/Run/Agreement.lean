import CloudAudit.Proofs.Run.Staffing
import CloudAudit.Report.Basic

/-!
# Agreement of runs

A run comes to the same assessments however many controls are assessed at once and in whatever
order the tasks go on, as long as the inventory has one answer for each type. Only a task that dies
makes a difference, and only for its own control (`Agreement`).
-/

namespace CloudAudit.Run

variable {σ : Type} {query : String → OptionT (StateM σ) Reply} {answer : String → Reply}
  {controls : List Control} {start : σ}

/-- What a run under the settings can come to: the positions of the controls whose tasks died, and
the assessments of all controls. -/
inductive Yields (settings : EngineSettings) (query : String → OptionT (StateM σ) Reply)
    (controls : List Control) (start : σ) : List Nat → List Assessment → Prop where
  | sequential {results : List Assessment} (hc : settings.concurrency ≤ 1)
      (hr : ((Run.sequential query settings.matchPolicy controls).run.run start).1 =
        some results) :
      Yields settings query controls start [] results
  | parallel {events : List Event} {pool : Pool σ} (hc : 1 < settings.concurrency)
      (hr : (Pool.initial controls start).run? settings.concurrency query settings.matchPolicy
        events = some pool)
      (hover : pool.isOver = true) :
      Yields settings query controls start pool.dead (pool.results controls)

/-- The run that is carried out is one that the settings allow, and it spares the tasks of manual
controls. -/
theorem exists_yields_assess {settings : EngineSettings} {results : List Assessment}
    (h : ((Run.assess settings query controls).run.run start).1 = some results) :
    ∃ dead, Yields settings query controls start dead results ∧ Spared controls dead := by
  unfold assess at h
  by_cases hc : settings.concurrency ≤ 1
  · rw [if_pos hc] at h
    exact ⟨[], .sequential hc h, fun _ hi => absurd hi List.not_mem_nil⟩
  · rw [if_neg hc] at h
    obtain ⟨events, pool, hevents, hrun, hover, hresults⟩ := Pool.exists_inOrder query
      settings.matchPolicy (Nat.lt_of_lt_of_le Nat.one_pos (Nat.le_of_not_le hc)) controls start
    obtain rfl : pool.results controls = results := hresults.trans (Option.some.inj h)
    exact ⟨pool.dead, .parallel (Nat.lt_of_not_le hc) hrun hover,
      Pool.spared_of_run? hevents hrun⟩

/-- The assessments of a run are decided by the answers and by the tasks that died. -/
theorem Yields.results_eq (hq : Consistent query answer start) {settings : EngineSettings}
    {dead : List Nat} {results : List Assessment}
    (h : Yields settings query controls start dead results) :
    results = (numbered controls).map fun entry =>
      if entry.2 ∈ dead then entry.1.abortedAssessment entry.2
      else Id.run (entry.1.validate answer settings.matchPolicy entry.2) := by
  cases h with
  | sequential hc hr =>
    obtain ⟨-, hvalue⟩ := settles_sequential hq.settles settings.matchPolicy controls start
      ⟨[], rfl⟩
    rw [hvalue results hr, sequential_id]
    exact List.map_congr_left fun entry _ => (if_neg List.not_mem_nil).symm
  | parallel hc hr hover =>
    have hsound := (Pool.sound_initial ⟨[], rfl⟩).run hq.settles hr
    exact hsound.results_eq hover

/-- Parallel runs agree with the sequential one. -/
structure Agreement (query : String → OptionT (StateM σ) Reply) (answer : String → Reply)
    (controls : List Control) (start : σ) : Prop where
  /-- A parallel run can always be brought to its end. -/
  ends (settings : EngineSettings) (hc : 1 < settings.concurrency) {events : List Event}
    {pool : Pool σ}
    (hr : (Pool.initial controls start).run? settings.concurrency query settings.matchPolicy
      events = some pool) :
    ∃ later ended,
      pool.run? settings.concurrency query settings.matchPolicy later = some ended ∧
        ended.isOver = true
  /-- No parallel run goes on forever. -/
  bounded (settings : EngineSettings) {events : List Event} {pool : Pool σ}
    (hr : (Pool.initial controls start).run? settings.concurrency query settings.matchPolicy
      events = some pool) :
    events.length ≤ (Pool.initial controls start).work
  /-- Each control has its entry. -/
  entries (settings : EngineSettings) (hc : 1 < settings.concurrency) {dead : List Nat}
    {results : List Assessment} (h : Yields settings query controls start dead results) :
    results.length = controls.length ∧
      ∀ (index : Nat) (control : Control), controls[index]? = some control →
        results[index]? =
          if index ∈ dead then
            some
              { index, control, status := .error, matched := 0, ruleOutcomes := []
                requirementOutcomes := [], notes := ["Evaluation aborted before completion"] }
          else (Id.run (Run.sequential answer settings.matchPolicy controls))[index]?
  /-- Without a task that dies the whole report is the same. -/
  report (settings other : EngineSettings) (hp : settings.matchPolicy = other.matchPolicy)
    {results others : List Assessment} (h : Yields settings query controls start [] results)
    (ho : Yields other query controls start [] others) (generatedAt : Timestamp)
    (checklist : Option ChecklistMeta) :
    Report.ofResults generatedAt checklist settings.matchPolicy results =
      Report.ofResults generatedAt checklist other.matchPolicy others
  /-- What is carried out is one of the runs. -/
  executed (settings : EngineSettings) {results : List Assessment}
    (h : ((Run.assess settings query controls).run.run start).1 = some results) :
    ∃ dead, Yields settings query controls start dead results

/-- **Parallel equals sequential.** Where every type has one answer, runs agree for every limit and
every order of events. -/
theorem agreement_of_consistent (hq : Consistent query answer start) (controls : List Control) :
    Agreement query answer controls start where
  ends settings hc events pool hr :=
    Pool.exists_over query settings.matchPolicy (Nat.lt_of_succ_lt hc) pool
  bounded settings events pool hr :=
    Nat.le_of_add_right_le (Pool.length_add_work_le hr)
  entries settings hc dead results h := by
    rw [h.results_eq hq, sequential_id]
    refine ⟨by rw [List.length_map, numbered, List.length_zipIdx], fun index control hi => ?_⟩
    have hentry : (numbered controls)[index]? = some (control, index) := by
      rw [numbered, List.getElem?_zipIdx, hi, Nat.zero_add]
      rfl
    rw [List.getElem?_map, List.getElem?_map, hentry]
    by_cases hd : index ∈ dead
    · simp only [Option.map_some, if_pos hd]
      rfl
    · simp only [Option.map_some, if_neg hd]
  report settings other hp results others h ho generatedAt checklist := by
    rw [h.results_eq hq, ho.results_eq hq, hp]
  executed settings results h := (exists_yields_assess h).imp fun _ => And.left

/-! ## Three controls, two at once -/

namespace TwoAtOnce

def checklist : List Control :=
  [{ regulation := "DORA", requirement := "Vaults"
     requirements := [{ resourceType := "vault", required := true }] },
    { regulation := "DORA", requirement := "Training", manual := true },
    { regulation := "GDPR", requirement := "Servers"
      requirements := [{ resourceType := "server" }] }]

def inventory : DelayedStore :=
  { store := { resources := [("vault", [.object [("name", .string "a")]])] } }

/-- The manual control ends before the first one, and the task of the last one dies. -/
def events : List Event := [.start, .start, .advance 1, .start, .die 1, .advance 0, .advance 0]

theorem agreement_checklist :
    Consistent (DelayedStore.query 30) (inventory.replyUnder 30) inventory ∧
      (∃ pool,
        (Pool.initial checklist inventory).run? 2 (DelayedStore.query 30) .any events = some pool ∧
          pool.isOver = true ∧ pool.dead = [2] ∧ pool.finished.map Assessment.index = [1, 0]) ∧
      Agreement (DelayedStore.query 30) (inventory.replyUnder 30) checklist inventory := by
  have hq := DelayedStore.consistent 30 inventory
  refine ⟨hq, ⟨_, rfl, ?_, ?_, ?_⟩, agreement_of_consistent hq checklist⟩ <;> rfl

end TwoAtOnce

end CloudAudit.Run
