import CloudAudit.Proofs.Run.Pool

/-!
# Parallel runs

The assessments of a run that is over are in checklist order, whatever the order in which the tasks
ended: each is what the control gives by itself, or says that the task died (`Sound.results_eq`).
The run that `Run.parallel` carries out, one task after the other, is one of the runs of the pool
(`exists_inOrder`).
-/

namespace CloudAudit

/-! ## Slots -/

namespace Run

theorem slot?_eq_none_iff {finished : List Assessment} {index : Nat} :
    slot? finished index = none ↔ index ∉ finished.map Assessment.index := by
  unfold slot?
  rw [List.find?_eq_none]
  constructor
  · intro h hm
    obtain ⟨result, hr, rfl⟩ := List.mem_map.mp hm
    exact h result (List.mem_reverse.mpr hr) (beq_self_eq_true _)
  · intro h result hr hindex
    exact h (List.mem_map.mpr ⟨result, List.mem_reverse.mp hr, beq_iff_eq.mp hindex⟩)

theorem mem_of_slot?_eq_some {finished : List Assessment} {index : Nat} {result : Assessment}
    (h : slot? finished index = some result) : result ∈ finished ∧ result.index = index := by
  have hindex := List.find?_some h
  exact ⟨List.mem_reverse.mp (List.mem_of_find?_eq_some h), beq_iff_eq.mp hindex⟩

end Run

namespace Pool

variable {σ : Type} {limit : Nat} {query : String → OptionT (StateM σ) Reply}
  {policy : MatchPolicy} {valid : σ → Prop} {answer : String → Reply} {controls : List Control}

theorem isOver_iff {pool : Pool σ} :
    pool.isOver = true ↔ pool.waiting = [] ∧ pool.running = [] := by
  unfold isOver
  rw [Bool.and_eq_true, List.isEmpty_iff, List.isEmpty_iff]

/-- When a run is over, every position is that of a finished control or of a dead task. -/
theorem places_of_isOver {pool : Pool σ} (hover : pool.isOver = true) :
    pool.places = pool.finished.map Assessment.index ++ pool.dead := by
  obtain ⟨hwaiting, hrunning⟩ := isOver_iff.mp hover
  unfold places
  rw [hwaiting, hrunning]
  rfl

section Ended

variable {pool : Pool σ} (h : Sound valid answer policy controls pool)
  (hover : pool.isOver = true)

include h hover

/-- When a run is over, there is an assessment of a control unless its task died, and it is what
the control gives by itself. -/
theorem Sound.slot?_eq {control : Control} {index : Nat}
    (hcontrol : controls[index]? = some control) :
    Run.slot? pool.finished index =
      if index ∈ pool.dead then none
      else some (Id.run (control.validate answer policy index)) := by
  have hplaces := h.places
  rw [places_of_isOver hover] at hplaces
  by_cases hd : index ∈ pool.dead
  · -- no position is there twice, so the position of a dead task is not finished
    obtain ⟨-, -, hapart⟩ := List.nodup_append.mp (hplaces.nodup_iff.mpr List.nodup_range)
    rw [if_pos hd]
    exact Run.slot?_eq_none_iff.mpr fun hm => hapart index hm index hd rfl
  · have hrange := List.mem_range.mpr (List.getElem?_eq_some_iff.mp hcontrol).1
    have hm : index ∈ pool.finished.map Assessment.index :=
      (List.mem_append.mp (hplaces.mem_iff.mpr hrange)).resolve_right hd
    obtain ⟨result, hresult⟩ := Option.ne_none_iff_exists'.mp
      (mt Run.slot?_eq_none_iff.mp (not_not_intro hm))
    obtain ⟨hfinished, rfl⟩ := Run.mem_of_slot?_eq_some hresult
    obtain ⟨other, hother, hvalue⟩ := h.finished result hfinished
    obtain rfl : other = control := Option.some.inj (hother.symm.trans hcontrol)
    rw [hresult, if_neg hd, ← hvalue]

/-- The assessments of a run that is over. -/
theorem Sound.results_eq :
    pool.results controls = (Run.numbered controls).map fun entry =>
      if entry.2 ∈ pool.dead then entry.1.abortedAssessment entry.2
      else Id.run (entry.1.validate answer policy entry.2) := by
  refine List.map_congr_left fun entry he => ?_
  show (Run.slot? pool.finished entry.2).getD _ = _
  rw [h.slot?_eq hover (Run.mem_numbered_iff.mp he)]
  by_cases hd : entry.2 ∈ pool.dead
  · rw [if_pos hd, if_pos hd]
    rfl
  · rw [if_neg hd, if_neg hd]
    rfl

end Ended

end Pool

/-! ## One task after the other -/

/-- What is left of the assessment of a control. -/
def Task.rest {m : Type → Type} [Monad m] (query : String → m Reply) (policy : MatchPolicy)
    (task : Task) : m Assessment :=
  if task.control.manual then pure (task.control.manualAssessment task.index)
  else do
    let replies ← (task.control.requirements.drop task.replies.length).mapM fun requirement =>
      query requirement.resourceType
    return task.control.assess policy task.index (task.replies ++ replies)

section Rest

variable {m : Type → Type} [Monad m] (query : String → m Reply) (policy : MatchPolicy)

theorem Task.rest_fresh (index : Nat) (control : Control) :
    (⟨index, control, []⟩ : Task).rest query policy = control.validate query policy index := rfl

variable [LawfulMonad m]

theorem Task.rest_of_next?_eq_none {task : Task} (hn : task.next? = none) :
    task.rest query policy = pure (task.assessment policy) := by
  unfold rest assessment
  by_cases hm : task.control.manual = true
  · rw [if_pos hm, if_pos hm]
  · have hlength := (next?_eq_none_iff.mp hn).resolve_left hm
    rw [if_neg hm, if_neg hm, List.drop_eq_nil_of_le hlength, List.mapM_nil, pure_bind,
      List.append_nil]

theorem Task.rest_of_next?_eq_some {task : Task} {resourceType : String}
    (hn : task.next? = some resourceType) :
    task.rest query policy =
      query resourceType >>= fun reply => (task.hear reply).rest query policy := by
  obtain ⟨hm, requirement, hr, rfl⟩ := next?_eq_some_iff.mp hn
  obtain ⟨hlt, rfl⟩ := List.getElem?_eq_some_iff.mp hr
  unfold rest hear
  simp only [hm, Bool.false_eq_true, if_false, List.length_append, List.length_singleton]
  rw [← List.getElem_cons_drop hlt, List.mapM_cons]
  simp only [bind_assoc, pure_bind, List.append_assoc, List.singleton_append]

end Rest

namespace Pool

variable {σ : Type} {limit : Nat} {query : String → OptionT (StateM σ) Reply}
  {policy : MatchPolicy}

/-- A pool without tasks under way after the end of the one with an index. -/
def settle (index : Nat) (pool : Pool σ) : Option Assessment × σ → Pool σ
  | (some result, inventory) =>
    { pool with inventory, running := [], finished := pool.finished ++ [result] }
  | (none, inventory) => { pool with inventory, running := [], dead := pool.dead ++ [index] }

theorem run?_cons {event : Event} {events : List Event} {pool middle last : Pool σ}
    (hs : pool.step? limit query policy event = some middle)
    (hr : middle.run? limit query policy events = some last) :
    pool.run? limit query policy (event :: events) = some last :=
  Option.bind_eq_some_iff.mpr ⟨middle, hs, hr⟩

theorem run?_append {events later : List Event} {pool middle last : Pool σ}
    (hs : pool.run? limit query policy events = some middle)
    (hr : middle.run? limit query policy later = some last) :
    pool.run? limit query policy (events ++ later) = some last := by
  unfold run? at *
  rw [List.foldlM_append]
  exact Option.bind_eq_some_iff.mpr ⟨middle, hs, hr⟩

variable (limit query policy)

/-- A task that is alone comes to what is left of its assessment, by itself. -/
theorem exists_events_rest (pool : Pool σ) (task : Task) :
    ∃ events, (∀ position, .die position ∉ events) ∧
      { pool with running := [task] }.run? limit query policy events =
        some (pool.settle task.index ((task.rest query policy).run.run pool.inventory)) := by
  have hstep : { pool with running := [task] }.step? limit query policy (.advance 0) =
      some ({ pool with running := [task] }.advance query policy 0 task) := rfl
  unfold advance at hstep
  cases hn : task.next? with
  | none =>
    rw [hn] at hstep
    rw [Task.rest_of_next?_eq_none query policy hn]
    exact ⟨[.advance 0], by simp, run?_cons hstep rfl⟩
  | some resourceType =>
    rw [hn] at hstep
    rw [Task.rest_of_next?_eq_some query policy hn, run_run_bind]
    dsimp only at hstep
    rcases hq : (query resourceType).run.run pool.inventory with ⟨_ | reply, inventory⟩
    · rw [hq] at hstep
      exact ⟨[.advance 0], by simp, run?_cons hstep rfl⟩
    · have := Task.work_hear_lt hn reply
      obtain ⟨events, hnone, hevents⟩ :=
        exists_events_rest { pool with inventory } (task.hear reply)
      rw [hq] at hstep
      exact ⟨.advance 0 :: events, by simpa using hnone, run?_cons hstep hevents⟩
termination_by task.work

variable {limit}

/-- The waiting controls can be run one after the other. -/
theorem exists_events_waiting (hlimit : 0 < limit) (pool : Pool σ) (hr : pool.running = []) :
    ∃ events ended, (∀ position, .die position ∉ events) ∧
      pool.run? limit query policy events = some ended ∧ ended.isOver = true ∧
      ended.finished = pool.finished ++
        ((pool.waiting.mapM fun (entry : Control × Nat) =>
          (entry.1.validate query policy entry.2).run).run pool.inventory).1.filterMap id := by
  induction hw : pool.waiting generalizing pool with
  | nil => exact ⟨[], pool, by simp, rfl, isOver_iff.mpr ⟨hw, hr⟩, (List.append_nil _).symm⟩
  | cons entry rest ih =>
    obtain ⟨control, index⟩ := entry
    have hstep : pool.step? limit query policy .start =
        some { pool with waiting := rest, running := [⟨index, control, []⟩] } := by
      unfold step? start?
      rw [hw, hr]
      exact if_pos hlimit
    obtain ⟨first, hnone, hfirst⟩ := exists_events_rest limit query policy
      { pool with waiting := rest } ⟨index, control, []⟩
    rw [Task.rest_fresh] at hfirst
    dsimp only at hfirst
    rw [List.mapM_cons, StateT.run_bind]
    rcases hv : (control.validate query policy index).run.run pool.inventory with
      ⟨_ | result, inventory⟩
    · rw [hv] at hfirst
      obtain ⟨events, ended, hlater, hrun, hover, hfinished⟩ :=
        ih { pool with waiting := rest, inventory, running := [], dead := pool.dead ++ [index] }
          rfl rfl
      exact ⟨.start :: (first ++ events), ended, by simp [hnone, hlater],
        run?_cons hstep (run?_append hfirst hrun), hover, hfinished⟩
    · rw [hv] at hfirst
      obtain ⟨events, ended, hlater, hrun, hover, hfinished⟩ := ih
        { pool with
          waiting := rest, inventory, running := [], finished := pool.finished ++ [result] } rfl rfl
      refine ⟨.start :: (first ++ events), ended, by simp [hnone, hlater],
        run?_cons hstep (run?_append hfirst hrun), hover, ?_⟩
      rw [hfinished, List.append_assoc]
      rfl

/-- The tasks one after the other are one of the runs of the pool, in which none is made to die. -/
theorem exists_inOrder (hlimit : 0 < limit) (controls : List Control) (start : σ) :
    ∃ events ended, (∀ position, .die position ∉ events) ∧
      (initial controls start).run? limit query policy events = some ended ∧
      ended.isOver = true ∧
      ended.results controls = ((Run.parallel query policy controls).run start).1 := by
  obtain ⟨events, ended, hnone, hrun, hover, hfinished⟩ :=
    exists_events_waiting query policy hlimit (initial controls start) rfl
  refine ⟨events, ended, hnone, hrun, hover, ?_⟩
  unfold results
  rw [hfinished]
  rfl

end Pool

end CloudAudit
