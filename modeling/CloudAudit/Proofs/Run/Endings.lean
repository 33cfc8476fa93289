import CloudAudit.Proofs.Run.Agreement

/-!
# Runs over any inventory

An inventory may answer one type in many ways. Its answers then depend on what happens in a run, but
the match policy has no part in it: the policy is applied to replies that were heard, and nothing is
asked or left out on its account. So whatever happens, a run comes to the same endings under every
policy, one for each control in checklist order (`Run.exists_endings`).
-/

namespace CloudAudit

/-! ## Endings -/

/-- How it ended with a control: its task heard all replies, or it died. -/
inductive Ending where
  | heard (task : Task)
  | lost (control : Control) (index : Nat)

namespace Task

/-- Asks for all types of a control at a position. A manual control asks nothing. -/
def ask {m : Type → Type} [Monad m] (query : String → m Reply) (entry : Control × Nat) : m Task :=
  if entry.1.manual then pure ⟨entry.2, entry.1, []⟩
  else do
    let replies ← entry.1.requirements.mapM fun requirement => query requirement.resourceType
    return ⟨entry.2, entry.1, replies⟩

end Task

namespace Ending

/-- What the ending comes to under a policy. -/
def assessment (policy : MatchPolicy) : Ending → Assessment
  | heard task => task.assessment policy
  | lost control index => control.abortedAssessment index

/-- The ending of a control, of which the last task counts that ended. -/
def ofEntry (ended : List Task) (entry : Control × Nat) : Ending :=
  match ended.reverse.find? fun task => task.index == entry.2 with
  | some task => heard task
  | none => lost entry.1 entry.2

end Ending

/-! ## Sequential runs -/

section Sequential

variable {m : Type → Type} [Monad m] [LawfulMonad m]

theorem mapM_map_eq {α β γ : Type} (f : β → γ) (program : α → m β) (inputs : List α) :
    (inputs.mapM fun input => f <$> program input) = List.map f <$> inputs.mapM program := by
  induction inputs with
  | nil => simp
  | cons input rest ih =>
    rw [List.mapM_cons, List.mapM_cons, ih]
    simp only [bind_map_left, map_bind, map_pure, List.map_cons]

theorem Control.validate_eq_ask (query : String → m Reply) (policy : MatchPolicy) (index : Nat)
    (control : Control) :
    control.validate query policy index =
      Task.assessment policy <$> Task.ask query (control, index) := by
  unfold validate Task.ask Task.assessment
  by_cases h : control.manual = true
  · simp [h]
  · simp [h]

theorem Run.sequential_eq_ask (query : String → m Reply) (policy : MatchPolicy)
    (controls : List Control) :
    sequential query policy controls =
      List.map (Task.assessment policy) <$> (numbered controls).mapM (Task.ask query) := by
  rw [← mapM_map_eq]
  exact congrArg (fun program => List.mapM program (numbered controls))
    (funext fun entry => Control.validate_eq_ask query policy entry.2 entry.1)

end Sequential

variable {σ : Type}

theorem run_run_map {α β : Type} (f : α → β) (program : OptionT (StateM σ) α) (state : σ) :
    ((f <$> program).run.run state).1 = (program.run.run state).1.map f := by
  rw [map_eq_pure_bind, run_run_bind]
  rcases program.run.run state with ⟨_ | result, after⟩ <;> rfl

/-! ## Pools -/

namespace Pool

variable {limit : Nat} {query : String → OptionT (StateM σ) Reply} {policy : MatchPolicy}

/-- The pool in which some tasks ended that were assessed under a policy. -/
def under (policy : MatchPolicy) (ended : List Task) (pool : Pool σ) : Pool σ :=
  { pool with finished := ended.map (Task.assessment policy) }

theorem isOver_under (policy : MatchPolicy) (ended : List Task) (pool : Pool σ) :
    (pool.under policy ended).isOver = pool.isOver := rfl

variable (limit query)

theorem run?_cons_eq_bind (event : Event) (rest : List Event) (pool : Pool σ) :
    pool.run? limit query policy (event :: rest) =
      (pool.step? limit query policy event).bind fun next =>
        next.run? limit query policy rest := rfl

theorem exists_advance_under (position : Nat) (task : Task) (pool : Pool σ)
    (ended : List Task) :
    ∃ after : Pool σ × List Task, ∀ policy,
      (pool.under policy ended).advance query policy position task =
        after.1.under policy after.2 := by
  unfold advance
  cases hn : task.next? with
  | none =>
    refine ⟨({ pool with running := pool.running.eraseIdx position }, ended ++ [task]),
      fun policy => ?_⟩
    unfold under
    rw [List.map_append]
    rfl
  | some resourceType =>
    rcases hq : (query resourceType).run.run pool.inventory with ⟨_ | reply, inventory⟩
    · exact ⟨({ pool with inventory }.lose position task, ended),
        fun policy => by unfold under; dsimp only; rw [hq]; rfl⟩
    · exact ⟨({ pool with inventory, running := pool.running.set position (task.hear reply) },
        ended), fun policy => by unfold under; dsimp only; rw [hq]⟩

/-- What an event does to the tasks is the same under every policy. -/
theorem exists_step?_under (event : Event) (pool : Pool σ) (ended : List Task) :
    ∃ after : Option (Pool σ × List Task), ∀ policy,
      (pool.under policy ended).step? limit query policy event =
        after.map fun next => next.1.under policy next.2 := by
  cases event with
  | start =>
    refine ⟨(pool.start? limit).map fun next => (next, ended), fun policy => ?_⟩
    show (pool.under policy ended).start? limit = _
    unfold start? under
    dsimp only
    split
    · rfl
    · split <;> rfl
  | advance position =>
    cases ht : pool.running[position]? with
    | none =>
      refine ⟨none, fun policy => ?_⟩
      show Option.map _ pool.running[position]? = _
      rw [ht]
      rfl
    | some task =>
      obtain ⟨after, hafter⟩ := exists_advance_under query position task pool ended
      refine ⟨some after, fun policy => ?_⟩
      show Option.map _ pool.running[position]? = _
      rw [ht]
      exact congrArg some (hafter policy)
  | die position =>
    refine ⟨pool.running[position]?.map fun task => (pool.lose position task, ended),
      fun policy => ?_⟩
    rw [Option.map_map]
    rfl

theorem exists_run?_under (events : List Event) (pool : Pool σ) (ended : List Task) :
    ∃ after : Option (Pool σ × List Task), ∀ policy,
      (pool.under policy ended).run? limit query policy events =
        after.map fun last => last.1.under policy last.2 := by
  induction events generalizing pool ended with
  | nil => exact ⟨some (pool, ended), fun policy => rfl⟩
  | cons event rest ih =>
    obtain ⟨middle, hmiddle⟩ := exists_step?_under limit query event pool ended
    cases middle with
    | none => exact ⟨none, fun policy => by rw [run?_cons_eq_bind, hmiddle]; rfl⟩
    | some next =>
      obtain ⟨last, hlast⟩ := ih next.1 next.2
      refine ⟨last, fun policy => ?_⟩
      rw [run?_cons_eq_bind, hmiddle]
      exact hlast policy

variable {limit query}

end Pool

/-! ## Assembling endings -/

namespace Run

variable {ended : List Task} {controls : List Control}

theorem slot?_map (policy : MatchPolicy) (ended : List Task) (index : Nat) :
    slot? (ended.map (Task.assessment policy)) index =
      (ended.reverse.find? fun task => task.index == index).map (Task.assessment policy) := by
  unfold slot?
  rw [← List.map_reverse, List.find?_map]
  refine congrArg (fun p => (ended.reverse.find? p).map _) (funext fun task => ?_)
  rw [Function.comp_apply, Task.index_assessment]

theorem assemble_map (policy : MatchPolicy) (controls : List Control) (ended : List Task) :
    assemble controls (ended.map (Task.assessment policy)) =
      ((numbered controls).map (Ending.ofEntry ended)).map (Ending.assessment policy) := by
  unfold assemble
  rw [List.map_map]
  refine List.map_congr_left fun entry _ => ?_
  show (slot? _ entry.2).getD _ = (Ending.ofEntry ended entry).assessment policy
  rw [slot?_map]
  unfold Ending.ofEntry
  split
  · next task htask => rw [htask]; rfl
  · next htask => rw [htask]; rfl

/-! ## Runs -/

/-- The assessments of a run in which some events happen one after the other, if they bring it to
its end. A sequential run goes by itself. -/
def follow? (settings : EngineSettings) (query : String → OptionT (StateM σ) Reply)
    (controls : List Control) (start : σ) (events : List Event) : Option (List Assessment) :=
  if settings.concurrency ≤ 1 then
    ((Run.sequential query settings.matchPolicy controls).run.run start).1
  else
    (((Pool.initial controls start).run? settings.concurrency query settings.matchPolicy
      events).filter Pool.isOver).map (Pool.results controls)

section Follow

variable {settings : EngineSettings} {query : String → OptionT (StateM σ) Reply} {start : σ}

/-- Runs that follow events are the runs that the settings allow. -/
theorem exists_yields_iff {results : List Assessment} :
    (∃ dead, Yields settings query controls start dead results) ↔
      ∃ events, follow? settings query controls start events = some results := by
  constructor
  · rintro ⟨dead, h⟩
    cases h with
    | sequential hc hr => exact ⟨[], (if_pos hc).trans hr⟩
    | @parallel events pool hc hr hover =>
      refine ⟨events, (if_neg (Nat.not_le_of_lt hc)).trans ?_⟩
      rw [hr, Option.filter_some_pos hover]
      rfl
  · rintro ⟨events, h⟩
    unfold follow? at h
    split at h
    · next hc => exact ⟨[], .sequential hc h⟩
    · next hc =>
      obtain ⟨pool, hpool, rfl⟩ := Option.map_eq_some_iff.mp h
      obtain ⟨hr, hover⟩ := Option.filter_eq_some_iff.mp hpool
      exact ⟨pool.dead, .parallel (Nat.lt_of_not_le hc) hr hover⟩

variable (settings query controls start) in
/-- **A run knows no policy.** Whatever happens in a run, it comes to an ending for each control, or
to no end at all, and so it does under every policy. -/
theorem exists_endings (events : List Event) :
    ∃ endings? : Option (List Ending), ∀ policy,
      follow? { settings with matchPolicy := policy } query controls start events =
        endings?.map (List.map (Ending.assessment policy)) := by
  by_cases hc : settings.concurrency ≤ 1
  · refine ⟨((((numbered controls).mapM (Task.ask query)).run.run start).1).map
      (List.map .heard), fun policy => ?_⟩
    refine (if_pos hc).trans ?_
    rw [sequential_eq_ask, run_run_map, Option.map_map]
    refine congrArg (Option.map · _) (funext fun tasks => ?_)
    rw [Function.comp_apply, List.map_map]
    rfl
  · obtain ⟨after, hafter⟩ := Pool.exists_run?_under settings.concurrency query events
      (Pool.initial controls start) []
    refine ⟨(after.filter fun last => last.1.isOver).map fun last =>
      (numbered controls).map (Ending.ofEntry last.2), fun policy => ?_⟩
    refine (if_neg hc).trans ?_
    show Option.map _ (Option.filter _ (Pool.run? settings.concurrency query policy events
      ((Pool.initial controls start).under policy []))) = _
    rw [hafter]
    cases after with
    | none => rfl
    | some last =>
      rw [Option.map_some, Option.filter_some, Option.filter_some, Pool.isOver_under]
      split
      · exact congrArg some (assemble_map policy controls last.2)
      · rfl

end Follow

end Run

end CloudAudit
