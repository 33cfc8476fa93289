import CloudAudit.Proofs.Run.Parallel

/-!
# Pools over any inventory

Whatever an inventory does, what a pool knows of a control is known under the position of the
control, and its result is a manual one just when the control is manual and its task did not die
(`Staffed.told`). A task dies of itself only in a query. A manual control asks nothing, so its task
is spared (`spared_of_run?`).
-/

namespace CloudAudit

/-! ## Results -/

theorem Status.ofOutcomes_ne_manual (outcomes : List RequirementOutcome) :
    Status.ofOutcomes outcomes ≠ .manual := by
  unfold ofOutcomes
  dsimp only
  split
  · nofun
  split
  · nofun
  split <;> nofun

/-- What the result of a control tells whatever the inventory does, where some tasks died. -/
structure Assessment.Told (dead : List Nat) (entry : Control × Nat) (result : Assessment) :
    Prop where
  index_eq : result.index = entry.2
  control_eq : result.control = entry.1
  manual_iff : result.status = .manual ↔ entry.1.manual = true ∧ entry.2 ∉ dead

section Told

variable {policy : MatchPolicy} {index : Nat} {control : Control}

theorem Control.told_manualAssessment (h : control.manual = true) :
    (control.manualAssessment index).Told [] (control, index) :=
  ⟨rfl, rfl, iff_of_true rfl ⟨h, List.not_mem_nil⟩⟩

theorem Control.told_assess (h : ¬control.manual = true) (replies : List Reply) :
    (control.assess policy index replies).Told [] (control, index) :=
  ⟨rfl, rfl, iff_of_false (Status.ofOutcomes_ne_manual _) fun hm => h hm.1⟩

theorem Control.told_abortedAssessment {dead : List Nat} (h : index ∈ dead) :
    (control.abortedAssessment index).Told dead (control, index) :=
  ⟨rfl, rfl, iff_of_false nofun fun hm => hm.2 h⟩

theorem Assessment.Told.spared {entry : Control × Nat} {result : Assessment}
    (h : result.Told [] entry) {dead : List Nat} (hd : entry.2 ∉ dead) : result.Told dead entry :=
  ⟨h.index_eq, h.control_eq, h.manual_iff.trans (and_congr_right fun _ =>
    iff_of_true List.not_mem_nil hd)⟩

theorem Task.told_assessment (policy : MatchPolicy) (task : Task) :
    (task.assessment policy).Told [] (task.control, task.index) := by
  unfold assessment
  split
  · next h => exact Control.told_manualAssessment h
  · next h => exact Control.told_assess h _

variable {σ : Type} {query : String → OptionT (StateM σ) Reply}

theorem Control.told_of_validate {state : σ} {result : Assessment}
    (h : ((control.validate query policy index).run.run state).1 = some result) :
    result.Told [] (control, index) := by
  unfold validate at h
  split at h
  · next hm =>
    obtain rfl := Option.some.inj h
    exact told_manualAssessment hm
  · next hm =>
    rw [run_run_bind] at h
    split at h
    · obtain rfl := Option.some.inj h
      exact told_assess hm _
    · exact nomatch h

end Told

variable {σ : Type}

/-! ## Pools -/

/-- No task of a manual control died. -/
def Run.Spared (controls : List Control) (dead : List Nat) : Prop :=
  ∀ index ∈ dead, ∀ control, controls[index]? = some control → control.manual = false

namespace Pool

variable {limit : Nat} {query : String → OptionT (StateM σ) Reply} {policy : MatchPolicy}
  {controls : List Control}

/-- Everything that is known of a control in a pool is known under its own position. -/
structure Staffed (controls : List Control) (pool : Pool σ) : Prop where
  places : pool.places.Perm (List.range controls.length)
  waiting : ∀ entry ∈ pool.waiting, entry ∈ Run.numbered controls
  running : ∀ task ∈ pool.running, (task.control, task.index) ∈ Run.numbered controls
  finished : ∀ result ∈ pool.finished, ∃ entry ∈ Run.numbered controls, result.Told [] entry

theorem staffed_initial (controls : List Control) (start : σ) :
    Staffed controls (initial controls start) where
  places := by
    show (controls.zipIdx.map Prod.snd ++ []).Perm _
    rw [List.append_nil, List.zipIdx_map_snd, List.range_eq_range']
  waiting _ he := he
  running _ h := nomatch h
  finished _ h := nomatch h

theorem Staffed.lose {pool : Pool σ} (h : Staffed controls pool) {position : Nat} {task : Task}
    (ht : pool.running[position]? = some task) (inventory : σ) :
    Staffed controls ({ pool with inventory }.lose position task) where
  places := (@places_lose σ { pool with inventory } position task ht).trans h.places
  waiting := h.waiting
  running other ho := h.running other (List.mem_of_mem_eraseIdx ho)
  finished := h.finished

theorem Staffed.step {pool next : Pool σ} (h : Staffed controls pool)
    (hs : Step limit query policy pool next) : Staffed controls next := by
  have hplaces := hs.places_perm.trans h.places
  cases hs with
  | @start control index rest hw hl =>
    refine ⟨hplaces, fun entry he => h.waiting entry (hw ▸ List.mem_cons_of_mem _ he),
      fun task ht => ?_, h.finished⟩
    rcases List.mem_append.mp ht with ht | ht
    · exact h.running task ht
    · obtain rfl := List.mem_singleton.mp ht
      exact h.waiting (control, index) (hw ▸ List.mem_cons_self)
  | @hear position task resourceType reply inventory ht hn hr =>
    refine ⟨hplaces, h.waiting, fun other ho => ?_, h.finished⟩
    rcases List.mem_or_eq_of_mem_set ho with ho | rfl
    · exact h.running other ho
    · exact h.running task (List.mem_of_getElem? ht)
  | @finish position task ht hn =>
    refine ⟨hplaces, h.waiting, fun other ho => h.running other (List.mem_of_mem_eraseIdx ho),
      fun result hr => ?_⟩
    rcases List.mem_append.mp hr with hr | hr
    · exact h.finished result hr
    · obtain rfl := List.mem_singleton.mp hr
      exact ⟨_, h.running task (List.mem_of_getElem? ht), task.told_assessment policy⟩
  | die ht => exact h.lose ht pool.inventory
  | endedByQuery ht hr => exact h.lose ht _

theorem Staffed.run {events : List Event} {pool last : Pool σ} (h : Staffed controls pool)
    (hr : pool.run? limit query policy events = some last) : Staffed controls last :=
  preserved (fun _ _ _ _ hstaffed hs => hstaffed.step (step_of_step? hs)) h hr

/-- The result of a control when a run is over. -/
theorem Staffed.told {pool : Pool σ} (h : Staffed controls pool) (hover : pool.isOver = true)
    {entry : Control × Nat} (he : entry ∈ Run.numbered controls) :
    ((Run.slot? pool.finished entry.2).getD (entry.1.abortedAssessment entry.2)).Told pool.dead
      entry := by
  have hplaces := h.places
  rw [places_of_isOver hover] at hplaces
  have hcontrol := Run.mem_numbered_iff.mp he
  cases hslot : Run.slot? pool.finished entry.2 with
  | none =>
    have hrange := List.mem_range.mpr (List.getElem?_eq_some_iff.mp hcontrol).1
    exact Control.told_abortedAssessment ((List.mem_append.mp (hplaces.mem_iff.mpr
      hrange)).resolve_left (Run.slot?_eq_none_iff.mp hslot))
  | some result =>
    obtain ⟨hfinished, hindex⟩ := Run.mem_of_slot?_eq_some hslot
    obtain ⟨other, hother, htold⟩ := h.finished result hfinished
    have hposition : other.2 = entry.2 := htold.index_eq.symm.trans hindex
    have hsame := Run.mem_numbered_iff.mp hother
    rw [hposition, hcontrol] at hsame
    obtain rfl : entry = other := Prod.ext (Option.some.inj hsame) hposition.symm
    -- no position is there twice, so that of a finished result is not dead
    obtain ⟨-, -, hapart⟩ := List.nodup_append.mp (hplaces.nodup_iff.mpr List.nodup_range)
    exact htold.spared fun hd => hapart _ (List.mem_map.mpr ⟨result, hfinished, hindex⟩) _ hd rfl

/-- A manual control asks nothing, so there is no query in which its task could die. -/
theorem spared_of_step? {pool next : Pool σ} (h : Run.Spared controls pool.dead)
    (hstaffed : Staffed controls pool) {event : Event}
    (hevent : ∀ position, event ≠ .die position)
    (hs : pool.step? limit query policy event = some next) : Run.Spared controls next.dead := by
  cases event with
  | die position => exact absurd rfl (hevent position)
  | start =>
    simp only [step?, start?] at hs
    split at hs
    · cases hs
    · split at hs
      · obtain rfl := Option.some.inj hs
        exact h
      · cases hs
  | advance position =>
    obtain ⟨task, ht, rfl⟩ := Option.map_eq_some_iff.mp hs
    unfold advance
    cases hn : task.next? with
    | none => exact h
    | some resourceType =>
      dsimp only
      rcases (query resourceType).run.run pool.inventory with ⟨_ | reply, inventory⟩
      · intro index hi control hcontrol
        rcases List.mem_append.mp hi with hi | hi
        · exact h index hi control hcontrol
        · obtain rfl := List.mem_singleton.mp hi
          have hown := Run.mem_numbered_iff.mp (hstaffed.running task (List.mem_of_getElem? ht))
          obtain rfl : task.control = control := Option.some.inj (hown.symm.trans hcontrol)
          exact (Task.next?_eq_some_iff.mp hn).1
      · exact h

/-- In a run in which no task is made to die the tasks of manual controls are spared. -/
theorem spared_of_run? {events : List Event} {start : σ} {last : Pool σ}
    (hevents : ∀ position, .die position ∉ events)
    (hr : (initial controls start).run? limit query policy events = some last) :
    Run.Spared controls last.dead := by
  have hkept : Staffed controls last ∧ Run.Spared controls last.dead := by
    refine preserved (P := fun pool => Staffed controls pool ∧ Run.Spared controls pool.dead)
      (fun event he before after h hs => ⟨?_, ?_⟩)
      ⟨staffed_initial controls start, fun _ hi => absurd hi List.not_mem_nil⟩ hr
    · exact h.1.step (step_of_step? hs)
    · exact spared_of_step? h.2 h.1 (fun position hdie => hevents position (hdie ▸ he)) hs
  exact hkept.2

end Pool

end CloudAudit
