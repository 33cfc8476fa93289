import CloudAudit.Assessment.Pool
import CloudAudit.Proofs.Run.Settled
import Mathlib.Algebra.BigOperators.Group.List.Basic
import Mathlib.Algebra.GroupWithZero.Nat
import Mathlib.Data.List.Perm.Basic
import Mathlib.Data.List.Perm.Lattice

/-!
# What a pool does

`Step` says once what one event can do to a pool. From it follow the two facts about whole runs:
every control stays in one place, with replies and assessments that are those of the answers
(`Sound.run`), and every event uses up work, so that each run comes to an end (`exists_over`).
-/

namespace CloudAudit

theorem Run.mem_numbered_iff {controls : List Control} {control : Control} {index : Nat} :
    (control, index) ∈ numbered controls ↔ controls[index]? = some control :=
  List.mem_zipIdx_iff_getElem?

namespace Task

variable {task : Task} {answer : String → Reply}

/-- The replies are the answers for the first requirements. -/
def Heard (answer : String → Reply) (task : Task) : Prop :=
  task.replies <+: task.control.requirements.map fun requirement =>
    answer requirement.resourceType

/-- How many events the task has before it, if it is not lost. -/
def work (task : Task) : Nat :=
  task.control.requirements.length - task.replies.length + 1

theorem next?_eq_some_iff {resourceType : String} :
    task.next? = some resourceType ↔
      task.control.manual = false ∧
        ∃ requirement, task.control.requirements[task.replies.length]? = some requirement ∧
          requirement.resourceType = resourceType := by
  unfold next?
  by_cases h : task.control.manual = true
  · simp [h]
  · simp [h, Option.map_eq_some_iff]

theorem next?_eq_none_iff :
    task.next? = none ↔
      task.control.manual = true ∨
        task.control.requirements.length ≤ task.replies.length := by
  unfold next?
  by_cases h : task.control.manual = true
  · simp [h]
  · simp [h]

theorem Heard.hear {resourceType : String} (h : task.Heard answer)
    (hn : task.next? = some resourceType) : (task.hear (answer resourceType)).Heard answer := by
  obtain ⟨-, requirement, hr, rfl⟩ := next?_eq_some_iff.mp hn
  obtain ⟨rest, hrest⟩ := h
  have hnext : rest[0]? = some (answer requirement.resourceType) := by
    have hat : (task.replies ++ rest)[task.replies.length]? = rest[0]? := by
      rw [List.getElem?_append_right (Nat.le_refl _), Nat.sub_self]
    rw [← hat, hrest, List.getElem?_map, hr]
    rfl
  obtain ⟨first, later, rfl⟩ : ∃ first later, rest = first :: later := by
    cases rest with
    | nil => exact nomatch hnext
    | cons first later => exact ⟨first, later, rfl⟩
  obtain rfl : first = _ := Option.some.inj hnext
  refine ⟨later, ?_⟩
  show task.replies ++ [_] ++ later = _
  rw [List.append_assoc]
  exact hrest

theorem index_assessment (policy : MatchPolicy) (task : Task) :
    (task.assessment policy).index = task.index := by
  unfold assessment
  split <;> rfl

/-- A task with nothing to ask ends with the assessment of its control. -/
theorem Heard.assessment_eq (h : task.Heard answer) (hn : task.next? = none)
    (policy : MatchPolicy) :
    task.assessment policy =
      Id.run (task.control.validate answer policy task.index) := by
  rw [Control.validate_id]
  unfold assessment
  by_cases hm : task.control.manual = true
  · rw [if_pos hm, if_pos hm]
  · have hlength := (next?_eq_none_iff.mp hn).resolve_left hm
    rw [if_neg hm, if_neg hm, List.IsPrefix.eq_of_length_le h (by simpa using hlength)]

theorem work_hear_lt {resourceType : String} (hn : task.next? = some resourceType)
    (reply : Reply) : (task.hear reply).work < task.work := by
  obtain ⟨-, requirement, hr, -⟩ := next?_eq_some_iff.mp hn
  obtain ⟨hlt, -⟩ := List.getElem?_eq_some_iff.mp hr
  simp only [work, hear, List.length_append, List.length_singleton]
  omega

end Task

namespace Pool

variable {σ : Type} {limit : Nat} {query : String → OptionT (StateM σ) Reply}
  {policy : MatchPolicy}

/-! ## Steps -/

/-- Everything that one event can do to a pool. -/
inductive Step (limit : Nat) (query : String → OptionT (StateM σ) Reply) (policy : MatchPolicy)
    (pool : Pool σ) : Pool σ → Prop where
  | start {control : Control} {index : Nat} {rest : List (Control × Nat)}
      (hw : pool.waiting = (control, index) :: rest) (hl : pool.running.length < limit) :
      Step limit query policy pool
        { pool with waiting := rest, running := pool.running ++ [{ index, control }] }
  | hear {position : Nat} {task : Task} {resourceType : String} {reply : Reply} {inventory : σ}
      (ht : pool.running[position]? = some task) (hn : task.next? = some resourceType)
      (hq : (query resourceType).run.run pool.inventory = (some reply, inventory)) :
      Step limit query policy pool
        { pool with inventory, running := pool.running.set position (task.hear reply) }
  | finish {position : Nat} {task : Task} (ht : pool.running[position]? = some task)
      (hn : task.next? = none) :
      Step limit query policy pool
        { pool with
          running := pool.running.eraseIdx position
          finished := pool.finished ++ [task.assessment policy] }
  | die {position : Nat} {task : Task} (ht : pool.running[position]? = some task) :
      Step limit query policy pool (pool.lose position task)
  | endedByQuery {position : Nat} {task : Task} {resourceType : String} {inventory : σ}
      (ht : pool.running[position]? = some task)
      (hq : (query resourceType).run.run pool.inventory = (none, inventory)) :
      Step limit query policy pool ({ pool with inventory }.lose position task)

theorem step_of_step? {event : Event} {pool next : Pool σ}
    (h : pool.step? limit query policy event = some next) :
    Step limit query policy pool next := by
  cases event with
  | start =>
    simp only [step?, start?] at h
    split at h
    · exact nomatch h
    · next control index rest hw =>
      split at h
      · next hl =>
        obtain rfl := Option.some.inj h
        exact .start hw hl
      · exact nomatch h
  | advance position =>
    obtain ⟨task, ht, rfl⟩ := Option.map_eq_some_iff.mp h
    unfold advance
    split
    · next hn => exact .finish ht hn
    · next resourceType hn =>
      split
      · next reply inventory hq => exact .hear ht hn hq
      · next inventory hq => exact .endedByQuery ht hq
  | die position =>
    obtain ⟨task, ht, rfl⟩ := Option.map_eq_some_iff.mp h
    exact .die ht

/-- What every step preserves, a run preserves. -/
theorem preserved {P : Pool σ → Prop} {events : List Event}
    (hstep : ∀ event ∈ events, ∀ before after,
      P before → before.step? limit query policy event = some after → P after)
    {pool last : Pool σ} (h : P pool) (hr : pool.run? limit query policy events = some last) :
    P last := by
  induction events generalizing pool with
  | nil =>
    obtain rfl : pool = last := Option.some.inj hr
    exact h
  | cons event rest ih =>
    obtain ⟨middle, hfirst, hrest⟩ := Option.bind_eq_some_iff.mp hr
    refine ih (fun other ho => hstep other (List.mem_cons_of_mem event ho)) ?_ hrest
    exact hstep event List.mem_cons_self pool middle h hfirst

/-- The other tasks are the same before and after something happens to one. -/
theorem running_perm {pool : Pool σ} {position : Nat} {task : Task}
    (ht : pool.running[position]? = some task) :
    pool.running.Perm (task :: pool.running.eraseIdx position) := by
  obtain ⟨hlt, rfl⟩ := List.getElem?_eq_some_iff.mp ht
  exact (List.getElem_cons_eraseIdx_perm hlt).symm

theorem set_perm {pool : Pool σ} {position : Nat} {task : Task}
    (ht : pool.running[position]? = some task) (changed : Task) :
    (pool.running.set position changed).Perm (changed :: pool.running.eraseIdx position) :=
  List.set_perm_cons_eraseIdx (List.getElem?_eq_some_iff.mp ht).1 changed

/-! ## Soundness -/

/-- The positions of the controls of a pool, wherever they are. -/
def places (pool : Pool σ) : List Nat :=
  pool.waiting.map Prod.snd ++ (pool.running.map Task.index ++
    (pool.finished.map Assessment.index ++ pool.dead))

theorem places_of_running {pool : Pool σ} {position : Nat} {task : Task}
    (ht : pool.running[position]? = some task) :
    pool.places.Perm
      (task.index :: { pool with running := pool.running.eraseIdx position }.places) :=
  (((running_perm ht).map Task.index).append_right _).append_left _ |>.trans List.perm_middle

theorem places_lose {pool : Pool σ} {position : Nat} {task : Task}
    (ht : pool.running[position]? = some task) :
    (pool.lose position task).places.Perm pool.places := by
  refine List.Perm.trans ?_ (places_of_running ht).symm
  unfold places lose
  simp only [← List.append_assoc]
  exact List.perm_append_singleton _ _

/-- No step loses a control or brings one in. -/
theorem Step.places_perm {pool next : Pool σ} (hs : Step limit query policy pool next) :
    next.places.Perm pool.places := by
  cases hs with
  | @start control index rest hw hl =>
    unfold places
    rw [hw, List.map_append, List.append_assoc]
    exact (List.perm_middle.append_left _).trans List.perm_middle
  | @hear position task resourceType reply inventory ht hn hr =>
    refine List.Perm.trans ?_ (places_of_running ht).symm
    exact (((set_perm ht (task.hear reply)).map Task.index).append_right _).append_left _
      |>.trans List.perm_middle
  | @finish position task ht hn =>
    refine List.Perm.trans ?_ (places_of_running ht).symm
    unfold places
    rw [List.map_append, List.map_singleton, Task.index_assessment]
    simp only [← List.append_assoc]
    rw [List.append_assoc _ [task.index]]
    exact List.perm_middle
  | die ht => exact places_lose ht
  | endedByQuery ht hr => exact places_lose ht

/-- Every control is in one place, and what is known of it are the answers. -/
structure Sound (valid : σ → Prop) (answer : String → Reply) (policy : MatchPolicy)
    (controls : List Control) (pool : Pool σ) : Prop where
  inventory : valid pool.inventory
  places : pool.places.Perm (List.range controls.length)
  waiting : ∀ entry ∈ pool.waiting, controls[entry.2]? = some entry.1
  running : ∀ task ∈ pool.running, controls[task.index]? = some task.control ∧ task.Heard answer
  finished : ∀ result ∈ pool.finished, ∃ control,
    controls[result.index]? = some control ∧
      result = Id.run (control.validate answer policy result.index)

section Runs

variable {valid : σ → Prop} {answer : String → Reply} {controls : List Control}

theorem sound_initial {start : σ} (hv : valid start) :
    Sound valid answer policy controls (initial controls start) where
  inventory := hv
  places := by
    show (controls.zipIdx.map Prod.snd ++ []).Perm _
    rw [List.append_nil, List.zipIdx_map_snd, List.range_eq_range']
  waiting entry he := Run.mem_numbered_iff.mp he
  running _ h := nomatch h
  finished _ h := nomatch h

theorem Sound.lose {pool : Pool σ} (h : Sound valid answer policy controls pool) {position : Nat}
    {task : Task} (ht : pool.running[position]? = some task) {inventory : σ}
    (hv : valid inventory) :
    Sound valid answer policy controls ({ pool with inventory }.lose position task) where
  inventory := hv
  places := (@places_lose σ { pool with inventory } position task ht).trans h.places
  waiting := h.waiting
  running other ho := h.running other (List.mem_of_mem_eraseIdx ho)
  finished := h.finished

variable (hq : ∀ resourceType, Settles valid (query resourceType) (answer resourceType))
include hq

/-- A step leaves a pool sound. -/
theorem Sound.step {pool next : Pool σ} (h : Sound valid answer policy controls pool)
    (hs : Step limit query policy pool next) : Sound valid answer policy controls next := by
  have hplaces := hs.places_perm.trans h.places
  cases hs with
  | @start control index rest hw hl =>
    have hcontrol := h.waiting (control, index) (hw ▸ List.mem_cons_self)
    refine ⟨h.inventory, hplaces, fun entry he => ?_, fun task ht => ?_, h.finished⟩
    · exact h.waiting entry (hw ▸ List.mem_cons_of_mem _ he)
    · rcases List.mem_append.mp ht with ht | ht
      · exact h.running task ht
      · obtain rfl := List.mem_singleton.mp ht
        exact ⟨hcontrol, List.nil_prefix⟩
  | @hear position task resourceType reply inventory ht hn hr =>
    obtain ⟨hkept, hreply⟩ := hq resourceType pool.inventory h.inventory
    rw [hr] at hkept hreply
    obtain rfl := hreply reply rfl
    refine ⟨hkept, hplaces, h.waiting, fun other ho => ?_, h.finished⟩
    rcases List.mem_or_eq_of_mem_set ho with ho | rfl
    · exact h.running other ho
    · obtain ⟨hcontrol, hheard⟩ := h.running task (List.mem_of_getElem? ht)
      exact ⟨hcontrol, hheard.hear hn⟩
  | @finish position task ht hn =>
    obtain ⟨hcontrol, hheard⟩ := h.running task (List.mem_of_getElem? ht)
    refine ⟨h.inventory, hplaces, h.waiting, fun other ho => ?_, fun result hr => ?_⟩
    · exact h.running other (List.mem_of_mem_eraseIdx ho)
    · rcases List.mem_append.mp hr with hr | hr
      · exact h.finished result hr
      · obtain rfl := List.mem_singleton.mp hr
        rw [Task.index_assessment]
        exact ⟨task.control, hcontrol, hheard.assessment_eq hn policy⟩
  | die ht => exact h.lose ht h.inventory
  | @endedByQuery position task resourceType inventory ht hr =>
    obtain ⟨hkept, -⟩ := hq resourceType pool.inventory h.inventory
    rw [hr] at hkept
    exact h.lose ht hkept

/-- Whatever happens and in which order, a pool stays sound. -/
theorem Sound.run {events : List Event} {pool next : Pool σ}
    (h : Sound valid answer policy controls pool)
    (hr : pool.run? limit query policy events = some next) :
    Sound valid answer policy controls next :=
  preserved (fun _ _ _ _ hsound hs => hsound.step hq (step_of_step? hs)) h hr

end Runs

/-! ## Work -/

/-- No run of the pool has more events than this. -/
def work (pool : Pool σ) : Nat :=
  (pool.waiting.map fun entry => entry.1.requirements.length + 2).sum +
    (pool.running.map Task.work).sum

theorem work_of_running {pool : Pool σ} {position : Nat} {task : Task}
    (ht : pool.running[position]? = some task) :
    pool.work = task.work + { pool with running := pool.running.eraseIdx position }.work := by
  have hsum := ((running_perm ht).map Task.work).sum_eq
  rw [List.map_cons, List.sum_cons] at hsum
  unfold work
  rw [hsum]
  exact Nat.add_left_comm _ _ _

theorem work_lose_lt {pool : Pool σ} {position : Nat} {task : Task}
    (ht : pool.running[position]? = some task) : (pool.lose position task).work < pool.work := by
  rw [work_of_running ht]
  exact Nat.lt_add_of_pos_left (Nat.succ_pos _)

/-- Every step uses up work. -/
theorem Step.work_lt {pool next : Pool σ} (hs : Step limit query policy pool next) :
    next.work < pool.work := by
  cases hs with
  | @start control index rest hw hl =>
    have hnew : Task.work ⟨index, control, []⟩ = control.requirements.length + 1 := rfl
    unfold work
    simp only [hw, List.map_append, List.sum_append, List.map_cons, List.sum_cons, List.map_nil,
      List.sum_nil, hnew]
    omega
  | @hear position task resourceType reply inventory ht hn hr =>
    have hsum := ((set_perm ht (task.hear reply)).map Task.work).sum_eq
    have hlt := Task.work_hear_lt hn reply
    rw [List.map_cons, List.sum_cons] at hsum
    rw [work_of_running ht]
    unfold work
    dsimp only
    omega
  | finish ht hn => exact work_lose_lt ht
  | die ht => exact work_lose_lt ht
  | endedByQuery ht hr => exact work_lose_lt ht

theorem length_add_work_le {events : List Event} {pool next : Pool σ}
    (hr : pool.run? limit query policy events = some next) :
    events.length + next.work ≤ pool.work := by
  induction events generalizing pool with
  | nil =>
    obtain rfl : pool = next := Option.some.inj hr
    exact Nat.le_of_eq (Nat.zero_add _)
  | cons event rest ih =>
    obtain ⟨middle, hstep, hrest⟩ := Option.bind_eq_some_iff.mp hr
    have hlt := (step_of_step? hstep).work_lt
    have hle := ih hrest
    rw [List.length_cons]
    omega

variable (query policy)

/-- Something can happen in a pool that is not over. -/
theorem exists_step? {pool : Pool σ} (hlimit : 0 < limit) (h : pool.isOver = false) :
    ∃ event next, pool.step? limit query policy event = some next := by
  cases hr : pool.running with
  | cons task rest =>
    refine ⟨.die 0, pool.lose 0 task, ?_⟩
    unfold step?
    rw [hr]
    rfl
  | nil =>
    cases hw : pool.waiting with
    | nil => exact absurd h (by simp [isOver, hw, hr])
    | cons entry rest =>
      refine ⟨.start, { pool with waiting := rest, running := [⟨entry.2, entry.1, []⟩] }, ?_⟩
      unfold step? start?
      rw [hw, hr]
      exact if_pos hlimit

/-- From every state there is a way to the end. -/
theorem exists_over (hlimit : 0 < limit) (pool : Pool σ) :
    ∃ events ended, pool.run? limit query policy events = some ended ∧ ended.isOver = true := by
  cases h : pool.isOver with
  | true => exact ⟨[], pool, rfl, h⟩
  | false =>
    obtain ⟨event, next, hstep⟩ := exists_step? query policy hlimit h
    have := (step_of_step? hstep).work_lt
    obtain ⟨events, ended, hrun, hover⟩ := exists_over hlimit next
    exact ⟨event :: events, ended, Option.bind_eq_some_iff.mpr ⟨next, hstep, hrun⟩, hover⟩
termination_by pool.work

end Pool

end CloudAudit
