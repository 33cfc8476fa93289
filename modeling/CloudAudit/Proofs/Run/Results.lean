import CloudAudit.Proofs.Run.Agreement
import Mathlib.Data.List.Forall2

/-!
# Results of runs over any inventory

Whatever the inventory does, a run has one result for each control, in checklist order
(`Yields.forall₂_told`). What is carried out over an inventory that ends no task is a run in which
all tasks come to their end (`Run.yields_complete`).
-/

namespace CloudAudit

variable {σ : Type}

/-- What holds of the result of every input holds of the results of all of them. -/
theorem forall₂_of_mapM {α β : Type} {program : α → OptionT (StateM σ) β} {R : α → β → Prop}
    (h : ∀ input state result, ((program input).run.run state).1 = some result → R input result)
    {inputs : List α} {state : σ} {results : List β}
    (hr : ((inputs.mapM program).run.run state).1 = some results) :
    List.Forall₂ R inputs results := by
  induction inputs generalizing state results with
  | nil =>
    obtain rfl : [] = results := Option.some.inj hr
    exact .nil
  | cons input rest ih =>
    rw [List.mapM_cons, run_run_bind] at hr
    rcases hfirst : (program input).run.run state with ⟨_ | first, after⟩
    · rw [hfirst] at hr
      exact nomatch hr
    rw [hfirst] at hr
    dsimp only at hr
    rw [run_run_bind] at hr
    rcases hothers : (rest.mapM program).run.run after with ⟨_ | others, last⟩
    · rw [hothers] at hr
      exact nomatch hr
    rw [hothers] at hr
    obtain rfl : first :: others = results := Option.some.inj hr
    exact .cons (h input state first (congrArg Prod.fst hfirst)) (ih (congrArg Prod.fst hothers))

namespace Run

variable {query : String → OptionT (StateM σ) Reply} {controls : List Control} {start : σ}

/-- **One result for each control.** -/
theorem Yields.forall₂_told {settings : EngineSettings} {dead : List Nat}
    {results : List Assessment} (h : Yields settings query controls start dead results) :
    List.Forall₂ (Assessment.Told dead) (numbered controls) results := by
  cases h with
  | sequential hc hr => exact forall₂_of_mapM (fun _ _ _ => Control.told_of_validate) hr
  | parallel hc hr hover =>
    have hstaffed := (Pool.staffed_initial controls start).run hr
    unfold Pool.results assemble
    rw [List.forall₂_map_right_iff, List.forall₂_same]
    exact fun entry he => hstaffed.told hover he

theorem Yields.told {settings : EngineSettings} {dead : List Nat} {results : List Assessment}
    (h : Yields settings query controls start dead results) {index : Nat} {result : Assessment}
    (hr : results[index]? = some result) :
    ∃ control, controls[index]? = some control ∧ result.Told dead (control, index) := by
  obtain ⟨hlt, rfl⟩ := List.getElem?_eq_some_iff.mp hr
  have hentry := h.forall₂_told.get (h.forall₂_told.length_eq ▸ hlt) hlt
  simp only [List.get_eq_getElem, numbered, List.getElem_zipIdx, Nat.zero_add] at hentry
  exact ⟨_, List.getElem?_eq_getElem _, hentry⟩

theorem Yields.map_control {settings : EngineSettings} {dead : List Nat}
    {results : List Assessment} (h : Yields settings query controls start dead results) :
    results.map Assessment.control = controls := by
  have hcontrols : (numbered controls).map Prod.fst = results.map Assessment.control := by
    rw [← List.forall₂_eq_eq_eq, List.forall₂_map_left_iff, List.forall₂_map_right_iff]
    exact h.forall₂_told.imp fun _ _ htold => htold.control_eq.symm
  rw [← hcontrols, numbered, List.zipIdx_map_fst]

end Run

/-! ## Queries that end no task -/

section Lifted

variable {m : Type → Type} [Monad m] [LawfulMonad m] {α β : Type}

theorem mapM_lift (program : α → m β) (inputs : List α) :
    (inputs.mapM fun input => OptionT.lift (program input)) =
      OptionT.lift (inputs.mapM program) := by
  induction inputs with
  | nil => rw [List.mapM_nil, List.mapM_nil, OptionT.lift_pure]
  | cons input rest ih =>
    rw [List.mapM_cons, List.mapM_cons, ih]
    simp only [OptionT.lift_bind, OptionT.lift_pure]

variable (query : String → m Reply) (policy : MatchPolicy)

theorem Control.validate_lift (index : Nat) (control : Control) :
    control.validate (fun resourceType => OptionT.lift (query resourceType)) policy index =
      OptionT.lift (control.validate query policy index) := by
  unfold validate
  by_cases h : control.manual = true
  · rw [if_pos h, if_pos h, OptionT.lift_pure]
  · rw [if_neg h, if_neg h, mapM_lift, OptionT.lift_bind]
    simp only [OptionT.lift_pure]

theorem Run.sequential_lift (controls : List Control) :
    Run.sequential (fun resourceType => OptionT.lift (query resourceType)) policy controls =
      OptionT.lift (Run.sequential query policy controls) := by
  unfold Run.sequential
  simp only [Control.validate_lift]
  exact mapM_lift _ _

end Lifted

/-- Of tasks that do not end before their time, each comes to something. -/
theorem length_filterMap_mapM_lift {σ α β : Type} (program : α → StateM σ β) (inputs : List α)
    (start : σ) :
    (((inputs.mapM fun input => (OptionT.lift (program input)).run).run start).1.filterMap
      id).length = inputs.length := by
  induction inputs generalizing start with
  | nil => rfl
  | cons input rest ih =>
    simp only [List.mapM_cons, StateT.run_bind]
    exact congrArg Nat.succ (ih _)

/-- **Runs come to their end.** What is carried out is a run in which no task dies. -/
theorem Run.yields_complete (query : String → StateM σ Reply) (settings : EngineSettings)
    (controls : List Control) (start : σ) :
    Yields settings (fun resourceType => OptionT.lift (query resourceType)) controls start []
      ((Run.complete settings query controls).run start).1 := by
  unfold complete
  by_cases hc : settings.concurrency ≤ 1
  · rw [if_pos hc]
    refine .sequential hc ?_
    rw [sequential_lift]
    rfl
  · rw [if_neg hc]
    have hlimit : 0 < settings.concurrency := by omega
    obtain ⟨events, ended, -, hrun, hover, hfinished⟩ := Pool.exists_events_waiting
      (fun resourceType => OptionT.lift (query resourceType)) settings.matchPolicy hlimit
      (Pool.initial controls start) rfl
    have hstaffed := (Pool.staffed_initial controls start).run hrun
    have hall : ended.finished.length = controls.length := by
      have hlift := length_filterMap_mapM_lift (fun entry : Control × Nat =>
        entry.1.validate query settings.matchPolicy entry.2) (numbered controls) start
      simp only [← Control.validate_lift] at hlift
      rw [hfinished]
      exact hlift.trans (List.length_zipIdx ..)
    have hdead : ended.dead = [] := by
      -- every position is taken by an assessment
      have hlength := hstaffed.places.length_eq
      rw [Pool.places_of_isOver hover, List.length_append, List.length_map, List.length_range,
        hall] at hlength
      exact List.eq_nil_of_length_eq_zero (by omega)
    have hresults : ended.results controls =
        ((Run.parallel (fun resourceType => OptionT.lift (query resourceType))
          settings.matchPolicy controls).run start).1 := by
      unfold Pool.results
      rw [hfinished]
      rfl
    have hyields := Yields.parallel (by omega) hrun hover
    rw [hdead, hresults] at hyields
    exact hyields

end CloudAudit
