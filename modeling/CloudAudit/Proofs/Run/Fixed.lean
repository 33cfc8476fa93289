import CloudAudit.Inventory.Limit
import CloudAudit.Proofs.Run.Results

/-!
# Runs with fixed responses

An inventory that does one thing about each type, whatever it was asked before, and ends no task.
The assessment of a control whose task is not lost is a function of the responses to its own types
(`FixedResponses.getElem?_results`).
-/

namespace CloudAudit

/-! ## Fixed responses -/

section Responses

variable {σ : Type}

/-- A query for a type gets one response, whatever was asked before. -/
def FixedResponses (respond : String → StateM σ Response) (response : String → Response)
    (start : σ) : Prop :=
  ∃ valid : σ → Prop, valid start ∧ ∀ state, valid state → ∀ resourceType,
    ((respond resourceType).run state).1 = response resourceType ∧
      valid ((respond resourceType).run state).2

/-- The queries of a run under the limit of its settings. -/
def EngineSettings.ask (settings : EngineSettings) (respond : String → StateM σ Response)
    (resourceType : String) : OptionT (StateM σ) Reply :=
  OptionT.lift (limited settings.timeoutSeconds respond resourceType)

theorem EngineSettings.ask_run (settings : EngineSettings) (respond : String → StateM σ Response)
    (resourceType : String) (state : σ) :
    (settings.ask respond resourceType).run.run state =
      (some (((respond resourceType).run state).1.reply settings.timeoutSeconds resourceType),
        ((respond resourceType).run state).2) := rfl

variable {respond : String → StateM σ Response} {response : String → Response} {start : σ}

theorem FixedResponses.consistent (h : FixedResponses respond response start)
    (settings : EngineSettings) :
    Consistent (settings.ask respond)
      (fun resourceType => (response resourceType).reply settings.timeoutSeconds resourceType)
      start := by
  obtain ⟨valid, hstart, hvalid⟩ := h
  have hkept : ∀ (types : List String) (state : σ), valid state →
      valid (asked (settings.ask respond) types state) := by
    intro types
    induction types with
    | nil => exact fun _ hv => hv
    | cons resourceType rest ih => exact fun state hv => ih _ (hvalid state hv resourceType).2
  intro types resourceType reply hr
  rw [EngineSettings.ask_run, (hvalid _ (hkept types start hstart) resourceType).1] at hr
  exact (Option.some.inj hr).symm

/-- The assessments of a run are decided by the replies and by the tasks that died. -/
theorem FixedResponses.results_eq (h : FixedResponses respond response start)
    {settings : EngineSettings} {answer : String → Reply}
    (hanswer : ∀ resourceType,
      (response resourceType).reply settings.timeoutSeconds resourceType = answer resourceType)
    {controls : List Control} {dead : List Nat} {results : List Assessment}
    (hyields : Run.Yields settings (settings.ask respond) controls start dead results) :
    results = (Run.numbered controls).map fun entry =>
      if entry.2 ∈ dead then entry.1.abortedAssessment entry.2
      else Id.run (entry.1.validate answer settings.matchPolicy entry.2) := by
  rw [← funext hanswer]
  exact hyields.results_eq (h.consistent settings)

/-- What a control comes to whose task does not die. -/
theorem FixedResponses.getElem?_results (h : FixedResponses respond response start)
    {settings : EngineSettings} {answer : String → Reply}
    (hanswer : ∀ resourceType,
      (response resourceType).reply settings.timeoutSeconds resourceType = answer resourceType)
    {controls : List Control} {dead : List Nat} {results : List Assessment}
    (hyields : Run.Yields settings (settings.ask respond) controls start dead results)
    {control : Control} {index : Nat} (hcontrol : controls[index]? = some control)
    (hdead : index ∉ dead) :
    results[index]? = some (Id.run (control.validate answer settings.matchPolicy index)) := by
  have hentry : (Run.numbered controls)[index]? = some (control, index) := by
    rw [Run.numbered, List.getElem?_zipIdx, hcontrol, Nat.zero_add]
    rfl
  rw [h.results_eq hanswer hyields, List.getElem?_map, hentry, Option.map_some, if_neg hdead]

end Responses

/-- A store has one response for each type. -/
theorem Store.fixedResponses (store : Store) :
    FixedResponses Store.respond (fun resourceType => .answered (store.answer resourceType))
      store := by
  refine ⟨fun state => state.answer = store.answer, rfl, fun state hv resourceType => ?_⟩
  rw [← hv]
  exact ⟨rfl, rfl⟩

/-! ## Runs -/

/-- A run over an inventory with fixed responses. -/
structure FixedRun where
  {State : Type}
  respond : String → StateM State Response
  response : String → Response
  start : State
  fixed : FixedResponses respond response start
  settings : EngineSettings
  controls : List Control
  /-- The positions of the controls whose tasks died. -/
  dead : List Nat := []
  results : List Assessment
  yields : Run.Yields settings (settings.ask respond) controls start dead results

namespace FixedRun

/-- The run over a store that is carried out. -/
def ofStore (store : Store) (settings : EngineSettings) (controls : List Control) : FixedRun :=
  { respond := Store.respond
    response := fun resourceType => .answered (store.answer resourceType)
    start := store
    fixed := store.fixedResponses
    settings, controls
    results :=
      ((Run.complete settings (limited settings.timeoutSeconds Store.respond) controls).run
        store).1
    yields := Run.yields_complete (limited settings.timeoutSeconds Store.respond) settings controls
      store }

variable (run : FixedRun)

def reply (resourceType : String) : Reply :=
  (run.response resourceType).reply run.settings.timeoutSeconds resourceType

def report (generatedAt : Timestamp) (checklist : Option ChecklistMeta) : Report :=
  Report.ofResults generatedAt checklist run.settings.matchPolicy run.results

/-- What a control comes to whose task does not die. -/
theorem getElem?_results {control : Control} {index : Nat}
    (hcontrol : run.controls[index]? = some control) (hdead : index ∉ run.dead) :
    run.results[index]? =
      some (Id.run (control.validate run.reply run.settings.matchPolicy index)) :=
  run.fixed.getElem?_results (fun _ => rfl) run.yields hcontrol hdead

theorem results_eq :
    run.results = (Run.numbered run.controls).map fun entry =>
      if entry.2 ∈ run.dead then entry.1.abortedAssessment entry.2
      else Id.run (entry.1.validate run.reply run.settings.matchPolicy entry.2) :=
  run.fixed.results_eq (fun _ => rfl) run.yields

/-- Two runs over the same checklist in which the same tasks died are compared control by
control. -/
theorem forall₂_results {first second : FixedRun} (hcontrols : first.controls = second.controls)
    (hdead : ∀ index, index ∈ first.dead ↔ index ∈ second.dead)
    {R : Assessment → Assessment → Prop}
    (haborted : ∀ (control : Control) (index : Nat),
      R (control.abortedAssessment index) (control.abortedAssessment index))
    (h : ∀ (control : Control) (index : Nat),
      R (Id.run (control.validate first.reply first.settings.matchPolicy index))
        (Id.run (control.validate second.reply second.settings.matchPolicy index))) :
    List.Forall₂ R first.results second.results := by
  rw [first.results_eq, second.results_eq, ← hcontrols, List.forall₂_map_left_iff,
    List.forall₂_map_right_iff, List.forall₂_same]
  intro entry _
  by_cases hd : entry.2 ∈ first.dead
  · rw [if_pos hd, if_pos ((hdead entry.2).mp hd)]
    exact haborted entry.1 entry.2
  · rw [if_neg hd, if_neg (mt (hdead entry.2).mpr hd)]
    exact h entry.1 entry.2

end FixedRun

end CloudAudit
