import CloudAudit.Proofs.Assessment.Trace
import CloudAudit.Proofs.Checklist.Index
import CloudAudit.Proofs.Run.Isolation

/-!
# Controls by themselves

A control can be assessed by its position in a checklist, by a text with its entry alone, or in a
run over all controls. Over an inventory with fixed responses the three come to the same, but for
the index that a single entry has no use for (`FixedRun.singles_agree`).
-/

namespace CloudAudit

/-- Without a control at the position nothing is asked, of whatever inventory. -/
theorem Run.single_of_length_le {m : Type → Type} [Monad m] (query : String → m Reply)
    (policy : MatchPolicy) {controls : List Control} {index : Nat}
    (h : controls.length ≤ index) :
    Run.single query policy controls index = pure (.error ⟨index, controls.length⟩) := by
  unfold single
  rw [List.getElem?_eq_none h]

section Responses

variable {σ : Type} {respond : String → StateM σ Response} {response : String → Response}
  {start : σ}

/-- The assessment of a control under a limit, where queries end no task. -/
theorem FixedResponses.validate_eq (h : FixedResponses respond response start)
    (settings : EngineSettings) (index : Nat) (control : Control) :
    ((control.validate (limited settings.timeoutSeconds respond) settings.matchPolicy index).run
        start).1 =
      Id.run (control.validate
        (fun resourceType => (response resourceType).reply settings.timeoutSeconds resourceType)
        settings.matchPolicy index) := by
  obtain ⟨-, hvalue⟩ := Control.settles_validate (h.consistent settings).settles
    settings.matchPolicy index control start ⟨[], rfl⟩
  refine hvalue _ ?_
  unfold EngineSettings.ask
  rw [Control.validate_lift]
  rfl

end Responses

namespace FixedRun

variable (run : FixedRun)

/-- The assessment of one control by its position, over the inventory of a run. -/
def single (index : Nat) : Except IndexError Assessment :=
  ((Run.single (limited run.settings.timeoutSeconds run.respond) run.settings.matchPolicy
    run.controls index).run run.start).1

/-- The assessment of a text with one entry, over the inventory of a run. -/
def custom (text : String) : Except ChecklistError Assessment :=
  ((Control.validateText (limited run.settings.timeoutSeconds run.respond)
    run.settings.matchPolicy text).run run.start).1

variable {run}

theorem single_of_getElem? {index : Nat} {control : Control}
    (h : run.controls[index]? = some control) :
    run.single index =
      .ok (Id.run (control.validate run.reply run.settings.matchPolicy index)) := by
  unfold single Run.single
  rw [h]
  exact congrArg Except.ok (run.fixed.validate_eq run.settings index control)

theorem single_of_length_le {index : Nat} (h : run.controls.length ≤ index) :
    run.single index = .error ⟨index, run.controls.length⟩ := by
  unfold single
  rw [Run.single_of_length_le _ _ h]
  rfl

theorem single_eq_ok_iff {index : Nat} {result : Assessment} :
    run.single index = .ok result ↔ ∃ control, run.controls[index]? = some control ∧
      Id.run (control.validate run.reply run.settings.matchPolicy index) = result := by
  cases hi : run.controls[index]? with
  | none =>
    rw [single_of_length_le (List.getElem?_eq_none_iff.mp hi)]
    exact ⟨nofun, fun ⟨_, h, _⟩ => nomatch h⟩
  | some control =>
    rw [single_of_getElem? hi]
    exact ⟨fun h => ⟨control, rfl, Except.ok.inj h⟩,
      fun ⟨_, h, hresult⟩ => by rw [Option.some.inj h, hresult]⟩

theorem custom_of_ok {text : String} {control : Control} (h : Control.parse? text = .ok control) :
    run.custom text = .ok (Id.run (control.validate run.reply run.settings.matchPolicy 0)) := by
  unfold custom Control.validateText
  rw [h]
  exact congrArg Except.ok (run.fixed.validate_eq run.settings 0 control)

theorem custom_of_error {text : String} {e : ChecklistError} (h : Control.parse? text = .error e) :
    run.custom text = .error e := by
  unfold custom Control.validateText
  rw [h]
  rfl

theorem parse?_of_read? {text : String} {node : Option Yaml.Node} {entry : Yaml.Value}
    (h : Yaml.Node.read? text = some (node, entry)) (index : Nat) :
    Control.parse? text =
      (Control.ofEntry? index entry).mapError (ChecklistError.atIndex 0) := by
  unfold Control.parse?
  rw [h]
  exact Control.ofEntry?_eq_mapError index 0 entry

end FixedRun

/-- The ways to assess a control agree with a run. -/
structure FixedRun.SinglesAgree (run : FixedRun) : Prop where
  /-- There is an assessment at the positions of the checklist. -/
  exists_single (index : Nat) :
    (∃ result, run.single index = .ok result) ↔ index < run.controls.length
  /-- It is the one of the run, if the task of the control did not die. -/
  entry {index : Nat} {result : Assessment} (h : run.single index = .ok result)
    (hdead : index ∉ run.dead) (generatedAt : Timestamp) (source : Option ChecklistMeta) :
    (run.report generatedAt source).results[index]? = some result
  /-- At other positions the range is told, and nothing is asked. -/
  refused {index : Nat} (h : run.controls.length ≤ index) :
    run.single index = .error ⟨index, run.controls.length⟩ ∧
      (Run.single (limited run.settings.timeoutSeconds (recorded run.respond))
          run.settings.matchPolicy run.controls index).run (run.start, []) =
        (.error ⟨index, run.controls.length⟩, run.start, [])
  message (index : Nat) :
    IndexError.message ⟨index, run.controls.length⟩ =
      s!"INDEX/invalid control index {index}, valid range: " ++
        if run.controls = [] then "empty checklist" else s!"0-{run.controls.length - 1}"
  /-- Of the fault of an entry its position is the index, and of a control it is no part. -/
  read_alike (entry : Yaml.Value) (index other : Nat) :
    Control.ofEntry? other entry =
        (Control.ofEntry? index entry).mapError (ChecklistError.atIndex other) ∧
      ∀ e, Control.ofEntry? index entry = .error e → e.index? = some index
  /-- An entry by itself comes to what it comes to in its checklist. -/
  custom {entries : List Yaml.Value} (hentries : Checklist.controls? entries = .ok run.controls)
    {index : Nat} {entry : Yaml.Value} (he : entries[index]? = some entry)
    (hdead : index ∉ run.dead) {text : String} {node : Option Yaml.Node}
    (hread : Yaml.Node.read? text = some (node, entry))
    (generatedAt : Timestamp) (source : Option ChecklistMeta) :
    ∃ result, (run.report generatedAt source).results[index]? = some result ∧
      run.custom text = .ok { result with index := 0 }
  /-- An entry that a checklist is refused for is refused by itself, for the same reason. -/
  custom_refused {index : Nat} {entry : Yaml.Value} {e : ChecklistError}
    (h : Control.ofEntry? index entry = .error e) {text : String} {node : Option Yaml.Node}
    (hread : Yaml.Node.read? text = some (node, entry)) :
    run.custom text = .error (e.atIndex 0)

/-- **A control by itself.** Over an inventory with fixed responses it comes to what it comes to in
a run over its checklist, one control after the other or many at once. -/
theorem FixedRun.singles_agree (run : FixedRun) : run.SinglesAgree where
  exists_single index := by
    simp only [single_eq_ok_iff]
    constructor
    · rintro ⟨_, control, hcontrol, -⟩
      exact (List.getElem?_eq_some_iff.mp hcontrol).1
    · intro h
      exact ⟨_, _, List.getElem?_eq_getElem h, rfl⟩
  entry h hdead generatedAt source := by
    obtain ⟨control, hcontrol, rfl⟩ := single_eq_ok_iff.mp h
    exact run.getElem?_results hcontrol hdead
  refused h := by
    refine ⟨single_of_length_le h, ?_⟩
    rw [Run.single_of_length_le _ _ h]
    rfl
  message index := by
    unfold IndexError.message
    simp only [List.length_eq_zero_iff]
    rfl
  read_alike entry index other :=
    ⟨Control.ofEntry?_eq_mapError index other entry, fun _ h => Control.index?_of_ofEntry? h⟩
  custom hentries index entry he hdead text node hread generatedAt source := by
    obtain ⟨control, hcontrol, hentry⟩ := Checklist.getElem?_of_controls? hentries he
    refine ⟨_, run.getElem?_results hcontrol hdead, ?_⟩
    have hparse : Control.parse? text = .ok control := by
      rw [parse?_of_read? hread index, hentry]
      rfl
    rw [custom_of_ok hparse, ← Control.validate_index]
  custom_refused h text node hread := by
    refine custom_of_error ?_
    rw [parse?_of_read? hread, h]
    rfl

/-- The position after the last one. -/
example :
    (IndexError.mk 2 2).message = "INDEX/invalid control index 2, valid range: 0-1" := by decide

end CloudAudit
