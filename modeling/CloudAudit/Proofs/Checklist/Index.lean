import CloudAudit.Checklist.Basic
import CloudAudit.Proofs.Except

/-!
# The index of an entry

An entry is read in the same way wherever it stands in a checklist. Its position has no part in the
control, and of a fault it is the index (`Control.ofEntry?_eq_mapError`, `index?_of_ofEntry?`).
-/

namespace CloudAudit

/-! ## Entries -/

/-- The same fault of an entry at another index. -/
def ChecklistError.atIndex (index : Nat) : ChecklistError → ChecklistError
  | malformed _ reason => malformed index reason
  | unknownCheck _ check => unknownCheck index check
  | badExpected _ path check reason => badExpected index path check reason
  | other => other

theorem RuleEntry.rule_eq_mapError (index other : Nat) (entry : RuleEntry) :
    entry.rule other = (entry.rule index).mapError (ChecklistError.atIndex other) := by
  unfold rule
  split
  · rfl
  split
  · rfl
  split <;> rfl

theorem ResourceEntry.requirement_eq_mapError (index other : Nat) (entry : ResourceEntry) :
    entry.requirement other =
      (entry.requirement index).mapError (ChecklistError.atIndex other) := by
  unfold requirement
  split
  · rfl
  · rw [funext (RuleEntry.rule_eq_mapError index other), mapM_mapError]
    cases entry.validation.mapM (RuleEntry.rule index) <;> rfl

theorem ControlEntry.control_eq_mapError (index other : Nat) (entry : ControlEntry) :
    entry.control other = (entry.control index).mapError (ChecklistError.atIndex other) := by
  unfold control
  split
  · rfl
  · rw [funext (ResourceEntry.requirement_eq_mapError index other), mapM_mapError]
    cases entry.resources.mapM (ResourceEntry.requirement index) <;> rfl

/-- **An entry is read alike at every position.** -/
theorem Control.ofEntry?_eq_mapError (index other : Nat) (entry : Yaml.Value) :
    Control.ofEntry? other entry =
      (Control.ofEntry? index entry).mapError (ChecklistError.atIndex other) := by
  unfold ofEntry?
  cases ControlEntry.shape entry with
  | ok shape => exact shape.control_eq_mapError index other
  | error reason => rfl

/-! ## Faults -/

section Faults

variable {index : Nat} {e : ChecklistError}

theorem RuleEntry.index?_of_rule {entry : RuleEntry} (h : entry.rule index = .error e) :
    e.index? = some index := by
  unfold rule at h
  obtain ⟨-, rfl⟩ | ⟨-, h⟩ := guard_eq_error_iff.mp h
  · rfl
  split at h
  · obtain rfl := Except.error.inj h
    rfl
  split at h
  · obtain rfl := Except.error.inj h
    rfl
  · exact nomatch h

theorem ResourceEntry.index?_of_requirement {entry : ResourceEntry}
    (h : entry.requirement index = .error e) : e.index? = some index := by
  unfold requirement at h
  obtain ⟨-, rfl⟩ | ⟨-, h⟩ := guard_eq_error_iff.mp h
  · rfl
  · obtain hrules | ⟨rules, -, h⟩ := bind_eq_error_iff.mp h
    · obtain ⟨rule, -, hrule⟩ := exists_of_mapM_eq_error hrules
      exact RuleEntry.index?_of_rule hrule
    · exact nomatch h

theorem ControlEntry.index?_of_control {entry : ControlEntry}
    (h : entry.control index = .error e) : e.index? = some index := by
  unfold control at h
  obtain ⟨-, rfl⟩ | ⟨-, h⟩ := guard_eq_error_iff.mp h
  · rfl
  · obtain hrequirements | ⟨requirements, -, h⟩ := bind_eq_error_iff.mp h
    · obtain ⟨resource, -, hresource⟩ := exists_of_mapM_eq_error hrequirements
      exact ResourceEntry.index?_of_requirement hresource
    · exact nomatch h

/-- Every fault of an entry names its index. -/
theorem Control.index?_of_ofEntry? {entry : Yaml.Value}
    (h : Control.ofEntry? index entry = .error e) : e.index? = some index := by
  unfold ofEntry? at h
  split at h
  · exact ControlEntry.index?_of_control h
  · obtain rfl := Except.error.inj h
    rfl

end Faults

/-- The control of a checklist at a position is that of the entry at the position. -/
theorem Checklist.getElem?_of_controls? {entries : List Yaml.Value} {controls : List Control}
    (h : Checklist.controls? entries = .ok controls) {index : Nat} {entry : Yaml.Value}
    (he : entries[index]? = some entry) :
    ∃ control, controls[index]? = some control ∧ Control.ofEntry? index entry = .ok control := by
  have hentry : entries.zipIdx[index]? = some (entry, index) := by
    rw [List.getElem?_zipIdx, he, Nat.zero_add]
    rfl
  exact getElem?_of_mapM_eq_ok h hentry

end CloudAudit
