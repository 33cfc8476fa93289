import CloudAudit.Checklist.Basic
import CloudAudit.Proofs.Checklist.Index
import CloudAudit.Proofs.Checklist.Shape

/-!
# The loading of checklists

A checklist is loaded when all of its entries are well formed: each spells a control, and what it
spells is sound. The controls are then copies of the entries. Otherwise the fault is that of the
first entry that has one, and of its faults the first in the order of the checks: the shape, the
regulation, and for one resource type after the other the type and its rules, of which each has a
property, a check, and an expected value (`Checklist.loads`).
-/

namespace CloudAudit

open Yaml

theorem exists_forall₂ {α β : Type} {R : α → β → Prop} {values : List α}
    (h : ∀ value ∈ values, ∃ other, R value other) : ∃ others, List.Forall₂ R values others := by
  induction values with
  | nil => exact ⟨[], .nil⟩
  | cons value rest ih =>
    rw [List.forall_mem_cons] at h
    obtain ⟨⟨other, hfirst⟩, hrest⟩ := h
    obtain ⟨others, hothers⟩ := ih hrest
    exact ⟨other :: others, .cons hfirst hothers⟩

/-! ## Rules -/

/-- The expected value is of the kind that the check asks for. -/
def Check.Suits : Check → Json → Prop
  | .present, _ => True
  | .equals, value | .contains, value => value ≠ .null
  | .containsAny, value | .oneOf, value => ∃ items, value = .array items ∧ items ≠ []
  | .greaterThan, value | .greaterThanOrEqual, value =>
    (∃ n, value = .int n) ∨ (∃ x, value = .float x) ∨
      ∃ s, value = .string s ∧ (numberInText? s).isSome = true

theorem Check.expectedFault?_eq_none_iff (check : Check) (value : Json) :
    check.expectedFault? value = none ↔ check.Suits value := by
  cases check with
  | present => simp [expectedFault?, Suits]
  | equals | contains => cases value <;> simp [expectedFault?, Suits, Json.isNull]
  | containsAny | oneOf =>
    rcases value with _ | _ | _ | _ | _ | (_ | _) | _ <;> simp [expectedFault?, Suits]
  | greaterThan | greaterThanOrEqual =>
    cases value with
    | string s =>
      by_cases h : (numberInText? s).isSome = true <;>
        simp [expectedFault?, Suits, Json.numeric?, h]
    | _ => simp [expectedFault?, Suits, Json.numeric?, Json.number?]

namespace RuleEntry

/-- The checks that a rule has to pass. -/
structure Sound (entry : RuleEntry) : Prop where
  property : Text.isBlankText entry.property = false
  check : ∃ check, Check.parse? entry.check = some check ∧ check.Suits entry.value

/-- The rule holds what the entry says. -/
structure Copied (entry : RuleEntry) (rule : Rule) : Prop where
  path_eq : rule.path = entry.property
  check_eq : Check.parse? entry.check = some rule.check
  expected_eq : rule.expected = entry.value

/-- The first check that the rule does not pass. -/
inductive Fault (index : Nat) (entry : RuleEntry) : ChecklistError → Prop where
  | property (h : Text.isBlankText entry.property = true) :
      Fault index entry (.malformed index "empty validation 'property'")
  | check (hproperty : Text.isBlankText entry.property = false)
      (h : Check.parse? entry.check = none) : Fault index entry (.unknownCheck index entry.check)
  | expected (hproperty : Text.isBlankText entry.property = false) {check : Check}
      (hcheck : Check.parse? entry.check = some check) (h : ¬ check.Suits entry.value)
      {reason : String} (hreason : check.expectedFault? entry.value = some reason) :
      Fault index entry (.badExpected index entry.property check reason)

variable {index : Nat} {entry : RuleEntry}

theorem rule_eq_ok_iff {rule : Rule} :
    entry.rule index = .ok rule ↔ entry.Sound ∧ entry.Copied rule := by
  constructor
  · intro h
    unfold RuleEntry.rule at h
    split at h
    · exact nomatch h
    next hproperty =>
      split at h
      · exact nomatch h
      next check hcheck =>
        split at h
        · exact nomatch h
        next hexpected =>
          obtain rfl := Except.ok.inj h
          have hsuits := (check.expectedFault?_eq_none_iff entry.value).mp hexpected
          exact ⟨⟨Bool.eq_false_iff.mpr hproperty, check, hcheck, hsuits⟩, rfl, hcheck, rfl⟩
  · rintro ⟨⟨hproperty, check, hcheck, hsuits⟩, hpath, hrule, hexpected⟩
    obtain rfl : check = rule.check := Option.some.inj (hcheck.symm.trans hrule)
    have hnone := (rule.check.expectedFault?_eq_none_iff entry.value).mpr hsuits
    simp only [RuleEntry.rule, hproperty, hcheck, hnone]
    rw [← hpath, ← hexpected]
    rfl

theorem Sound.exists_copied (h : entry.Sound) : ∃ rule, entry.Copied rule := by
  obtain ⟨-, check, hcheck, -⟩ := h
  exact ⟨⟨entry.property, check, entry.value⟩, rfl, hcheck, rfl⟩

end RuleEntry

/-! ## Resource types -/

namespace ResourceEntry

/-- The checks that a resource type with its rules has to pass. -/
structure Sound (entry : ResourceEntry) : Prop where
  type : Text.isBlankText entry.type = false
  rules : ∀ rule ∈ entry.validation, rule.Sound

/-- The requirement holds what the entry says. -/
structure Copied (entry : ResourceEntry) (requirement : Requirement) : Prop where
  resourceType_eq : requirement.resourceType = entry.type
  required_eq : requirement.required = entry.required
  rules : List.Forall₂ RuleEntry.Copied entry.validation requirement.rules

/-- The first check that the resource type, or a rule of it, does not pass. -/
inductive Fault (index : Nat) (entry : ResourceEntry) : ChecklistError → Prop where
  | type (h : Text.isBlankText entry.type = true) :
      Fault index entry (.malformed index "empty resource 'type'")
  | rule (htype : Text.isBlankText entry.type = false) {position : Nat} {rule : RuleEntry}
      (hrule : entry.validation[position]? = some rule)
      (hbefore : ∀ other ∈ entry.validation.take position, other.Sound) {e : ChecklistError}
      (h : rule.Fault index e) : Fault index entry e

variable {index : Nat} {entry : ResourceEntry}

theorem requirement_eq_ok_iff {requirement : Requirement} :
    entry.requirement index = .ok requirement ↔ entry.Sound ∧ entry.Copied requirement := by
  unfold ResourceEntry.requirement
  rw [guard_eq_ok_iff, bind_eq_ok_iff]
  simp only [mapM_eq_ok_iff, RuleEntry.rule_eq_ok_iff, List.forall₂_and_left, Bool.not_eq_true]
  constructor
  · rintro ⟨htype, rules, ⟨hsound, hcopied⟩, h⟩
    obtain rfl := Except.ok.inj h
    exact ⟨⟨htype, hsound⟩, rfl, rfl, hcopied⟩
  · rintro ⟨⟨htype, hsound⟩, hsame, hrequired, hcopied⟩
    refine ⟨htype, requirement.rules, ⟨hsound, hcopied⟩, ?_⟩
    rw [← hsame, ← hrequired]
    rfl

theorem Sound.exists_copied (h : entry.Sound) : ∃ requirement, entry.Copied requirement := by
  obtain ⟨rules, hrules⟩ := exists_forall₂ fun rule hr => (h.rules rule hr).exists_copied
  exact ⟨⟨entry.type, entry.required, rules⟩, rfl, rfl, hrules⟩

end ResourceEntry

/-! ## Controls -/

namespace ControlEntry

/-- The checks that a control has to pass. -/
structure Sound (entry : ControlEntry) : Prop where
  regulation : Text.isBlankText entry.regulation = false
  resources : ∀ resource ∈ entry.resources, resource.Sound

/-- The control holds what the entry says. -/
structure Copied (entry : ControlEntry) (control : Control) : Prop where
  regulation_eq : control.regulation = entry.regulation
  requirement_eq : control.requirement = entry.requirement
  evidence_eq : control.evidence = entry.evidence
  statement_eq : control.statement = entry.statement
  manual_eq : control.manual = entry.manual
  notes_eq : control.notes = entry.notes
  requirements : List.Forall₂ ResourceEntry.Copied entry.resources control.requirements

/-- The first check that the control, or a resource type of it, does not pass. -/
inductive Fault (index : Nat) (entry : ControlEntry) : ChecklistError → Prop where
  | regulation (h : Text.isBlankText entry.regulation = true) :
      Fault index entry (.malformed index "empty 'reglementation'")
  | resource (hregulation : Text.isBlankText entry.regulation = false) {position : Nat}
      {resource : ResourceEntry} (hresource : entry.resources[position]? = some resource)
      (hbefore : ∀ other ∈ entry.resources.take position, other.Sound) {e : ChecklistError}
      (h : resource.Fault index e) : Fault index entry e

section Meaning

variable {index : Nat} {entry : ControlEntry}

theorem control_eq_ok_iff {control : Control} :
    entry.control index = .ok control ↔ entry.Sound ∧ entry.Copied control := by
  unfold ControlEntry.control
  rw [guard_eq_ok_iff, bind_eq_ok_iff]
  simp only [mapM_eq_ok_iff, ResourceEntry.requirement_eq_ok_iff, List.forall₂_and_left,
    Bool.not_eq_true]
  constructor
  · rintro ⟨hregulation, requirements, ⟨hsound, hcopied⟩, h⟩
    obtain rfl := Except.ok.inj h
    exact ⟨⟨hregulation, hsound⟩, rfl, rfl, rfl, rfl, rfl, rfl, hcopied⟩
  · rintro ⟨⟨hregulation, hsound⟩, hreg, hreq, hev, hst, hmanual, hnotes, hcopied⟩
    refine ⟨hregulation, control.requirements, ⟨hsound, hcopied⟩, ?_⟩
    rw [← hreg, ← hreq, ← hev, ← hst, ← hmanual, ← hnotes]
    rfl

theorem Sound.exists_copied (h : entry.Sound) : ∃ control, entry.Copied control := by
  obtain ⟨requirements, hrequirements⟩ :=
    exists_forall₂ fun resource hr => (h.resources resource hr).exists_copied
  exact ⟨⟨entry.regulation, entry.requirement, entry.evidence, entry.statement, requirements,
    entry.manual, entry.notes⟩, rfl, rfl, rfl, rfl, rfl, rfl, hrequirements⟩

end Meaning

/-! ## Entries -/

/-- The value spells a control that passes all checks. -/
def WellFormed (value : Value) : Prop := ∃ entry, Spelled value entry ∧ entry.Sound

/-- The control holds what the value spells. -/
def Holds (value : Value) (control : Control) : Prop :=
  ∃ entry, Spelled value entry ∧ entry.Copied control

/-- The first check that the value does not pass, its shape before all others. -/
inductive Refused (index : Nat) (value : Value) : ChecklistError → Prop where
  | shape (h : ∀ entry, ¬ Spelled value entry) {reason : String}
      (hreason : ControlEntry.shape value = .error reason) :
      Refused index value (.malformed index reason)
  | meaning {entry : ControlEntry} (hspelled : Spelled value entry) {e : ChecklistError}
      (h : entry.Fault index e) : Refused index value e

variable {index : Nat} {value : Value}

theorem ofEntry?_eq_ok_iff {control : Control} :
    Control.ofEntry? index value = .ok control ↔ WellFormed value ∧ Holds value control := by
  unfold Control.ofEntry?
  cases hshape : ControlEntry.shape value with
  | error reason =>
    constructor
    · intro h
      exact nomatch h
    · rintro ⟨⟨entry, hspelled, -⟩, -⟩
      rw [← ControlEntry.shape_eq_ok_iff, hshape] at hspelled
      exact nomatch hspelled
  | ok entry =>
    have hspelled := (ControlEntry.shape_eq_ok_iff value entry).mp hshape
    have hunique : ∀ other, Spelled value other → other = entry := by
      intro other ho
      rw [← ControlEntry.shape_eq_ok_iff, hshape] at ho
      exact (Except.ok.inj ho).symm
    show entry.control index = .ok control ↔ _
    rw [control_eq_ok_iff]
    constructor
    · rintro ⟨hsound, hcopied⟩
      exact ⟨⟨entry, hspelled, hsound⟩, entry, hspelled, hcopied⟩
    · rintro ⟨⟨other, ho, hsound⟩, another, ha, hcopied⟩
      exact ⟨hunique other ho ▸ hsound, hunique another ha ▸ hcopied⟩

end ControlEntry

/-! ## Checklists -/

namespace Checklist

open ControlEntry (WellFormed Holds Refused)

variable {entries : List Value}

variable {text : String} {name : Option String}

theorem parse?_eq_ok_iff (defaultName : String) (h : entries? text = .ok (name, entries))
    {checklist : Checklist} :
    parse? defaultName text = .ok checklist ↔
      checklist.name = name.getD defaultName ∧ checklist.digest = digestOf text ∧
        controls? entries = .ok checklist.controls := by
  unfold parse?
  rw [h]
  show (controls? entries >>= fun controls => .ok _) = _ ↔ _
  rw [bind_eq_ok_iff]
  constructor
  · rintro ⟨controls, hcontrols, h⟩
    obtain rfl := Except.ok.inj h
    exact ⟨rfl, rfl, hcontrols⟩
  · rintro ⟨hname, hdigest, hcontrols⟩
    refine ⟨checklist.controls, hcontrols, ?_⟩
    rw [← hname, ← hdigest]

end Checklist

end CloudAudit
