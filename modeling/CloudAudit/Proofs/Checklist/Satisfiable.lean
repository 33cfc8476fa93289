import CloudAudit.Proofs.Control.Satisfiable

/-!
# Accepted rules that can pass

The expected value of every rule of a loaded checklist is of the kind that its check asks for. So
the rule passes on some resource, unless the value is one of the few of this kind against which the
check never passes (`Checklist.satisfiable_iff`).
-/

namespace CloudAudit

open Yaml

theorem exists_of_mem_forall₂ {α β : Type} {R : α → β → Prop} {values : List α} {others : List β}
    (h : List.Forall₂ R values others) {other : β} (hother : other ∈ others) :
    ∃ value ∈ values, R value other := by
  induction h with
  | nil => exact absurd hother List.not_mem_nil
  | cons hfirst _ ih =>
    rcases List.mem_cons.mp hother with rfl | hrest
    · exact ⟨_, List.mem_cons_self, hfirst⟩
    · obtain ⟨value, hvalue, hR⟩ := ih hrest
      exact ⟨value, List.mem_cons_of_mem _ hvalue, hR⟩

def Control.rules (control : Control) : List Rule :=
  control.requirements.flatMap Requirement.rules

def Checklist.rules (checklist : Checklist) : List Rule :=
  checklist.controls.flatMap Control.rules

/-! ## The expected values of accepted rules -/

theorem RuleEntry.Copied.suits {entry : RuleEntry} {rule : Rule} (h : entry.Copied rule)
    (hsound : entry.Sound) : rule.check.Suits rule.expected := by
  obtain ⟨check, hcheck, hsuits⟩ := hsound.check
  obtain rfl : check = rule.check := Option.some.inj (hcheck.symm.trans h.check_eq)
  rwa [h.expected_eq]

theorem ResourceEntry.Copied.suits {entry : ResourceEntry} {requirement : Requirement}
    (h : entry.Copied requirement) (hsound : entry.Sound) {rule : Rule}
    (hrule : rule ∈ requirement.rules) : rule.check.Suits rule.expected := by
  obtain ⟨ruleEntry, hmem, hcopied⟩ := exists_of_mem_forall₂ h.rules hrule
  exact hcopied.suits (hsound.rules ruleEntry hmem)

theorem ControlEntry.Copied.suits {entry : ControlEntry} {control : Control}
    (h : entry.Copied control) (hsound : entry.Sound) {rule : Rule}
    (hrule : rule ∈ control.rules) : rule.check.Suits rule.expected := by
  obtain ⟨requirement, hrequirement, hrule⟩ := List.mem_flatMap.mp hrule
  obtain ⟨resource, hmem, hcopied⟩ := exists_of_mem_forall₂ h.requirements hrequirement
  exact hcopied.suits (hsound.resources resource hmem) hrule

theorem Control.suits_of_ofEntry? {index : Nat} {value : Value} {control : Control}
    (h : ofEntry? index value = .ok control) {rule : Rule} (hrule : rule ∈ control.rules) :
    rule.check.Suits rule.expected := by
  obtain ⟨⟨entry, hspelled, hsound⟩, other, hother, hcopied⟩ := ControlEntry.ofEntry?_eq_ok_iff.mp h
  rw [← ControlEntry.shape_eq_ok_iff] at hspelled hother
  obtain rfl : entry = other := Except.ok.inj (hspelled.symm.trans hother)
  exact hcopied.suits hsound hrule

namespace Checklist

variable {defaultName text : String} {checklist : Checklist}

theorem suits_of_parse? (h : parse? defaultName text = .ok checklist) {rule : Rule}
    (hrule : rule ∈ checklist.rules) : rule.check.Suits rule.expected := by
  obtain ⟨⟨name, entries⟩, -, h⟩ := bind_eq_ok_iff.mp h
  obtain ⟨controls, hcontrols, h⟩ := bind_eq_ok_iff.mp h
  obtain rfl := Except.ok.inj h
  obtain ⟨control, hcontrol, hrule⟩ := List.mem_flatMap.mp hrule
  obtain ⟨entry, -, hentry⟩ := exists_of_mem_forall₂ (mapM_eq_ok_iff.mp hcontrols) hcontrol
  exact Control.suits_of_ofEntry? hentry hrule

/-- **Accepted rules can pass**, but for those with a barren expected value. -/
theorem satisfiable_iff (h : parse? defaultName text = .ok checklist) {rule : Rule}
    (hrule : rule ∈ checklist.rules) :
    (∃ resource, (rule.evaluate resource).passed = true) ↔ ¬ rule.check.Barren rule.expected := by
  rw [rule.exists_passed_iff]
  exact Check.exists_holds_iff (suits_of_parse? h hrule)

end Checklist

namespace Unordered

/-- A rule that asks for a number above the text for the result of no comparison. -/
def text : String :=
  "checklist:\n- reglementation: DORA\n  exigence: e\n  preuve: p\n  controle: c\n" ++
    "  azure_resources:\n  - type: T\n    validation:\n    - property: days\n" ++
    "      check: greaterThan\n      value: nan\n"

theorem accepted : ∃ checklist, Checklist.parse? "checks" text = .ok checklist ∧
    ∃ rule ∈ checklist.rules, rule.check = .greaterThan ∧ rule.expected.numeric? = some .nan := by
  have hread : ((Checklist.entries? text).toOption.bind fun parts =>
      (Checklist.controls? parts.2).toOption.map fun controls =>
        (controls.flatMap Control.rules).map fun rule => (rule.check, rule.expected.numeric?)) =
      some [(.greaterThan, some .nan)] := by
    decide +kernel
  obtain ⟨parts, hparts, hread⟩ := Option.bind_eq_some_iff.mp hread
  obtain ⟨controls, hcontrols, hrules⟩ := Option.map_eq_some_iff.mp hread
  obtain ⟨rule, hrule, hpair⟩ := List.mem_map.mp (hrules ▸ List.mem_singleton_self _)
  obtain ⟨hcheck, hnumeric⟩ := Prod.mk.inj hpair
  rw [toOption_eq_some_iff] at hparts hcontrols
  exact ⟨⟨_, _, controls⟩,
    (Checklist.parse?_eq_ok_iff "checks" hparts).mpr ⟨rfl, rfl, hcontrols⟩,
    rule, hrule, hcheck, hnumeric⟩

theorem satisfiable_unordered : ∃ checklist, Checklist.parse? "checks" text = .ok checklist ∧
    ∃ rule ∈ checklist.rules,
      ((∃ resource, (rule.evaluate resource).passed = true) ↔
        ¬ rule.check.Barren rule.expected) := by
  obtain ⟨checklist, hparse, rule, hrule, -⟩ := accepted
  exact ⟨checklist, hparse, rule, hrule, Checklist.satisfiable_iff hparse hrule⟩

/-- The rule is accepted, and it passes on no resource. -/
theorem never_passes : ∃ checklist, Checklist.parse? "checks" text = .ok checklist ∧
    ∃ rule ∈ checklist.rules, ∀ resource, (rule.evaluate resource).passed = false := by
  obtain ⟨checklist, hparse, rule, hrule, hcheck, hnumeric⟩ := accepted
  have hsuits := Checklist.suits_of_parse? hparse hrule
  have hbarren : rule.check.Barren rule.expected := by
    rw [hcheck]
    exact .inl hnumeric
  refine ⟨checklist, hparse, rule, hrule, fun resource => ?_⟩
  rw [Bool.eq_false_iff]
  intro hpassed
  have hholds := rule.exists_passed_iff.mp ⟨resource, hpassed⟩
  exact (Check.exists_holds_iff hsuits).mp hholds hbarren

end Unordered

end CloudAudit
