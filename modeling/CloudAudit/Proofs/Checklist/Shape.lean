import CloudAudit.Checklist.Entry
import CloudAudit.Proofs.Yaml.Layout

/-!
# The shape of entries

What a value has to be to spell a rule, a resource type with its rules, or a control: a mapping with
the members of one and no others, some of which may be left out. The records that are read out of a
value are exactly those that it spells (`ControlEntry.shape_eq_ok_iff`).
-/

namespace CloudAudit

open Yaml Yaml.Shape

namespace RuleEntry

/-- The members are those of a rule. -/
structure Told (members : List (String × Value)) (entry : RuleEntry) : Prop where
  declared : Declared ["property", "check", "value"] members
  property : Tells members "property" Value.IsText (some entry.property)
  check : Tells members "check" Value.IsText (some entry.check)
  value : ∃ found, Tells members "value" Value.IsJson found ∧ found.getD .null = entry.value

/-- The value spells the rule and nothing else. -/
def Spelled : Value → RuleEntry → Prop := Value.IsRecord Told

def layout : Layout fields {} where
  places := [
    .text "property" Seen.property (by simp [fields]) (by simp [fields]),
    .text "check" Seen.check (by simp [fields]) (by simp [fields]),
    { name := "value", means := Value.IsJson, get := Seen.value
      shape := fun value => Json.canonical <$> Shape.json value
      shape_eq_ok_iff := canonical_json_eq_ok_iff
      keeps := by simp [fields]
      leaves := by simp [fields] }]
  names := rfl
  empty := by simp
  ext := by
    rintro ⟨⟩ ⟨⟩ h
    simpa using h

theorem shape_eq_ok_iff (value : Value) (entry : RuleEntry) :
    shape value = .ok entry ↔ Spelled value entry := by
  unfold shape
  simp only [bind_eq_ok_iff, layout.record_eq_ok_iff, require_eq_ok_iff]
  constructor
  · rintro ⟨seen, ⟨members, hm, hd, htells⟩, property, hproperty, check, hcheck, he⟩
    obtain rfl := Except.ok.inj he
    simp only [layout, Place.text, List.forall_mem_cons, hproperty, hcheck] at htells
    obtain ⟨hp, hc, hv, -⟩ := htells
    exact ⟨members, hm, hd, hp, hc, seen.value, hv, rfl⟩
  · rintro ⟨members, hm, hd, hp, hc, found, hv, he⟩
    refine ⟨⟨some entry.property, some entry.check, found⟩, ⟨members, hm, hd, ?_⟩, _, rfl, _,
      rfl, ?_⟩
    · simp only [layout, Place.text, List.forall_mem_cons]
      exact ⟨hp, hc, hv, List.forall_mem_nil _⟩
    · dsimp only
      rw [he]
      rfl

end RuleEntry

namespace ResourceEntry

/-- The members are those of a resource type with its rules. -/
structure Told (members : List (String × Value)) (entry : ResourceEntry) : Prop where
  declared : Declared ["type", "required", "validation"] members
  type : Tells members "type" Value.IsText (some entry.type)
  required : ∃ found, Tells members "required" Value.IsTruth found ∧
    found.getD false = entry.required
  validation : ∃ found, Tells members "validation" (Value.IsList RuleEntry.Spelled) found ∧
    found.getD [] = entry.validation

/-- The value spells the resource type and nothing else. -/
def Spelled : Value → ResourceEntry → Prop := Value.IsRecord Told

def layout : Layout fields {} where
  places := [
    .text "type" Seen.type (by simp [fields]) (by simp [fields]),
    .truth "required" Seen.required (by simp [fields]) (by simp [fields]),
    .list "validation" RuleEntry.shape_eq_ok_iff Seen.validation (by simp [fields])
      (by simp [fields])]
  names := rfl
  empty := by simp
  ext := by
    rintro ⟨⟩ ⟨⟩ h
    simpa using h

theorem shape_eq_ok_iff (value : Value) (entry : ResourceEntry) :
    shape value = .ok entry ↔ Spelled value entry := by
  unfold shape
  simp only [bind_eq_ok_iff, layout.record_eq_ok_iff, require_eq_ok_iff]
  constructor
  · rintro ⟨seen, ⟨members, hm, hd, htells⟩, type, htype, he⟩
    obtain rfl := Except.ok.inj he
    simp only [layout, Place.text, Place.truth, Place.list, List.forall_mem_cons, htype] at htells
    obtain ⟨ht, hr, hv, -⟩ := htells
    exact ⟨members, hm, hd, ht, ⟨seen.required, hr, rfl⟩, seen.validation, hv, rfl⟩
  · rintro ⟨members, hm, hd, ht, ⟨required, hr, hrequired⟩, validation, hv, hvalidation⟩
    refine ⟨⟨some entry.type, required, validation⟩, ⟨members, hm, hd, ?_⟩, _, rfl, ?_⟩
    · simp only [layout, Place.text, Place.truth, Place.list, List.forall_mem_cons]
      exact ⟨ht, hr, hv, List.forall_mem_nil _⟩
    · dsimp only
      rw [hrequired, hvalidation]
      rfl

end ResourceEntry

namespace ControlEntry

/-- The members are those of a control. -/
structure Told (members : List (String × Value)) (entry : ControlEntry) : Prop where
  declared : Declared ["reglementation", "exigence", "preuve", "controle", "manual_verification",
    "notes", "azure_resources"] members
  regulation : Tells members "reglementation" Value.IsText (some entry.regulation)
  requirement : Tells members "exigence" Value.IsText (some entry.requirement)
  evidence : Tells members "preuve" Value.IsText (some entry.evidence)
  statement : Tells members "controle" Value.IsText (some entry.statement)
  manual : ∃ found, Tells members "manual_verification" Value.IsTruth found ∧
    found.getD false = entry.manual
  notes : ∃ found, Tells members "notes" Value.IsNote found ∧ found.getD none = entry.notes
  resources : ∃ found, Tells members "azure_resources" (Value.IsList ResourceEntry.Spelled) found ∧
    found.getD [] = entry.resources

/-- The value spells the control and nothing else. -/
def Spelled : Value → ControlEntry → Prop := Value.IsRecord Told

def layout : Layout fields {} where
  places := [
    .text "reglementation" Seen.regulation (by simp [fields]) (by simp [fields]),
    .text "exigence" Seen.requirement (by simp [fields]) (by simp [fields]),
    .text "preuve" Seen.evidence (by simp [fields]) (by simp [fields]),
    .text "controle" Seen.statement (by simp [fields]) (by simp [fields]),
    .truth "manual_verification" Seen.manual (by simp [fields]) (by simp [fields]),
    { name := "notes", means := Value.IsNote, get := Seen.notes
      shape := Shape.optional Shape.string
      shape_eq_ok_iff := optional_string_eq_ok_iff
      keeps := by simp [fields]
      leaves := by simp [fields] },
    .list "azure_resources" ResourceEntry.shape_eq_ok_iff Seen.resources (by simp [fields])
      (by simp [fields])]
  names := rfl
  empty := by simp
  ext := by
    rintro ⟨⟩ ⟨⟩ h
    simpa using h

theorem shape_eq_ok_iff (value : Value) (entry : ControlEntry) :
    shape value = .ok entry ↔ Spelled value entry := by
  unfold shape
  simp only [bind_eq_ok_iff, layout.record_eq_ok_iff, require_eq_ok_iff]
  constructor
  · rintro ⟨seen, ⟨members, hm, hd, htells⟩, regulation, hregulation, requirement, hrequirement,
      evidence, hevidence, statement, hstatement, he⟩
    obtain rfl := Except.ok.inj he
    simp only [layout, Place.text, Place.truth, Place.list, List.forall_mem_cons, hregulation,
      hrequirement, hevidence, hstatement] at htells
    obtain ⟨hreg, hreq, hev, hst, hmanual, hnotes, hresources, -⟩ := htells
    exact ⟨members, hm, hd, hreg, hreq, hev, hst, ⟨seen.manual, hmanual, rfl⟩,
      ⟨seen.notes, hnotes, rfl⟩, seen.resources, hresources, rfl⟩
  · rintro ⟨members, hm, hd, hreg, hreq, hev, hst, ⟨manual, hmanual, hm'⟩, ⟨notes, hnotes, hn⟩,
      resources, hresources, hr⟩
    refine ⟨⟨some entry.regulation, some entry.requirement, some entry.evidence,
      some entry.statement, manual, notes, resources⟩, ⟨members, hm, hd, ?_⟩, _, rfl, _, rfl, _,
      rfl, _, rfl, ?_⟩
    · simp only [layout, Place.text, Place.truth, Place.list, List.forall_mem_cons]
      exact ⟨hreg, hreq, hev, hst, hmanual, hnotes, hresources, List.forall_mem_nil _⟩
    · dsimp only
      rw [hm', hn, hr]
      rfl

end ControlEntry

end CloudAudit
