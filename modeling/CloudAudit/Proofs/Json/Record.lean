import CloudAudit.Json.Record
import CloudAudit.Proofs.Distinct
import CloudAudit.Proofs.Except

/-!
# Records are read back

What is written for a record is an object with keys among the names of its fields, each once, and
all of its members are found again (`fields?_object`). Values are read back when they fit: numbers
below the word limit, trees in canonical form, and lists item by item.
-/

namespace CloudAudit.Json

open Number

/-! ## Canonical trees -/

theorem insertMember_of_lt {key : String} {value : Json} {members : List (String × Json)}
    (h : ∀ k ∈ members.map Prod.fst, key < k) :
    insertMember key value members = (key, value) :: members := by
  cases members with
  | nil => rfl
  | cons member rest =>
    obtain ⟨k, v⟩ := member
    exact if_pos (h k List.mem_cons_self)

mutual

/-- Nothing is left to do for a tree in canonical form. -/
theorem canonical_of_canonical : ∀ {j : Json}, j.Canonical → j.canonical = j
  | .array items, h => by
    unfold Canonical at h
    rw [canonical, canonicalItems_of_canonical h]
  | .object members, h => by
    unfold Canonical at h
    rw [canonical, canonicalMembers_of_canonical h.1 h.2]
  | .null, _ | .bool _, _ | .int _, _ | .float _, _ | .string _, _ => by rw [canonical] <;> nofun

theorem canonicalItems_of_canonical :
    ∀ {items : List Json}, CanonicalItems items → canonicalItems items = items
  | [], _ => rfl
  | item :: rest, h => by
    unfold CanonicalItems at h
    rw [canonicalItems, canonical_of_canonical h.1, canonicalItems_of_canonical h.2]

theorem canonicalMembers_of_canonical :
    ∀ {members : List (String × Json)}, (members.map Prod.fst).Pairwise (· < ·) →
      CanonicalMembers members → canonicalMembers members = members
  | [], _, _ => rfl
  | (key, value) :: rest, hkeys, h => by
    unfold CanonicalMembers at h
    obtain ⟨hfirst, hrest⟩ := List.pairwise_cons.mp hkeys
    rw [canonicalMembers, canonical_of_canonical h.1, canonicalMembers_of_canonical hrest h.2,
      insertMember_of_lt hfirst]

end

/-! ## Fields -/

/-- The members of a record are its fields. -/
theorem objectFields?_object {names : List String} (hn : names.Nodup)
    {members : List (String × Json)} (h : (members.map Prod.fst).Sublist names) :
    objectFields? names (.object members) = some members := by
  have hknown : (members.filter fun m => names.contains m.1) = members := by
    refine List.filter_eq_self.mpr fun m hm => ?_
    exact List.contains_iff_mem.mpr (h.subset (List.mem_map_of_mem hm))
  unfold objectFields?
  dsimp only
  rw [hknown, eraseDups_of_nodup (h.nodup hn), List.length_map, if_pos rfl]

theorem fields?_object {names : List String} (hn : names.Nodup) {members : List (String × Json)}
    (h : (members.map Prod.fst).Sublist names) :
    fields? names (.object members) = some members :=
  objectFields?_object hn h

namespace Fields

variable {α : Type} {fields : Fields} {name : String} {value : Json} {read? : Json → Option α}
  {result : α}

theorem required_eq_some (hl : fields.lookup name = some value) (h : read? value = some result) :
    fields.required name read? = some result := by
  rw [required, hl]
  exact h

theorem withDefault_eq_some {default : α} (hl : fields.lookup name = some value)
    (h : read? value = some result) : fields.withDefault name default read? = some result := by
  rw [withDefault, hl]
  exact h

theorem withDefault_of_absent {default : α} (hl : fields.lookup name = none) :
    fields.withDefault name default read? = some default := by
  rw [withDefault, hl]

end Fields

/-! ## Members that may be left out -/

section Optional

variable {key : String} {front back : Fields}

theorem map_fst_optionalMember_sublist (value : Option Json) :
    ((front ++ optionalMember key value ++ back).map Prod.fst).Sublist
      (front.map Prod.fst ++ key :: back.map Prod.fst) := by
  rw [List.append_assoc, List.map_append, List.map_append]
  refine (List.Sublist.refl _).append ?_
  cases value with
  | none => exact List.sublist_cons_self key _
  | some value => exact List.Sublist.refl _

/-- The other members are found whether or not it is there. -/
theorem lookup_past_optionalMember {name : String} (h : name ≠ key) (value : Option Json)
    {found : Json} (hl : (front ++ back).lookup name = some found) :
    (front ++ optionalMember key value ++ back).lookup name = some found := by
  have hnot : (optionalMember key value).lookup name = none := by
    cases value with
    | none => rfl
    | some value => simp [optionalMember, List.lookup_cons, beq_eq_false_iff_ne.mpr h]
  rw [List.lookup_append] at hl
  rw [List.lookup_append, List.lookup_append, hnot, Option.or_none, hl]

theorem required_past_optionalMember {α : Type} {read? : Json → Option α} {name : String}
    {value : Option Json} {found : Json} {result : α} (hne : name ≠ key)
    (hl : (front ++ back).lookup name = some found) (h : read? found = some result) :
    Fields.required (front ++ optionalMember key value ++ back) name read? = some result :=
  Fields.required_eq_some (lookup_past_optionalMember hne value hl) h

/-- What was left out is nothing, and what is there is read. -/
theorem withDefault_optionalMember {α : Type} {read? : Json → Option α} {write : α → Json}
    {value : Option α} (hfront : front.lookup key = none) (hback : back.lookup key = none)
    (h : ∀ a ∈ value, optional? read? (write a) = some (some a)) :
    Fields.withDefault (front ++ optionalMember key (value.map write) ++ back) key none
      (optional? read?) = some value := by
  cases value with
  | none =>
    refine Fields.withDefault_of_absent ?_
    rw [List.lookup_append, List.lookup_append, hfront, hback]
    rfl
  | some a =>
    refine Fields.withDefault_eq_some ?_ (h a rfl)
    rw [List.lookup_append, List.lookup_append, hfront]
    simp [optionalMember]

end Optional

/-! ## Values -/

theorem natural?_int {n : Nat} (h : n < wordLimit) : natural? (.int n) = some n := by
  have hlt : (n : Int) < (wordLimit : Int) := Int.ofNat_lt.mpr h
  show (if 0 ≤ (n : Int) ∧ (n : Int) < (wordLimit : Int) then some (n : Int).toNat else none) = _
  rw [if_pos ⟨Int.natCast_nonneg n, hlt⟩, Int.toNat_natCast]

theorem list?_map {α : Type} {read? : Json → Option α} {write : α → Json} {values : List α}
    (h : ∀ value ∈ values, read? (write value) = some value) :
    list? read? (.array (values.map write)) = some values := by
  show (values.map write).mapM read? = some values
  induction values with
  | nil => rfl
  | cons value rest ih =>
    rw [List.map_cons, List.mapM_cons, h value List.mem_cons_self,
      ih fun other ho => h other (List.mem_cons_of_mem _ ho)]
    rfl

theorem list?_ofTexts (texts : List String) : list? string? (ofTexts texts) = some texts :=
  list?_map fun _ _ => rfl

end CloudAudit.Json
