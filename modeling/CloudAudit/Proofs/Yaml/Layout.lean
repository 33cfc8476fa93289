import CloudAudit.Proofs.Yaml.Members
import Mathlib.Data.List.Induction
import Mathlib.Data.List.Nodup

/-!
# Layouts of records

A record is read into a state with one place for each field. Every field fills its own place and
leaves the others alone, so it makes no difference in which order the members come: a record is
read exactly when its members are those of the fields, none comes twice, and each says something of
the kind of its field (`Layout.record_eq_ok_iff`).
-/

namespace CloudAudit.Yaml.Shape

variable {σ : Type} {fields : List (Field σ)}

/-! ## Members -/

/-- What the member of a name says, if there is one. -/
def Tells {α : Type} (members : List (String × Value)) (name : String)
    (means : Value → α → Prop) : Option α → Prop
  | none => name ∉ members.map Prod.fst
  | some a => ∃ value, (name, value) ∈ members ∧ means value a

/-- All members have names that are known, and no two have the same. -/
structure Declared (names : List String) (members : List (String × Value)) : Prop where
  known : ∀ member ∈ members, member.1 ∈ names
  distinct : (members.map Prod.fst).Nodup

theorem Declared.value_eq {names : List String} {members : List (String × Value)}
    (h : Declared names members) {name : String} {value other : Value}
    (hv : (name, value) ∈ members) (ho : (name, other) ∈ members) : value = other :=
  congrArg Prod.snd (List.inj_on_of_nodup_map h.distinct hv ho rfl)

/-! ## Places -/

/-- The field fills a place of the state with what a shape reads. -/
structure Field.Keeps {α : Type} (field : Field σ) (shape : Shape α) (get : σ → Option α) :
    Prop where
  seen : ∀ state, field.seen state = (get state).isSome
  read : ∀ state value, (field.read state value).map get = (shape value).map some

/-- The field does not touch a place of the state. -/
def Field.Leaves {α : Type} (field : Field σ) (get : σ → Option α) : Prop :=
  ∀ state value after, field.read state value = .ok after → get after = get state

section Fields

variable {α β : Type} {name : String} {seen : σ → Bool} {get : σ → Option α}

@[simp] theorem Field.keeps_of_view {shape : Shape β} {set : σ → β → σ} {view : β → α}
    (hseen : ∀ state, seen state = (get state).isSome)
    (h : ∀ state b, get (set state b) = some (view b)) :
    Field.Keeps ⟨name, seen, fun state value => set state <$> shape value⟩
      (fun value => view <$> shape value) get := by
  refine ⟨hseen, fun state value => ?_⟩
  show Except.map get (set state <$> shape value) = Except.map some (view <$> shape value)
  cases shape value with
  | error e => rfl
  | ok b => exact congrArg Except.ok (h state b)

@[simp] theorem Field.keeps_of_set {shape : Shape α} {set : σ → α → σ}
    (hseen : ∀ state, seen state = (get state).isSome)
    (h : ∀ state a, get (set state a) = some a) :
    Field.Keeps ⟨name, seen, fun state value => set state <$> shape value⟩ shape get := by
  have hview : Field.Keeps ⟨name, seen, fun state value => set state <$> shape value⟩
      (fun value => id <$> shape value) get := Field.keeps_of_view hseen h
  simpa using hview

@[simp] theorem Field.leaves_of_set {shape : Shape β} {set : σ → β → σ}
    (h : ∀ state b, get (set state b) = get state) :
    Field.Leaves ⟨name, seen, fun state value => set state <$> shape value⟩ get := by
  intro state value after hread
  obtain ⟨b, -, rfl⟩ := map_eq_ok_iff.mp hread
  exact h state b

end Fields

/-- A place of the state that the field of a name fills, and no other touches. -/
structure Place (fields : List (Field σ)) where
  {α : Type}
  name : String
  means : Value → α → Prop
  get : σ → Option α
  shape : Shape α
  shape_eq_ok_iff : ∀ value a, shape value = .ok a ↔ means value a
  keeps : ∀ field ∈ fields, field.name = name → field.Keeps shape get
  leaves : ∀ field ∈ fields, field.name ≠ name → field.Leaves get

namespace Place

@[simp] def text (name : String) (get : σ → Option String)
    (keeps : ∀ field ∈ fields, field.name = name → field.Keeps string get)
    (leaves : ∀ field ∈ fields, field.name ≠ name → field.Leaves get) : Place fields :=
  ⟨name, Value.IsText, get, string, string_eq_ok_iff, keeps, leaves⟩

@[simp] def truth (name : String) (get : σ → Option Bool)
    (keeps : ∀ field ∈ fields, field.name = name → field.Keeps Shape.truth get)
    (leaves : ∀ field ∈ fields, field.name ≠ name → field.Leaves get) : Place fields :=
  ⟨name, Value.IsTruth, get, Shape.truth, truth_eq_ok_iff, keeps, leaves⟩

@[simp] def list {α : Type} (name : String) {shape : Shape α} {means : Value → α → Prop}
    (h : ∀ value a, shape value = .ok a ↔ means value a) (get : σ → Option (List α))
    (keeps : ∀ field ∈ fields, field.name = name → field.Keeps (Shape.list shape) get)
    (leaves : ∀ field ∈ fields, field.name ≠ name → field.Leaves get) : Place fields :=
  ⟨name, Value.IsList means, get, Shape.list shape, list_eq_ok_iff h, keeps, leaves⟩

variable (place : Place fields)

theorem get_of_fill_self {state after : σ} {value : Value}
    (h : fill fields state (place.name, value) = .ok after) :
    place.get state = none ∧ ∃ a, place.means value a ∧ place.get after = some a := by
  obtain ⟨field, hfind, hseen, hread⟩ := fill_eq_ok_iff.mp h
  have hname : field.name = place.name := by simpa using List.find?_some hfind
  have hkeeps := place.keeps field (List.mem_of_find?_eq_some hfind) hname
  rw [hkeeps.seen, Option.isSome_eq_false_iff, Option.isNone_iff_eq_none] at hseen
  have hfilled := hkeeps.read state value
  rw [hread] at hfilled
  obtain ⟨a, ha, hget⟩ := map_eq_ok_iff.mp hfilled.symm
  exact ⟨hseen, a, (place.shape_eq_ok_iff value a).mp ha, hget.symm⟩

theorem get_of_fill_other {state after : σ} {member : String × Value}
    (hne : member.1 ≠ place.name) (h : fill fields state member = .ok after) :
    place.get after = place.get state := by
  obtain ⟨field, hfind, -, hread⟩ := fill_eq_ok_iff.mp h
  have hname : field.name = member.1 := by simpa using List.find?_some hfind
  have hleaves := place.leaves field (List.mem_of_find?_eq_some hfind) (hname ▸ hne)
  exact hleaves state member.2 after hread

/-- An empty place can be filled with whatever says something of its kind. -/
theorem exists_fill (hname : place.name ∈ fields.map Field.name) {state : σ} {value : Value}
    {a : place.α} (hempty : place.get state = none) (ha : place.means value a) :
    ∃ after, fill fields state (place.name, value) = .ok after := by
  obtain ⟨field, hfind⟩ : ∃ field,
      (fields.find? fun field => field.name == place.name) = some field := by
    rw [← Option.isSome_iff_exists, List.find?_isSome]
    simpa using hname
  have hfield : field.name = place.name := by simpa using List.find?_some hfind
  have hkeeps := place.keeps field (List.mem_of_find?_eq_some hfind) hfield
  have hfilled := hkeeps.read state value
  rw [(place.shape_eq_ok_iff value a).mpr ha] at hfilled
  obtain ⟨after, hread, -⟩ := map_eq_ok_iff.mp hfilled
  have hseen : field.seen state = false := by rw [hkeeps.seen, hempty]; rfl
  exact ⟨after, fill_eq_ok_iff.mpr ⟨field, hfind, hseen, hread⟩⟩

/-- When all members are read, a place holds what the member of its name says. -/
theorem tells_of_foldlM {start state : σ} (hstart : place.get start = none)
    {members : List (String × Value)} (h : members.foldlM (fill fields) start = .ok state) :
    Tells members place.name place.means (place.get state) := by
  induction members using List.reverseRecOn generalizing state with
  | nil =>
    obtain rfl : start = state := Except.ok.inj h
    rw [hstart]
    exact List.not_mem_nil
  | append_singleton members member ih =>
    rw [List.foldlM_append, bind_eq_ok_iff] at h
    obtain ⟨mid, hmembers, h⟩ := h
    have hlast : fill fields mid member = .ok state := by simpa using h
    have hmid := ih hmembers
    by_cases hname : member.1 = place.name
    · obtain ⟨name, value⟩ := member
      obtain rfl : name = place.name := hname
      obtain ⟨-, a, ha, hget⟩ := place.get_of_fill_self hlast
      rw [hget]
      exact ⟨value, by simp, ha⟩
    · rw [place.get_of_fill_other hname hlast]
      cases hget : place.get mid with
      | none =>
        rw [hget] at hmid
        intro hmem
        rw [List.map_append, List.mem_append, List.map_singleton, List.mem_singleton] at hmem
        exact hmem.elim hmid (Ne.symm hname)
      | some a =>
        rw [hget] at hmid
        obtain ⟨value, hv, ha⟩ := hmid
        exact ⟨value, List.mem_append_left _ hv, ha⟩

/-- Members tell one thing about a place. -/
theorem tells_unique {names : List String} {members : List (String × Value)}
    (hd : Declared names members) {first second : Option place.α}
    (hfirst : Tells members place.name place.means first)
    (hsecond : Tells members place.name place.means second) : first = second := by
  cases first with
  | none =>
    cases second with
    | none => rfl
    | some b =>
      obtain ⟨value, hv, -⟩ := hsecond
      exact absurd (List.mem_map_of_mem hv) hfirst
  | some a =>
    obtain ⟨value, hv, ha⟩ := hfirst
    cases second with
    | none => exact absurd (List.mem_map_of_mem hv) hsecond
    | some b =>
      obtain ⟨other, ho, hb⟩ := hsecond
      obtain rfl := hd.value_eq hv ho
      rw [← place.shape_eq_ok_iff] at ha hb
      rw [← Except.ok.inj (ha.symm.trans hb)]

end Place

/-! ## Layouts -/

/-- Every field has its place, all places are empty at first, and the state has nothing else. -/
structure Layout (fields : List (Field σ)) (start : σ) where
  places : List (Place fields)
  names : places.map Place.name = fields.map Field.name
  empty : ∀ place ∈ places, place.get start = none
  ext : ∀ state other : σ, (∀ place ∈ places, place.get state = place.get other) → state = other

namespace Layout

variable {start : σ} (layout : Layout fields start) {members : List (String × Value)}

include layout

theorem exists_place {name : String} (h : name ∈ fields.map Field.name) :
    ∃ place ∈ layout.places, place.name = name := by
  rw [← layout.names] at h
  exact List.mem_map.mp h

theorem declared_of_foldlM {state : σ} (h : members.foldlM (fill fields) start = .ok state) :
    Declared (fields.map Field.name) members := by
  induction members using List.reverseRecOn generalizing state with
  | nil => exact ⟨nofun, List.nodup_nil⟩
  | append_singleton members member ih =>
    rw [List.foldlM_append, bind_eq_ok_iff] at h
    obtain ⟨mid, hmembers, h⟩ := h
    have hlast : fill fields mid member = .ok state := by simpa using h
    obtain ⟨hknown, hdistinct⟩ := ih hmembers
    have hname : member.1 ∈ fields.map Field.name := by
      obtain ⟨field, hfind, -, -⟩ := fill_eq_ok_iff.mp hlast
      have hfield : field.name = member.1 := by simpa using List.find?_some hfind
      exact hfield ▸ List.mem_map_of_mem (List.mem_of_find?_eq_some hfind)
    -- the place of the member is empty before it is read, so the name is a new one
    obtain ⟨place, hplace, hpname⟩ := layout.exists_place hname
    have hnew : member.1 ∉ members.map Prod.fst := by
      have hself : fill fields mid (place.name, member.2) = .ok state := by rw [hpname]; exact hlast
      have htells := place.tells_of_foldlM (layout.empty place hplace) hmembers
      rw [(place.get_of_fill_self hself).1] at htells
      exact hpname ▸ htells
    constructor
    · intro other ho
      rcases List.mem_append.mp ho with ho | ho
      · exact hknown other ho
      · exact List.mem_singleton.mp ho ▸ hname
    · rw [List.map_append, List.nodup_append]
      refine ⟨hdistinct, List.nodup_singleton _, fun a ha b hb => ?_⟩
      rintro rfl
      exact hnew (List.mem_singleton.mp hb ▸ ha)

/-- Members that say something to their fields can be read one after the other. -/
theorem exists_foldlM (hd : (members.map Prod.fst).Nodup)
    (h : ∀ member ∈ members, ∃ place ∈ layout.places,
      place.name = member.1 ∧ ∃ a, place.means member.2 a) :
    ∃ state, members.foldlM (fill fields) start = .ok state := by
  induction members using List.reverseRecOn with
  | nil => exact ⟨start, rfl⟩
  | append_singleton members member ih =>
    rw [List.map_append, List.nodup_append] at hd
    obtain ⟨hdistinct, -, hne⟩ := hd
    obtain ⟨mid, hmembers⟩ := ih hdistinct fun other ho => h other (List.mem_append_left _ ho)
    obtain ⟨place, hplace, hname, a, ha⟩ := h member (by simp)
    have hempty : place.get mid = none := by
      have htells := place.tells_of_foldlM (layout.empty place hplace) hmembers
      cases hget : place.get mid with
      | none => rfl
      | some b =>
        rw [hget] at htells
        obtain ⟨value, hv, -⟩ := htells
        exact absurd hname (hne _ (List.mem_map_of_mem hv) _ (by simp))
    have hin : place.name ∈ fields.map Field.name := layout.names ▸ List.mem_map_of_mem hplace
    obtain ⟨after, hfill⟩ := place.exists_fill hin hempty ha
    rw [hname] at hfill
    refine ⟨after, ?_⟩
    rw [List.foldlM_append, bind_eq_ok_iff]
    exact ⟨mid, hmembers, by simpa using hfill⟩

/-- **What it takes to read a record.** -/
theorem record_eq_ok_iff {name : String} {value : Value} {state : σ} :
    record name fields start value = .ok state ↔
      ∃ members, value.members? = some members ∧ Declared (fields.map Field.name) members ∧
        ∀ place ∈ layout.places, Tells members place.name place.means (place.get state) := by
  rw [record_eq_ok_iff_fill]
  refine exists_congr fun members => and_congr_right fun _ => ⟨fun h => ?_, ?_⟩
  · exact ⟨layout.declared_of_foldlM h,
      fun place hplace => place.tells_of_foldlM (layout.empty place hplace) h⟩
  · rintro ⟨hd, htells⟩
    obtain ⟨other, hother⟩ := layout.exists_foldlM hd.distinct fun member hm => by
      obtain ⟨place, hplace, hname⟩ := layout.exists_place (hd.known member hm)
      have hmember : (place.name, member.2) ∈ members := hname ▸ hm
      have htold := htells place hplace
      cases hget : place.get state with
      | none =>
        rw [hget] at htold
        exact absurd (List.mem_map_of_mem hmember) htold
      | some a =>
        rw [hget] at htold
        obtain ⟨told, ht, ha⟩ := htold
        obtain rfl := hd.value_eq ht hmember
        exact ⟨place, hplace, hname, a, ha⟩
    -- what was read is what the members tell, and that is the state
    rw [hother, layout.ext other state fun place hplace => ?_]
    exact place.tells_unique hd (place.tells_of_foldlM (layout.empty place hplace) hother)
      (htells place hplace)

end Layout

end CloudAudit.Yaml.Shape
