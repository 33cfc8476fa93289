import CloudAudit.Proofs.Except
import CloudAudit.Yaml.Record

/-!
# Entries of nodes

What a node says, told without its reader: a number, one of some names, or another node under a
name. When a record is read out of a node, a field that has a place of its own finds there what the
entry of its name says, and nothing where there is no such entry (`Place.rel_of_record`).
-/

namespace CloudAudit.Yaml.Node

/-! ## What nodes say -/

/-- The text of a scalar as it is written. -/
def written? : Node → Option String
  | scalar _ text _ => some text
  | _ => none

/-- The node under a name in a mapping, the first one if there are several. -/
def member? (name : String) : Node → Option Node
  | mapping _ entries => (entries.find? fun entry => entry.1.written? = some name).map Prod.snd
  | _ => none

/-- A plain scalar, or a literal one that is said to be an integer, with the digits of a number. -/
def IsNatural (node : Node) (n : Nat) : Prop :=
  ∃ tag text style, node = scalar tag text style ∧
    (style = .plain ∨ style = .literal ∧ tag = some (ScalarValue.coreTag "int")) ∧
    naturalIn? text = some n

/-- A scalar that is the name, or nothing at all with the name as its tag. -/
def IsChoice (node : Node) (name : String) : Prop :=
  ∃ tag text style, node = scalar tag text style ∧
    match Value.privateTag? tag with
    | none => text = name
    | some tag => tag = name ∧ style = .plain ∧ (text.isEmpty ∨ ScalarValue.isNullWord text)

section Readers

variable {expected path : String} {node : Node}

theorem text_eq_ok_iff {s : String} :
    text expected path node = .ok s ↔ node.written? = some s := by
  cases node with
  | scalar tag written style =>
    show Except.ok written = Except.ok s ↔ some written = some s
    rw [Except.ok.injEq, Option.some.injEq]
  | sequence tag items => exact ⟨nofun, nofun⟩
  | mapping tag entries => exact ⟨nofun, nofun⟩

theorem isNatural_scalar_iff {tag : Option String} {written : String} {style : ScalarStyle}
    {n : Nat} : (scalar tag written style).IsNatural n ↔
      (style = .plain ∨ style = .literal ∧ tag = some (ScalarValue.coreTag "int")) ∧
        naturalIn? written = some n := by
  constructor
  · rintro ⟨_, _, _, ⟨⟩, h⟩
    exact h
  · intro h
    exact ⟨tag, written, style, rfl, h⟩

theorem natural_eq_ok_iff {n : Nat} : natural expected path node = .ok n ↔ node.IsNatural n := by
  cases node with
  | scalar tag written style =>
    rw [isNatural_scalar_iff, natural]
    simp only [Bool.or_eq_true, Bool.and_eq_true, decide_eq_true_eq]
    by_cases h : style = .plain ∨ style = .literal ∧ tag = some (ScalarValue.coreTag "int")
    · rw [if_pos h]
      cases naturalIn? written <;> simp [h, fault]
    · rw [if_neg h]
      simp [h, fault]
  | sequence tag items => exact ⟨nofun, nofun⟩
  | mapping tag entries => exact ⟨nofun, nofun⟩

theorem isChoice_scalar_iff {tag : Option String} {written : String} {style : ScalarStyle}
    {name : String} : (scalar tag written style).IsChoice name ↔
      match Value.privateTag? tag with
      | none => written = name
      | some tag => tag = name ∧ style = .plain ∧ (written.isEmpty ∨ ScalarValue.isNullWord written)
      := by
  constructor
  · rintro ⟨_, _, _, ⟨⟩, h⟩
    exact h
  · intro h
    exact ⟨tag, written, style, rfl, h⟩

theorem choice_eq_ok_iff {names : List String} {name : String} :
    choice names path node = .ok name ↔ name ∈ names ∧ node.IsChoice name := by
  have hknown (found : String) :
      (if names.contains found then Except.ok found
        else fault path (unknownVariant found names)) = .ok name ↔ name ∈ names ∧ found = name := by
    by_cases h : found ∈ names
    · rw [if_pos (List.contains_iff_mem.mpr h), Except.ok.injEq]
      exact ⟨fun heq => ⟨heq ▸ h, heq⟩, And.right⟩
    · rw [if_neg (mt List.contains_iff_mem.mp h)]
      exact ⟨nofun, fun ⟨hname, heq⟩ => absurd (heq ▸ hname) h⟩
  have hfault (tag : String) {reason : String} :
      ((if names.contains tag then Except.ok tag
        else fault path (unknownVariant tag names)) >>= fun _ => fault path reason) ≠ .ok name := by
    intro h
    obtain ⟨_, -, h⟩ := bind_eq_ok_iff.mp h
    exact nomatch h
  unfold choice
  cases node with
  | scalar tag written style =>
    rw [isChoice_scalar_iff]
    dsimp only
    cases Value.privateTag? tag with
    | none => exact hknown written
    | some tag =>
      dsimp only
      rw [bind_eq_ok_iff]
      simp only [Bool.and_eq_true, Bool.or_eq_true, decide_eq_true_eq]
      constructor
      · rintro ⟨found, hfound, h⟩
        split at h
        · next hblank =>
          obtain rfl := Except.ok.inj h
          obtain ⟨hmem, rfl⟩ := (hknown tag).mp hfound
          exact ⟨hmem, rfl, hblank⟩
        · exact nomatch h
      · rintro ⟨hmem, rfl, hblank⟩
        refine ⟨tag, (hknown tag).mpr ⟨hmem, rfl⟩, ?_⟩
        rw [if_pos hblank]
        rfl
  | sequence tag | mapping tag =>
    refine ⟨fun h => ?_, fun ⟨_, _, _, _, h, _⟩ => nomatch h⟩
    dsimp only at h
    cases htag : Value.privateTag? tag with
    | none => exact nomatch htag ▸ h
    | some tag => exact absurd (htag ▸ h) (hfault tag)

end Readers

/-! ## Places of fields -/

section Fields

variable {σ α β : Type}

/-- The field fills a place of the state with what a reader reads. -/
structure Field.Keeps (field : Field σ) (read : Reader α) (get : σ → Option α) : Prop where
  seen : ∀ state, field.seen state = (get state).isSome
  read : ∀ state path node, (field.read state path node).map get = (read path node).map some

/-- The field does not touch a place of the state. -/
def Field.Leaves (field : Field σ) (get : σ → Option α) : Prop :=
  ∀ state path node after, field.read state path node = .ok after → get after = get state

section Setting

variable {name : String} {seen : σ → Bool} {get : σ → Option α}

@[simp] theorem Field.keeps_of_set {read : Reader α} {set : σ → α → σ}
    (hseen : ∀ state, seen state = (get state).isSome)
    (h : ∀ state a, get (set state a) = some a) :
    Field.Keeps ⟨name, seen, fun state path node => set state <$> read path node⟩ read get := by
  refine ⟨hseen, fun state path node => ?_⟩
  show Except.map get (set state <$> read path node) = Except.map some (read path node)
  cases read path node with
  | error e => rfl
  | ok a => exact congrArg Except.ok (h state a)

@[simp] theorem Field.leaves_of_set {read : Reader β} {set : σ → β → σ}
    (h : ∀ state b, get (set state b) = get state) :
    Field.Leaves ⟨name, seen, fun state path node => set state <$> read path node⟩ get := by
  intro state path node after hread
  obtain ⟨b, -, rfl⟩ := map_eq_ok_iff.mp hread
  exact h state b

end Setting

/-- The field of a name fills a place of the state with what a reader reads, and no other touches
it. -/
structure Place (fields : List (Field σ)) (name : String) (read : Reader α) (get : σ → Option α) :
    Prop where
  known : name ∈ fields.map Field.name
  keeps : ∀ field ∈ fields, field.name = name → field.Keeps read get
  leaves : ∀ field ∈ fields, field.name ≠ name → field.Leaves get

variable {fields : List (Field σ)} {path : String} {key value : Node} {state after : σ}

theorem entry_eq_ok_iff :
    entry fields path state key value = .ok after ↔ ∃ name, key.written? = some name ∧
      match fields.find? fun field => field.name == name with
      | some field => field.seen state = false ∧
          field.read state (fieldPath path name) value = .ok after
      | none => state = after := by
  unfold entry
  rw [bind_eq_ok_iff]
  refine exists_congr fun name => and_congr text_eq_ok_iff ?_
  cases fields.find? fun field => field.name == name with
  | some field =>
    dsimp only [fault]
    rw [guard_eq_ok_iff, Bool.not_eq_true]
  | none => exact ⟨Except.ok.inj, congrArg Except.ok⟩

namespace Place

variable {name : String} {read : Reader α} {get : σ → Option α} (place : Place fields name read get)

include place

/-- The entry of the name fills the place, which is empty before. -/
theorem get_of_entry_self (hkey : key.written? = some name)
    (h : entry fields path state key value = .ok after) :
    get state = none ∧ ∃ a, read (fieldPath path name) value = .ok a ∧ get after = some a := by
  obtain ⟨other, hother, h⟩ := entry_eq_ok_iff.mp h
  obtain rfl : name = other := Option.some.inj (hkey.symm.trans hother)
  obtain ⟨field, hfind⟩ : ∃ field,
      (fields.find? fun field => field.name == name) = some field := by
    rw [← Option.isSome_iff_exists, List.find?_isSome]
    simpa using place.known
  rw [hfind] at h
  obtain ⟨hseen, hread⟩ := h
  have hname : field.name = name := by simpa using List.find?_some hfind
  have hkeeps := place.keeps field (List.mem_of_find?_eq_some hfind) hname
  rw [hkeeps.seen, Option.isSome_eq_false_iff, Option.isNone_iff_eq_none] at hseen
  have hfilled := hkeeps.read state (fieldPath path name) value
  rw [hread] at hfilled
  obtain ⟨a, ha, hget⟩ := map_eq_ok_iff.mp hfilled.symm
  exact ⟨hseen, a, ha, hget.symm⟩

theorem get_of_entry_other (hkey : key.written? ≠ some name)
    (h : entry fields path state key value = .ok after) : get after = get state := by
  obtain ⟨other, hother, h⟩ := entry_eq_ok_iff.mp h
  split at h
  · next field hfind =>
    have hname : field.name = other := by simpa using List.find?_some hfind
    refine place.leaves field (List.mem_of_find?_eq_some hfind) ?_ _ _ _ _ h.2
    rintro rfl
    exact hkey (hname ▸ hother)
  · rw [h]

/-- A place that is filled stays as it is. -/
theorem get_of_foldlM {a : α} (hstate : get state = some a) {entries : List (Node × Node)}
    (h : entries.foldlM (fun state (key, value) => entry fields path state key value) state =
      .ok after) : get after = some a := by
  induction entries generalizing state with
  | nil => exact Except.ok.inj h ▸ hstate
  | cons first rest ih =>
    rw [List.foldlM_cons, bind_eq_ok_iff] at h
    obtain ⟨next, hfirst, hrest⟩ := h
    by_cases hkey : first.1.written? = some name
    · -- a second entry of the name is refused
      exact absurd (place.get_of_entry_self hkey hfirst).1 (by rw [hstate]; nofun)
    · exact ih ((place.get_of_entry_other hkey hfirst).trans hstate) hrest

theorem rel_of_foldlM (hstate : get state = none) {entries : List (Node × Node)}
    (h : entries.foldlM (fun state (key, value) => entry fields path state key value) state =
      .ok after) :
    Option.Rel (fun child a => read (fieldPath path name) child = .ok a)
      ((entries.find? fun entry => entry.1.written? = some name).map Prod.snd) (get after) := by
  induction entries generalizing state with
  | nil =>
    obtain rfl := Except.ok.inj h
    rw [hstate]
    exact .none
  | cons first rest ih =>
    rw [List.foldlM_cons, bind_eq_ok_iff] at h
    obtain ⟨next, hfirst, hrest⟩ := h
    by_cases hkey : first.1.written? = some name
    · obtain ⟨-, a, ha, hget⟩ := place.get_of_entry_self hkey hfirst
      rw [List.find?_cons_of_pos (by simpa using hkey), place.get_of_foldlM hget hrest]
      exact .some ha
    · rw [List.find?_cons_of_neg (by simpa using hkey)]
      exact ih ((place.get_of_entry_other hkey hfirst).trans hstate) hrest

/-- **After a record is read, a place has what the entry of its name says.** -/
theorem rel_of_record {title : String} {node : Node} (hstate : get state = none)
    (h : record title fields state path node = .ok after) :
    Option.Rel (fun child a => read (fieldPath path name) child = .ok a) (node.member? name)
      (get after) := by
  have hblank (h : (if node.isBlank then Except.ok state else
      fault path (node.mismatch ("struct " ++ title))) = .ok after) : get after = none := by
    split at h
    · exact Except.ok.inj h ▸ hstate
    · exact nomatch h
  cases node with
  | mapping tag entries => exact place.rel_of_foldlM hstate h
  | scalar tag text style => exact hblank h ▸ .none
  | sequence tag items => exact hblank h ▸ .none

end Place

end Fields

end CloudAudit.Yaml.Node
