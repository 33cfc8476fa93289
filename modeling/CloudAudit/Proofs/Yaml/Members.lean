import CloudAudit.Proofs.Except
import CloudAudit.Yaml.Shape

/-!
# Members of values

What a value says, told without its reader: a text, a truth value, a list, a JSON tree, or members
under names. The readers of values accept exactly what says something of their kind, and a record
is read member by member (`record_eq_ok_iff_fill`).
-/

namespace CloudAudit.Yaml

/-! ## What values say -/

namespace Value

def IsText (value : Value) (s : String) : Prop := value.untagged = .string s

def IsTruth (value : Value) (b : Bool) : Prop := value.untagged = .bool b

/-- A text, or null in place of one. -/
def IsNote (value : Value) : Option String → Prop
  | none => value = .null
  | some s => value.IsText s

/-- A sequence, item by item; null is an empty one. -/
def IsList {α : Type} (means : Value → α → Prop) (value : Value) (items : List α) : Prop :=
  (∃ values, value.untagged = .sequence values ∧ List.Forall₂ means values items) ∨
    value.untagged = .null ∧ items = []

mutual

/-- The tree has the values of a document in their places. There is none for a tag or for a key
that is no text, and a number that is none stands for nothing. -/
def IsTree : Value → Json → Prop
  | .null, tree => tree = .null
  | .bool b, tree => tree = .bool b
  | .int n, tree => tree = .int n
  | .float (.finite x), tree => tree = .float x
  | .float _, tree => tree = .null
  | .string s, tree => tree = .string s
  | .sequence items, tree => ∃ trees, AreTrees items trees ∧ tree = .array trees
  | .mapping entries, tree => ∃ members, AreMembers entries members ∧ tree = .object members
  | .tagged _ _, _ => False

def AreTrees : List Value → List Json → Prop
  | [], trees => trees = []
  | item :: rest, trees =>
    ∃ tree others, IsTree item tree ∧ AreTrees rest others ∧ trees = tree :: others

def AreMembers : List (Value × Value) → List (String × Json) → Prop
  | [], members => members = []
  | (key, value) :: rest, members =>
    ∃ name tree others, key.IsText name ∧ IsTree value tree ∧ AreMembers rest others ∧
      members = (name, tree) :: others

end

/-- A value with a JSON tree, which is put into canonical form. -/
def IsJson (value : Value) (tree : Json) : Prop :=
  ∃ raw, value.IsTree raw ∧ raw.canonical = tree

/-- The entries of a mapping under the texts of their keys. -/
def named? : List (Value × Value) → Option (List (String × Value))
  | [] => some []
  | (key, value) :: rest =>
    match key.untagged with
    | .string name => (named? rest).map ((name, value) :: ·)
    | _ => none

/-- The members of a mapping from texts; null has none. -/
def members? (value : Value) : Option (List (String × Value)) :=
  match value.untagged with
  | .mapping entries => named? entries
  | .null => some []
  | _ => none

/-- A mapping whose members tell of a record. -/
def IsRecord {α : Type} (told : List (String × Value) → α → Prop) (value : Value) (a : α) : Prop :=
  ∃ members, value.members? = some members ∧ told members a

end Value

/-! ## Readers -/

namespace Shape

theorem text_eq_ok_iff {expected : String} {value : Value} {s : String} :
    text expected value = .ok s ↔ value.IsText s := by
  unfold text Value.IsText
  cases value.untagged <;> simp

theorem string_eq_ok_iff (value : Value) (s : String) :
    string value = .ok s ↔ value.IsText s :=
  text_eq_ok_iff

theorem truth_eq_ok_iff (value : Value) (b : Bool) : truth value = .ok b ↔ value.IsTruth b := by
  unfold truth Value.IsTruth
  cases value.untagged <;> simp

theorem optional_string_eq_ok_iff (value : Value) (note : Option String) :
    optional string value = .ok note ↔ value.IsNote note := by
  unfold optional
  split
  · cases note <;> simp [Value.IsNote, Value.IsText, Value.untagged]
  · next hnull =>
    simp only [map_eq_ok_iff, string_eq_ok_iff]
    cases note with
    | none => simpa [Value.IsNote] using hnull
    | some s => simp [Value.IsNote]

theorem list_eq_ok_iff {α : Type} {shape : Shape α} {means : Value → α → Prop}
    (h : ∀ value a, shape value = .ok a ↔ means value a) (value : Value) (items : List α) :
    list shape value = .ok items ↔ value.IsList means items := by
  unfold list Value.IsList
  cases value.untagged with
  | sequence values => simp [mapM_eq_ok_iff, h]
  | null => simp [eq_comm]
  | _ => simp

mutual

theorem json_eq_ok_iff (value : Value) (tree : Json) :
    json value = .ok tree ↔ value.IsTree tree := by
  match value with
  | .null | .bool b | .int n | .string s => simp [json, Value.IsTree, eq_comm]
  | .float x => cases x <;> simp [json, Value.IsTree, eq_comm]
  | .sequence items =>
    simp only [json, Value.IsTree, bind_eq_ok_iff, jsonItems_eq_ok_iff items]
    simp [pure, Except.pure, eq_comm]
  | .mapping entries =>
    simp only [json, Value.IsTree, bind_eq_ok_iff, jsonEntries_eq_ok_iff _ entries]
    simp [pure, Except.pure, eq_comm]
  | .tagged tag value => simp [json, Value.IsTree]

theorem jsonItems_eq_ok_iff (items : List Value) (trees : List Json) :
    jsonItems items = .ok trees ↔ Value.AreTrees items trees := by
  match items with
  | [] => simp [jsonItems, Value.AreTrees, eq_comm]
  | item :: rest =>
    simp only [jsonItems, Value.AreTrees, bind_eq_ok_iff, json_eq_ok_iff item,
      jsonItems_eq_ok_iff rest]
    simp [pure, Except.pure, eq_comm]

theorem jsonEntries_eq_ok_iff (expected : String) (entries : List (Value × Value))
    (members : List (String × Json)) :
    jsonEntries expected entries = .ok members ↔ Value.AreMembers entries members := by
  match entries with
  | [] => simp [jsonEntries, Value.AreMembers, eq_comm]
  | (key, value) :: rest =>
    simp only [jsonEntries, Value.AreMembers, bind_eq_ok_iff, text_eq_ok_iff,
      json_eq_ok_iff value, jsonEntries_eq_ok_iff _ rest]
    simp [pure, Except.pure, eq_comm]

end

theorem canonical_json_eq_ok_iff (value : Value) (tree : Json) :
    Json.canonical <$> json value = .ok tree ↔ value.IsJson tree := by
  have hmap : Json.canonical <$> json value = (json value).map Json.canonical := rfl
  rw [hmap, map_eq_ok_iff]
  simp only [json_eq_ok_iff]
  exact Iff.rfl

theorem require_eq_ok_iff {α : Type} {name : String} {found : Option α} {a : α} :
    require name found = .ok a ↔ found = some a := by
  cases found <;> simp [require]

/-! ## Records -/

section Records

variable {σ : Type} {fields : List (Field σ)}

/-- Reads one member into the field of its name. -/
def fill (fields : List (Field σ)) (state : σ) (member : String × Value) : Except String σ :=
  match fields.find? fun field => field.name == member.1 with
  | some field =>
    if field.seen state then .error (duplicateField member.1) else field.read state member.2
  | none => .error (unknownField member.1 (fields.map Field.name))

/-- A member is read by a field of its name that has read nothing so far. -/
theorem fill_eq_ok_iff {state after : σ} {member : String × Value} :
    fill fields state member = .ok after ↔
      ∃ field, (fields.find? fun field => field.name == member.1) = some field ∧
        field.seen state = false ∧ field.read state member.2 = .ok after := by
  unfold fill
  cases fields.find? fun field => field.name == member.1 with
  | none => simp
  | some field => cases h : field.seen state <;> simp [h]

theorem entry_eq_bind_fill (state : σ) (key value : Value) :
    entry fields state key value =
      text "field identifier" key >>= fun name => fill fields state (name, value) := rfl

theorem foldlM_entry_eq_ok_iff {entries : List (Value × Value)} {start state : σ} :
    entries.foldlM (fun state (key, value) => entry fields state key value) start = .ok state ↔
      ∃ members, Value.named? entries = some members ∧
        members.foldlM (fill fields) start = .ok state := by
  induction entries generalizing start with
  | nil => simp [Value.named?]
  | cons first rest ih =>
    obtain ⟨key, value⟩ := first
    rw [List.foldlM_cons, bind_eq_ok_iff, Value.named?]
    simp only [ih]
    simp only [entry_eq_bind_fill, bind_eq_ok_iff, text_eq_ok_iff]
    unfold Value.IsText
    cases key.untagged with
    | string name =>
      simp only [Value.string.injEq, Option.map_eq_some_iff]
      constructor
      · rintro ⟨mid, ⟨_, rfl, hfill⟩, members, hnamed, hrest⟩
        exact ⟨_, ⟨members, hnamed, rfl⟩, bind_eq_ok_iff.mpr ⟨mid, hfill, hrest⟩⟩
      · rintro ⟨_, ⟨members, hnamed, rfl⟩, hfold⟩
        obtain ⟨mid, hfill, hrest⟩ := bind_eq_ok_iff.mp hfold
        exact ⟨mid, ⟨name, rfl, hfill⟩, members, hnamed, hrest⟩
    | _ => simp

/-- A record is read member by member. -/
theorem record_eq_ok_iff_fill {name : String} {start state : σ} {value : Value} :
    record name fields start value = .ok state ↔
      ∃ members, value.members? = some members ∧
        members.foldlM (fill fields) start = .ok state := by
  unfold record Value.members?
  cases value.untagged with
  | mapping entries => exact foldlM_entry_eq_ok_iff
  | null => simp [pure, Except.pure]
  | _ => simp

end Records

end Shape

end CloudAudit.Yaml
