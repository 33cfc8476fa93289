import CloudAudit.Number.Shortest
import CloudAudit.Text.Quoted
import CloudAudit.Text.Segments
import CloudAudit.Yaml.Value

/-!
# Records in YAML

Reading of records out of documents, with messages that name what was found and what was expected.
The entries of a mapping are read in order and the first fault is reported; fields that are missing
come after all others. In a document that is read as it stands, a fault has a path.
-/

namespace CloudAudit.Yaml

/-! ## Messages -/

namespace ScalarValue

/-- What is said to have been found. -/
def found : ScalarValue → String
  | null => "unit value"
  | bool b => if b then "boolean `true`" else "boolean `false`"
  | int n => s!"integer `{n}`"
  | float x => s!"floating point `{x.plainText}`"
  | text s => "string " ++ Text.quoted s

end ScalarValue

def Value.found : Value → String
  | .null => ScalarValue.null.found
  | .bool b => (ScalarValue.bool b).found
  | .int n => (ScalarValue.int n).found
  | .float x => (ScalarValue.float x).found
  | .string s => (ScalarValue.text s).found
  | .sequence _ => "sequence"
  | .mapping _ => "map"
  | .tagged _ _ => "enum"

def wrongType (found expected : String) : String :=
  s!"invalid type: {found}, expected {expected}"

def wrongValue (text expected : String) : String :=
  s!"invalid value: string {Text.quoted text}, expected {expected}"

def missingField (name : String) : String := s!"missing field `{name}`"

def duplicateField (name : String) : String := s!"duplicate field `{name}`"

/-- The names as choices. -/
def choices : List String → String
  | [a] => s!"`{a}`"
  | [a, b] => s!"`{a}` or `{b}`"
  | names => "one of " ++ Text.join ", " (names.map fun name => s!"`{name}`")

def unknownField (name : String) (expected : List String) : String :=
  s!"unknown field `{name}`, expected {choices expected}"

def unknownVariant (name : String) (expected : List String) : String :=
  s!"unknown variant `{name}`, expected {choices expected}"

namespace Node

def mismatch (expected : String) : Node → String
  | .scalar tag text style =>
    match ScalarValue.of? tag text style with
    | .ok value => wrongType value.found expected
    | .error wanted => wrongValue text wanted
  | .sequence _ _ => wrongType "sequence" expected
  | .mapping _ _ => wrongType "map" expected

/-! ## Paths -/

/-- A fault and where it is; the root has the empty path. -/
structure Fault where
  path : String
  reason : String
  deriving DecidableEq, Repr

def Fault.message (fault : Fault) : String :=
  if fault.path.isEmpty then fault.reason else fault.path ++ ": " ++ fault.reason

/-- The message where the document has a value; of one without it nothing is told. -/
def Fault.told? (root : Option Node) (fault : Fault) : Option String :=
  if (Value.ofRoot? root).isSome then some fault.message else none

abbrev Reader (α : Type) := String → Node → Except Fault α

def fieldPath (path name : String) : String :=
  if path.isEmpty then name else path ++ "." ++ name

def fault {α : Type} (path reason : String) : Except Fault α := .error ⟨path, reason⟩

/-! ## Parts of records -/

/-- A plain scalar without characters, which stands for an empty collection. -/
def isBlank : Node → Bool
  | .scalar _ text style => text.isEmpty && style = .plain
  | _ => false

/-- Any scalar as it is written. -/
def text (expected : String) : Reader String
  | _, .scalar _ text _ => .ok text
  | path, other => fault path (other.mismatch expected)

def string : Reader String := text "a string"

def naturalIn? (s : String) : Option Nat :=
  match ScalarValue.int? s.toList with
  | some (.ofNat n) => if s.startsWith "-" || Number.wordLimit ≤ n then none else some n
  | _ => none

/-- A plain scalar that is an unsigned number. -/
def natural (expected : String) : Reader Nat
  | path, .scalar tag text style =>
    let readable := style = .plain || (style = .literal && tag = some (ScalarValue.coreTag "int"))
    match if readable then naturalIn? text else none with
    | some n => .ok n
    | none => fault path ((Node.scalar tag text style).mismatch expected)
  | path, other => fault path (other.mismatch expected)

/-- Whether a node stands for nothing where something optional may stand. -/
def isNothing : Node → Bool
  | .scalar (some tag) text _ => tag = ScalarValue.coreTag "null" && ScalarValue.isNullWord text
  | .scalar none text style => style = .plain && (text.isEmpty || ScalarValue.isNullWord text)
  | _ => false

def optional {α : Type} (read : Reader α) : Reader (Option α) := fun path node =>
  if node.isNothing then .ok none
  else (read path node).map some

/-- The items of a list with the paths of their positions. -/
def list {α : Type} (read : Reader α) : Reader (List α)
  | path, .sequence _ items =>
    items.zipIdx.mapM fun (item, position) => read s!"{path}[{position}]" item
  | path, other => if other.isBlank then .ok [] else fault path (other.mismatch "a sequence")

/-- The entries of a mapping from texts. -/
def map {α : Type} (read : Reader α) : Reader (List (String × α))
  | path, .mapping _ entries =>
    entries.mapM fun (key, value) => do
      let name ← string path key
      return (name, ← read (fieldPath path name) value)
  | path, other => if other.isBlank then .ok [] else fault path (other.mismatch "a map")

/-- The value of any node. -/
def value : Reader Value := fun path node =>
  match Value.ofNode? node with
  | some v => .ok v
  | none => fault path "invalid value"

/-! ## Records -/

/-- One field of a record: whether it was read, and how it is read into what is there. -/
structure Field (σ : Type) where
  name : String
  seen : σ → Bool
  read : σ → Reader σ

/-- Reads one entry; keys of no field are passed over. -/
def entry {σ : Type} (fields : List (Field σ)) (path : String) (state : σ) (key value : Node) :
    Except Fault σ := do
  let name ← text "field identifier" path key
  match fields.find? fun field => field.name == name with
  | some field =>
    if field.seen state then fault path (duplicateField name)
    else field.read state (fieldPath path name) value
  | none => return state

/-- Reads the entries of a mapping into a record of some name; an empty text is an empty mapping. -/
def record {σ : Type} (name : String) (fields : List (Field σ)) (start : σ) : Reader σ
  | path, .mapping _ entries =>
    entries.foldlM (fun state (key, value) => entry fields path state key value) start
  | path, other =>
    if other.isBlank then .ok start else fault path (other.mismatch ("struct " ++ name))

/-- The value of a field that was read. -/
def require {α : Type} (path name : String) : Option α → Except Fault α
  | some value => .ok value
  | none => fault path (missingField name)

/-- One of some names, as a scalar or as a tag on nothing. -/
def choice (names : List String) : Reader String := fun path node =>
  let known (name : String) : Except Fault String :=
    if names.contains name then .ok name else fault path (unknownVariant name names)
  let tag :=
    match node with
    | .scalar tag _ _ | .sequence tag _ | .mapping tag _ => Value.privateTag? tag
  match tag, node with
  | some tag, .scalar _ text style => do
    let name ← known tag
    if style = .plain && (text.isEmpty || ScalarValue.isNullWord text) then return name
    else fault path (wrongValue text "null")
  | some tag, other => do
    let _ ← known tag
    fault path (other.mismatch "unit")
  | none, .scalar _ text _ => known text
  | none, other => fault path (other.mismatch "a YAML tag starting with '!'")

end Node

end CloudAudit.Yaml
