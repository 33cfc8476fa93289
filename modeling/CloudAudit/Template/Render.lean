import CloudAudit.Json.Printer
import CloudAudit.Template.Scope

/-!
# Rendering

The text of a template over data. There is none when a call names no helper, when a helper lacks
the argument it goes by, or when a list is asked for a key that is no position.
-/

namespace CloudAudit.Template

open Number

mutual

/-- The text of a value; an object has no text of its own, and null has none at all. -/
def shown : Json → String
  | .null => ""
  | .string s => s
  | .array items => "[" ++ Text.join ", " (shownItems items) ++ "]"
  | .object _ => "[object]"
  | scalar => scalar.compact

def shownItems : List Json → List String
  | [] => []
  | item :: rest => shown item :: shownItems rest

end

/-- Whether a condition holds of a value; zero counts only if asked to. -/
def holds (countsZero : Bool) : Json → Bool
  | .null => false
  | .bool b => b
  | .int n => countsZero || n != 0
  | .float x => countsZero || x.isNormal
  | .string s => !s.isEmpty
  | .array items => !items.isEmpty
  | .object members => !members.isEmpty

/-! ## Helpers that make text -/

/-- A string as it is, all else as JSON. -/
def plain : Json → String
  | .string s => s
  | other => other.compact

/-- A percentage with one decimal; what is no number counts as zero. -/
def percentText (value : Json) : String :=
  ((value.number?.bind Extended.finite?).getD Binary64.zero).oneDecimal ++ "%"

def statusIcon (name : String) : String :=
  match name with
  | "passed" => "✅"
  | "failed" => "❌"
  | "manual" => "⚠️"
  | "error" => "⛔"
  | _ => "•"

/-- The items of a list with a separator between any two. -/
def joinText (value : Json) (separator : String) : String :=
  match value with
  | .array items => Text.join separator (items.map plain)
  | _ => ""

def orDefault (value : Json) (fallback : String) : String :=
  if value.isNull then fallback else plain value

def TextHelper.text (helper : TextHelper) (arguments : List Json) : String :=
  let first := (arguments[0]?).getD .null
  let second := (arguments[1]?).bind Json.string?
  match helper with
  | percent => percentText first
  | statusIcon => Template.statusIcon (first.string?.getD "")
  | join => joinText first (second.getD ", ")
  | default => orDefault first (second.getD "")

/-! ## Helpers that show a body -/

def isSame : List Json → Bool
  | left :: right :: _ => left.same right
  | _ => false

/-- Whether the options of a condition let zero count. -/
def countsZero (options : List (String × Json)) : Bool :=
  match options.reverse.lookup "includeZero" with
  | some (.bool b) => b
  | _ => false

/-- The first name stands for the value, the second for its position or key. -/
def bindNames (names : List String) (value key : Json) : List (String × Json) :=
  names.zip [value, key]

/-- The name of a context; a second one spoils the first. -/
def ownName (names : List String) (value : Json) : List (String × Json) :=
  match names with
  | [name] => [(name, value)]
  | _ => []

/-- The level for one turn of an iteration. -/
def turn (names : List String) (count position : Nat) (keyName : String) (key value : Json) :
    Level :=
  { value
    locals := [("first", .bool (position == 0)), ("last", .bool (position + 1 == count)),
      (keyName, key)]
    names := bindNames names value key }

/-- The turns of an iteration over a list or an object; other values have none. -/
def turns (names : List String) : Json → List Level
  | .array items =>
    items.mapIdx fun position item =>
      turn names items.length position "index" (.int position) item
  | .object members =>
    members.mapIdx fun position (key, value) =>
      turn names members.length position "key" (.string key) value
  | _ => []

mutual

def renderNode : Node → Scope → Option String
  | .text content, _ => some content
  | .value reference, scope => (scope.find? reference).map shown
  | .call call body otherwise, scope => do
    let arguments ← call.arguments.mapM scope.argument?
    let options ← call.options.mapM fun (name, argument) =>
      (scope.argument? argument).map fun value => (name, value)
    match call.helper with
    | .text helper => return helper.text arguments
    | .conditional positive =>
      if holds (countsZero options) (← arguments[0]?) == positive then renderNodes body scope
      else renderNodes otherwise scope
    | .equality => if isSame arguments then renderNodes body scope else renderNodes otherwise scope
    | .iteration =>
      match turns call.names (← arguments[0]?) with
      | [] => renderNodes otherwise scope
      | levels =>
        return String.join (← levels.mapM fun level => renderNodes body (scope.enter level))
    | .context =>
      let value ← arguments[0]?
      if holds false value then
        renderNodes body (scope.enter { value, names := ownName call.names value })
      else renderNodes otherwise scope
    | .unknown _ => none

def renderNodes : List Node → Scope → Option String
  | [], _ => some ""
  | node :: rest, scope => return (← renderNode node scope) ++ (← renderNodes rest scope)

end

/-- The text of a template over data. -/
def render? (template : List Node) (data : Json) : Option String :=
  renderNodes template (Scope.ofData data)

end CloudAudit.Template
