import CloudAudit.Number.Natural
import CloudAudit.Template.Basic

/-!
# Data that a template can see

A template sees the whole of the data and a stack of levels. The innermost level holds the value
that bare keys belong to; an iteration adds a level with values and names of its own. What is
missing is null, and below null there is nothing but null; yet a list has positions only, so that
any other key into a list is an error.
-/

namespace CloudAudit.Template

structure Level where
  value : Json
  locals : List (String × Json) := []
  names : List (String × Json) := []

structure Scope where
  root : Json
  here : Level
  outer : List Level := []

namespace Scope

/-- The whole of the data, before any iteration. -/
def ofData (data : Json) : Scope := { root := data, here := { value := data } }

def enter (scope : Scope) (level : Level) : Scope :=
  { scope with here := level, outer := scope.here :: scope.outer }

/-- The level so many steps out, if there are so many. -/
def level? (scope : Scope) (up : Nat) : Option Level := (scope.here :: scope.outer)[up]?

/-- What a name stands for that an iteration gave, the innermost first. -/
def named? (scope : Scope) (name : String) : Option Json :=
  (scope.here :: scope.outer).findSome? fun level => level.names.lookup name

end Scope

/-- The value under a key. -/
def child? (value : Json) (key : String) : Option Json :=
  match value with
  | .object members => some ((members.lookup key).getD .null)
  | .array items =>
    (Number.readUnsigned? key.toList).map fun position => (items[position]?).getD .null
  | _ => some .null

def descend? (value : Json) (keys : List String) : Option Json :=
  keys.foldlM child? value

namespace Scope

/-- Keys from a level; a name that an iteration gave goes before all levels. -/
def lookup? (scope : Scope) (up : Nat) (keys : List String) : Option Json :=
  let level := (scope.level? up).getD scope.here
  match keys with
  | [] => some level.value
  | key :: more =>
    match scope.named? key with
    | some value => descend? value more
    | none => descend? level.value (key :: more)

def find? (scope : Scope) : Reference → Option Json
  | .value up keys => scope.lookup? up keys
  | .root keys => descend? scope.root keys
  | .variable up name =>
    some (((scope.level? up).bind fun level => level.locals.lookup name).getD .null)

def argument? (scope : Scope) : Argument → Option Json
  | .literal value => some value
  | .place reference => scope.find? reference

end Scope

end CloudAudit.Template
