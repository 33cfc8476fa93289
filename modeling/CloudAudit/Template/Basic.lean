import CloudAudit.Json.Basic

/-!
# Templates

A template is a list of nodes: text that stands for itself, values of the data, and calls of
helpers. A helper that makes text ignores the two bodies of its call; the others choose which body
is shown, how often, and of what data. A call without bodies has two empty ones.
-/

namespace CloudAudit.Template

/-- A place in the data: keys from a value so many levels out, keys from the whole of the data, or
a variable of an enclosing iteration. -/
inductive Reference where
  | value (up : Nat) (keys : List String)
  | root (keys : List String)
  | variable (up : Nat) (name : String)
  deriving DecidableEq, Inhabited

inductive Argument where
  | literal (value : Json)
  | place (reference : Reference)
  deriving Inhabited

/-- The helpers that make text. -/
inductive TextHelper where
  | percent
  | statusIcon
  | join
  | default
  deriving DecidableEq, Repr

inductive Helper where
  | text (helper : TextHelper)
  | conditional (positive : Bool)
  | equality
  | iteration
  | context
  | unknown (name : String)
  deriving DecidableEq

namespace Helper

def named : List (String × Helper) :=
  [("percent", text .percent), ("status_icon", text .statusIcon), ("join", text .join),
    ("default", text .default), ("if", conditional true), ("unless", conditional false),
    ("eq", equality), ("each", iteration), ("with", context)]

def ofName? (name : String) : Option Helper := named.lookup name

/-- A name that no helper has is found out only when the call is reached. -/
def ofName (name : String) : Helper := (ofName? name).getD (unknown name)

end Helper

/-- A helper with its arguments, the arguments that have names of their own, and the names it gives
to the data inside its body. -/
structure Call where
  helper : Helper
  arguments : List Argument := []
  options : List (String × Argument) := []
  names : List String := []

inductive Node where
  | text (content : String)
  | value (reference : Reference)
  | call (call : Call) (body otherwise : List Node)

end CloudAudit.Template
