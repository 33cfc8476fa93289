import CloudAudit.Number.Binary64

/-!
# JSON trees

Integers and floating point numbers are different values. An object lists its members; in canonical
form the keys are in strictly increasing order (`Canonical`), which `canonical` brings about by
keeping the last of several members with one key. `same` is equality of trees with numeric equality
of floating point numbers.
-/

namespace CloudAudit

open Number

inductive Json where
  | null
  | bool (value : Bool)
  | int (value : Int)
  | float (value : Binary64)
  | string (value : String)
  | array (items : List Json)
  | object (members : List (String × Json))
  deriving Inhabited

namespace Json

/-- The value under a key of an object. -/
def field? (key : String) : Json → Option Json
  | object members => members.lookup key
  | _ => none

def string? : Json → Option String
  | string s => some s
  | _ => none

def isNull : Json → Bool
  | null => true
  | _ => false

/-- The floating point value of a number. -/
def number? : Json → Option Extended
  | int n => some (Extended.ofInt n)
  | float x => some (.finite x)
  | _ => none

mutual

def same : Json → Json → Bool
  | null, null => true
  | bool a, bool b => a == b
  | int a, int b => a == b
  | float a, float b => a.same b
  | string a, string b => a == b
  | array a, array b => sameItems a b
  | object a, object b => sameMembers a b
  | _, _ => false

def sameItems : List Json → List Json → Bool
  | [], [] => true
  | a :: as, b :: bs => same a b && sameItems as bs
  | _, _ => false

def sameMembers : List (String × Json) → List (String × Json) → Bool
  | [], [] => true
  | (j, a) :: as, (k, b) :: bs => j == k && same a b && sameMembers as bs
  | _, _ => false

end

/-! ## Canonical objects -/

/-- Puts a member into its place by key, unless the key is there already. -/
def insertMember (key : String) (value : Json) : List (String × Json) → List (String × Json)
  | [] => [(key, value)]
  | (k, v) :: rest =>
    if key < k then (key, value) :: (k, v) :: rest
    else if key = k then (k, v) :: rest
    else (k, v) :: insertMember key value rest

mutual

/-- The tree with the members of every object in order of their keys, the last of each key. -/
def canonical : Json → Json
  | array items => array (canonicalItems items)
  | object members => object (canonicalMembers members)
  | other => other

def canonicalItems : List Json → List Json
  | [] => []
  | item :: rest => canonical item :: canonicalItems rest

def canonicalMembers : List (String × Json) → List (String × Json)
  | [] => []
  | (key, value) :: rest => insertMember key (canonical value) (canonicalMembers rest)

end

mutual

/-- The keys of every object are in strictly increasing order. -/
def Canonical : Json → Prop
  | array items => CanonicalItems items
  | object members => (members.map Prod.fst).Pairwise (· < ·) ∧ CanonicalMembers members
  | _ => True

def CanonicalItems : List Json → Prop
  | [] => True
  | item :: rest => Canonical item ∧ CanonicalItems rest

def CanonicalMembers : List (String × Json) → Prop
  | [] => True
  | (_, value) :: rest => Canonical value ∧ CanonicalMembers rest

end

end Json

end CloudAudit
