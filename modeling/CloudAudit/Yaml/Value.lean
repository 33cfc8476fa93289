import CloudAudit.Json.Basic
import CloudAudit.Yaml.Node
import CloudAudit.Yaml.Scalar

/-!
# Values of documents

The values that nodes stand for. A document has a value only if the keys of every mapping differ,
its integers fit in 64 bits, and its tags can be met.
-/

namespace CloudAudit.Yaml

open Number

inductive Value where
  | null
  | bool (b : Bool)
  | int (n : Int)
  | float (x : Extended)
  | string (s : String)
  | sequence (items : List Value)
  | mapping (entries : List (Value × Value))
  | tagged (tag : String) (value : Value)
  deriving Inhabited

namespace Value

mutual

/-- Equality of keys: the two zeros are one number, and entries may stand in any order. -/
def same : Value → Value → Bool
  | null, null => true
  | bool a, bool b => a == b
  | int a, int b => a == b
  | float .nan, float .nan => true
  | float a, float b => a.same b
  | string a, string b => a == b
  | sequence a, sequence b => sameItems a b
  | mapping a, mapping b => a.length == b.length && allIn a b
  | tagged s a, tagged t b => s == t && same a b
  | _, _ => false

def sameItems : List Value → List Value → Bool
  | [], [] => true
  | a :: as, b :: bs => same a b && sameItems as bs
  | _, _ => false

def allIn : List (Value × Value) → List (Value × Value) → Bool
  | [], _ => true
  | (key, value) :: rest, entries =>
    (entries.any fun (k, v) => same key k && same value v) && allIn rest entries

end

/-- No key comes twice. -/
def distinctKeys : List (Value × Value) → Bool
  | [] => true
  | (key, _) :: rest => rest.all (fun entry => !key.same entry.1) && distinctKeys rest

def ofScalar? : ScalarValue → Option Value
  | .null => some null
  | .bool b => some (bool b)
  | .int n => if -(Number.twoTo 63 : Int) ≤ n ∧ n < Number.wordLimit then some (int n) else none
  | .float x => some (float x)
  | .text s => some (string s)

/-- The name of a private tag: what follows its mark, or the mark itself where nothing does. -/
def privateTag? (tag : Option String) : Option String :=
  tag.bind fun tag =>
    if tag = "!" then some tag
    else if tag.startsWith "!" then some (String.ofList (tag.toList.drop 1))
    else none

def withTag (tag : Option String) (value : Value) : Value :=
  match tag with
  | some tag => tagged tag value
  | none => value

mutual

def ofNode? : Node → Option Value
  | .scalar tag text style => do
    let value ←
      match ScalarValue.of? tag text style with
      | .ok v => ofScalar? v
      | .error _ => none
    return withTag (privateTag? tag) value
  | .sequence tag items => do
    return withTag (privateTag? tag) (sequence (← ofItems? items))
  | .mapping tag entries => do
    let values ← ofEntries? entries
    if distinctKeys values then return withTag (privateTag? tag) (mapping values) else none

def ofItems? : List Node → Option (List Value)
  | [] => some []
  | item :: rest => do return (← ofNode? item) :: (← ofItems? rest)

def ofEntries? : List (Node × Node) → Option (List (Value × Value))
  | [] => some []
  | (key, value) :: rest => do
    return (← ofNode? key, ← ofNode? value) :: (← ofEntries? rest)

end

/-- The value of an empty text is nothing. -/
def ofRoot? : Option Node → Option Value
  | none => some null
  | some node => ofNode? node

/-- The value without its tags on the outside. -/
def untagged : Value → Value
  | tagged _ value => untagged value
  | value => value

end Value

/-- The node of a text, or nothing in it for an empty text. -/
def Node.root? (text : String) : Option (Option Node) := do
  (← Document.read? text).node?

/-- The node of a text, which has a value. -/
def Node.read? (text : String) : Option (Option Node × Value) := do
  let root ← Node.root? text
  return (root, ← Value.ofRoot? root)

end CloudAudit.Yaml
