import CloudAudit.Yaml.Token

/-!
# Trees of YAML

The grammar over tokens, which gives the tree of the one document of a text. Nodes get tags by
their shorthands, and anchors get numbers for aliases to refer to.
-/

namespace CloudAudit.Yaml

inductive Tree where
  | scalar (tag : Option String) (text : String) (style : ScalarStyle)
  | sequence (tag : Option String) (items : List Tree)
  | mapping (tag : Option String) (entries : List (Tree × Tree))
  | alias (anchor : Nat)
  deriving Inhabited

/-- A document with the nodes that its aliases refer to. -/
structure Document where
  root : Option Tree
  anchored : List (Nat × Tree)
  /-- How many scalars, aliases, and starts and ends of collections there are. -/
  size : Nat

/-! ## Shorthands of tags -/

structure Directives where
  version : Bool := false
  shorthands : List (String × String) := []

namespace Directives

/-- Each kind of directive and each handle may stand once, and the version has to be 1.1 or 1.2. -/
def add? (d : Directives) : Token → Option Directives
  | .version major minor =>
    if d.version || major ≠ 1 || (minor ≠ 1 && minor ≠ 2) then none
    else some { d with version := true }
  | .tagShorthand handle full =>
    if (d.shorthands.lookup handle).isSome then none
    else some { d with shorthands := (handle, full) :: d.shorthands }
  | _ => none

/-- The beginning of the tags with a handle. -/
def full? (d : Directives) (handle : String) : Option String :=
  match d.shorthands.lookup handle with
  | some full => some full
  | none =>
    if handle = "!" then some "!"
    else if handle = "!!" then some "tag:yaml.org,2002:"
    else none

end Directives

/-! ## The state between nodes -/

structure TreeState where
  tokens : List Token
  directives : Directives := {}
  /-- The number that each name stands for. -/
  names : List (String × Nat) := []
  /-- The place of the node with each number, the latest first. -/
  places : List (Nat × Nat) := []
  /-- Anchored nodes by their places. -/
  nodes : List (Nat × Tree) := []
  /-- How many nodes and ends of collections have been met. -/
  size : Nat := 0

abbrev Reading := StateT TreeState Option

namespace Reading

def peek : Reading (Option Token) := do return (← get).tokens.head?

def skip : Reading Unit := modify fun s => { s with tokens := s.tokens.drop 1 }

def count (n : Nat) : Reading Unit := modify fun s => { s with size := s.size + n }

def next (token : Token) : Reading Bool := do return (← peek) == some token

/-- Whether the next token is among the given ones, or there is none. -/
def ended (tokens : List Token) : Reading Bool := do
  match ← peek with
  | some token => return tokens.contains token
  | none => return true

/-- A number for an anchor: how many names there have been. A name that comes again is not counted
again, so its new number may be given to the next name as well; the later node then has it. -/
def mark (name : String) : Reading Nat := do
  let s ← get
  let number := s.names.length
  let names := (name, number) :: s.names.filter fun entry => entry.1 != name
  set { s with names, places := (number, s.size) :: s.places }
  return s.size

def store (place : Option Nat) (node : Tree) : Reading Tree := do
  if let some place := place then modify fun s => { s with nodes := (place, node) :: s.nodes }
  return node

/-- An anchor and a tag in front of a node, in either order. -/
def properties : Reading (Option String × Option (String × String)) := do
  let anchor? : Reading (Option String) := do
    match ← peek with
    | some (.anchor name) => do skip; return some name
    | _ => return none
  let tag? : Reading (Option (String × String)) := do
    match ← peek with
    | some (.tag handle suffix) => do skip; return some (handle, suffix)
    | _ => return none
  match ← anchor? with
  | some name => do return (some name, ← tag?)
  | none =>
    let tag ← tag?
    if tag.isSome then return (← anchor?, tag) else return (none, none)

def resolveTag : Option (String × String) → Reading (Option String)
  | none => return none
  | some (handle, suffix) => do
    if handle.isEmpty then return some suffix
    else
      match (← get).directives.full? handle with
      | some full => return some (full ++ suffix)
      | none => failure

def empty (tag : Option String) : Tree := .scalar tag "" .plain

end Reading

/-! ## The grammar -/

open Reading

mutual

/-- A node; lists may stand in a mapping without indentation of their own. The fuel is spent by
every step of the grammar. -/
def node (block bare : Bool) : Nat → Reading Tree
  | 0 => failure
  | fuel + 1 => do
    if let some (.alias name) ← peek then
      skip
      match (← get).names.lookup name with
      | some number => count 1; return .alias number
      | none => failure
    else
      let (anchor, shorthand) ← properties
      let tag ← resolveTag shorthand
      let place ← anchor.mapM mark
      count 1
      match ← peek with
      | some .entry =>
        if bare then store place (.sequence tag (← bareItems fuel))
        else emptyNode place tag anchor.isSome
      | some (.scalar text style) =>
        skip
        let tag := if tag = some "!" then none else tag
        store place (.scalar tag text style)
      | some .flowSequence => skip; store place (.sequence tag (← flowItems true fuel))
      | some .flowMapping => skip; store place (.mapping tag (← flowEntries true fuel))
      | some .blockSequence =>
        if block then skip; store place (.sequence tag (← blockItems fuel))
        else emptyNode place tag anchor.isSome
      | some .blockMapping =>
        if block then skip; store place (.mapping tag (← blockEntries fuel))
        else emptyNode place tag anchor.isSome
      | _ => emptyNode place tag anchor.isSome

/-- A node without content has to have an anchor or a tag. -/
def emptyNode (place : Option Nat) (tag : Option String) (anchored : Bool) : Reading Tree :=
  if anchored || tag.isSome then store place (Reading.empty tag) else failure

/-- A node, or nothing where one of the tokens follows. -/
def nodeUnless (block bare : Bool) (tokens : List Token) : Nat → Reading Tree
  | 0 => failure
  | fuel + 1 => do
    if ← ended tokens then count 1; return Reading.empty none
    else node block bare fuel

def blockItems : Nat → Reading (List Tree)
  | 0 => failure
  | fuel + 1 => do
    match ← peek with
    | some .entry =>
      skip
      let item ← nodeUnless true false [.entry, .blockEnd] fuel
      return item :: (← blockItems fuel)
    | some .blockEnd => skip; count 1; return []
    | _ => failure

def bareItems : Nat → Reading (List Tree)
  | 0 => failure
  | fuel + 1 => do
    if ← next .entry then
      skip
      let item ← nodeUnless true false [.entry, .key, .value, .blockEnd] fuel
      return item :: (← bareItems fuel)
    else count 1; return []

def blockEntries : Nat → Reading (List (Tree × Tree))
  | 0 => failure
  | fuel + 1 => do
    match ← peek with
    | some .key =>
      skip
      let key ← nodeUnless true true [.key, .value, .blockEnd] fuel
      let value ←
        if ← next .value then do
          skip
          nodeUnless true true [.key, .value, .blockEnd] fuel
        else do count 1; pure (Reading.empty none)
      return (key, value) :: (← blockEntries fuel)
    | some .blockEnd => skip; count 1; return []
    | _ => failure

def flowItems (first : Bool) : Nat → Reading (List Tree)
  | 0 => failure
  | fuel + 1 => do
    if ← next .flowSequenceEnd then skip; count 1; return []
    else
      if !first then
        if ← next .separator then skip else failure
      if ← next .key then
        skip
        count 1
        let pair ← flowPair fuel
        count 1
        return .mapping none [pair] :: (← flowItems false fuel)
      else if ← next .flowSequenceEnd then skip; count 1; return []
      else
        let item ← node false false fuel
        return item :: (← flowItems false fuel)

/-- A key and a value inside a list. A missing key takes the token behind it away. -/
def flowPair : Nat → Reading (Tree × Tree)
  | 0 => failure
  | fuel + 1 => do
    let key ←
      if ← ended [.value, .separator, .flowSequenceEnd] then do
        skip
        count 1
        pure (Reading.empty none)
      else node false false fuel
    if ← next .value then
      skip
      return (key, ← nodeUnless false false [.separator, .flowSequenceEnd] fuel)
    else
      count 1
      return (key, Reading.empty none)

def flowEntries (first : Bool) : Nat → Reading (List (Tree × Tree))
  | 0 => failure
  | fuel + 1 => do
    if ← next .flowMappingEnd then skip; count 1; return []
    else
      if !first then
        if ← next .separator then skip else failure
      if ← next .key then
        skip
        let key ← nodeUnless false false [.value, .separator, .flowMappingEnd] fuel
        let value ←
          if ← next .value then do
            skip
            nodeUnless false false [.separator, .flowMappingEnd] fuel
          else do count 1; pure (Reading.empty none)
        return (key, value) :: (← flowEntries false fuel)
      else if ← next .flowMappingEnd then skip; count 1; return []
      else
        let key ← node false false fuel
        count 1
        return (key, Reading.empty none) :: (← flowEntries false fuel)

end

/-! ## The document -/

/-- The directives in front of a document, which has to be opened after them. Tells whether the
document is opened by a mark. -/
def directives : Nat → Reading Bool
  | 0 => failure
  | fuel + 1 => do
    match ← peek with
    | some .documentStart => skip; return true
    | some token =>
      match (← get).directives.add? token with
      | some d =>
        modify fun s => { s with directives := d, tokens := s.tokens.drop 1 }
        if ← directives fuel then return true else failure
      | none => return false
    | none => return false

/-- The one document of the tokens, if there is one. -/
def document : Reading (Option Tree) := do
  if (← peek).isNone then return none
  else
    let fuel := 4 * (← get).tokens.length + 8
    let root ←
      if (← directives fuel) && (← ended [.documentEnd]) then do
        count 1
        pure (Reading.empty none)
      else node true false fuel
    modify fun s => { s with tokens := s.tokens.dropWhile (· == .documentEnd) }
    if (← peek).isNone then return some root else failure

def Document.ofTokens? (tokens : List Token) : Option Document := do
  let (root, s) ← document.run { tokens }
  let anchored := s.places.filterMap fun (number, place) =>
    (s.nodes.lookup place).map fun node => (number, node)
  return { root, anchored, size := s.size }

/-- The document of a text. -/
def Document.read? (text : String) : Option Document := do
  Document.ofTokens? (← tokens? text)

end CloudAudit.Yaml
