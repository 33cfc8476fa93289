import CloudAudit.Yaml.Tree

/-!
# Documents without aliases

Every alias is replaced by the node it refers to. Collections may be nested 128 deep, and aliases
may be followed a hundred times for each part of the document, so that the replacement comes to an
end also where a node contains itself.
-/

namespace CloudAudit.Yaml

inductive Node where
  | scalar (tag : Option String) (text : String) (style : ScalarStyle)
  | sequence (tag : Option String) (items : List Node)
  | mapping (tag : Option String) (entries : List (Node × Node))
  deriving Inhabited

namespace Document

/-- Deepest nesting of collections. -/
def maxDepth : Nat := 128

/-- Follows an alias, as far as that may still be done. -/
def target? (doc : Document) (tree : Tree) : StateT Nat Option Tree := do
  match tree with
  | .alias number =>
    match ← get with
    | 0 => failure
    | left + 1 =>
      set left
      match doc.anchored.lookup number with
      | some node => return node
      | none => failure
  | node => return node

/-- The node of a tree; the depth is what nesting is left, and the state how many aliases may still
be followed. -/
def expand? (doc : Document) : Nat → Tree → StateT Nat Option Node
  | depth, tree => do
    match ← doc.target? tree, depth with
    | .scalar tag text style, _ => return .scalar tag text style
    | .sequence tag items, depth + 1 => return .sequence tag (← items.mapM (expand? doc depth))
    | .mapping tag entries, depth + 1 =>
      let entries ← entries.mapM fun (key, value) => do
        return (← expand? doc depth key, ← expand? doc depth value)
      return .mapping tag entries
    | _, _ => failure

/-- The root without aliases, or nothing for an empty text. -/
def node? (doc : Document) : Option (Option Node) :=
  match doc.root with
  | none => some none
  | some root => ((doc.expand? maxDepth root).run' (100 * doc.size)).map some

end Document

end CloudAudit.Yaml
