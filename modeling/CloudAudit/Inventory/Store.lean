import CloudAudit.Inventory.Failure
import CloudAudit.Json.Reader

/-!
# Stored inventories

An inventory held in memory: resources and failures as they were registered, and the count of
queries. A registered failure hides the resources of its type; the latest one counts
(`answer_addFailure`), and resources of one type are kept in the order in which they came
(`held_addResources`).
-/

namespace CloudAudit

structure Store where
  resources : List (String × List Json) := []
  /-- The latest first. -/
  failures : List (String × QueryFailure) := []
  queries : Nat := 0
  deriving Inhabited

namespace Store

def addResources (store : Store) (resourceType : String) (resources : List Json) : Store :=
  { store with resources := store.resources ++ [(resourceType, resources)] }

def addFailure (store : Store) (resourceType : String) (failure : QueryFailure) : Store :=
  { store with failures := (resourceType, failure) :: store.failures }

/-- All resources of a type in the order of their registration. -/
def held (store : Store) (resourceType : String) : List Json :=
  (store.resources.filter fun entry => entry.1 == resourceType).flatMap Prod.snd

def answer (store : Store) (resourceType : String) : Reply :=
  match store.failures.lookup resourceType with
  | some failure => .error failure
  | none => .ok (store.held resourceType)

/-- The answer to a query, which is counted. -/
def query (store : Store) (resourceType : String) : Reply × Store :=
  (store.answer resourceType, { store with queries := store.queries + 1 })

theorem held_addResources (store : Store) (t u : String) (resources : List Json) :
    (store.addResources t resources).held u =
      store.held u ++ if t = u then resources else [] := by
  by_cases h : t = u <;> simp [held, addResources, h]

theorem answer_addFailure (store : Store) (t u : String) (failure : QueryFailure) :
    (store.addFailure t failure).answer u =
      if u = t then .error failure else store.answer u := by
  by_cases h : u = t
  · subst h
    simp [answer, addFailure]
  · have hb : (u == t) = false := by simpa using h
    simp [answer, addFailure, List.lookup_cons, hb, h, held]

/-- An inventory from an object of lists; the first member that is no list is refused. -/
def ofMembers? (members : List (String × Json)) : Except QueryFailure Store :=
  members.foldlM
    (fun store (resourceType, value) =>
      match value with
      | .array items => .ok (store.addResources resourceType items)
      | _ => .error (.invalid resourceType "snapshot entry must be a list"))
    {}

def ofSnapshot? : Json → Except QueryFailure Store
  | .object members => ofMembers? members
  | _ => .error (.unavailable "snapshot must be an object keyed by resource type")

/-- An inventory from the text of the file at a path. -/
def ofText? (path text : String) (faultOf : String → String := Json.usualFault) :
    Except QueryFailure Store :=
  match Json.parse? text with
  | some snapshot => ofSnapshot? snapshot
  | none => .error (.garbledSnapshot { about := path, fault := faultOf text })

end Store

end CloudAudit
