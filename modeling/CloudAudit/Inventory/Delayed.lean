import CloudAudit.Inventory.Limit
import CloudAudit.Inventory.Store

/-!
# Inventories that take time

Every query has a time limit in seconds. A type may be slow, and then its queries fail when they
take longer than the limit; a type may be deadly, and then a query for it ends the task that asked.
Neither is counted.
-/

namespace CloudAudit

/-- A store answers at once. -/
def Store.respond (resourceType : String) : StateM Store Response := do
  return .answered (← modifyGet fun store => store.query resourceType)

structure DelayedStore where
  store : Store := {}
  delays : List (String × Nat) := []
  deadly : List String := []
  deriving Inhabited

namespace DelayedStore

/-- Seconds that a query for the type takes. -/
def delay (inventory : DelayedStore) (resourceType : String) : Nat :=
  (inventory.delays.lookup resourceType).getD 0

/-- What becomes of a query under a time limit, or nothing where the task ends. -/
def respond (limit : Nat) (resourceType : String) : OptionT (StateM DelayedStore) Response := do
  let inventory ← get
  if inventory.deadly.contains resourceType then failure
  else if limit < inventory.delay resourceType then return .late
  else
    let (reply, store) := inventory.store.query resourceType
    set { inventory with store }
    return .answered reply

def query (limit : Nat) : String → OptionT (StateM DelayedStore) Reply :=
  limited limit (respond limit)

end DelayedStore

end CloudAudit
