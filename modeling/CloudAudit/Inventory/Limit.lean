import CloudAudit.Inventory.Failure

/-!
# Queries under a time limit

An inventory need not answer in time. Under a limit a late answer is a failure like any other, and
what the inventory would have said does not count.
-/

namespace CloudAudit

/-- What an inventory does about a query. -/
inductive Response where
  | answered (reply : Reply)
  /-- No answer before the limit. -/
  | late

/-- The reply that comes out under a limit in seconds. -/
def Response.reply (limit : Nat) (resourceType : String) : Response → Reply
  | answered reply => reply
  | late => .error (.timeout resourceType limit)

def nanosecondsPerSecond : Nat := 1000000000

/-- An inventory that takes some nanoseconds for a type before it does anything about it. -/
def delayed {m : Type → Type} [Monad m] (delay : String → Nat) (limit : Nat)
    (respond : String → m Response) (resourceType : String) : m Response :=
  if limit * nanosecondsPerSecond < delay resourceType then return .late else respond resourceType

/-- A query that ends with the limit. -/
def limited {m : Type → Type} [Monad m] (limit : Nat) (respond : String → m Response)
    (resourceType : String) : m Reply := do
  return (← respond resourceType).reply limit resourceType

end CloudAudit
