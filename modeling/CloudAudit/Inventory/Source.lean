import CloudAudit.Host.Basic
import CloudAudit.Inventory.Store

/-!
# Sources of resources

Where the answers to queries come from: an inventory in memory, or the Azure command line.
-/

namespace CloudAudit

inductive Inventory where
  | stored (store : Store)
  | azure (cli : AzureCli)

def Inventory.query {m : Type → Type} [Monad m] (host : Host m) (inventory : Inventory)
    (resourceType : String) : m Reply :=
  match inventory with
  | .stored store => pure (store.answer resourceType)
  | .azure cli => cli.query host.run host.jsonFault resourceType

end CloudAudit
