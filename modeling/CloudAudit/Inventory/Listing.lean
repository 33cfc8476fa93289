import CloudAudit.Inventory.Failure
import CloudAudit.Json.Record
import CloudAudit.Resource.Path

/-!
# Listings of resources

A quick look at the resources of one type: their count, and the first few of them.
-/

namespace CloudAudit

structure ResourceSummary where
  name : Option String
  location : Option String
  resourceGroup : Option String
  id : Option String
  deriving DecidableEq, Repr

namespace ResourceSummary

def ofResource (resource : Json) : ResourceSummary :=
  let text (key : String) := (resource.field? key).bind Json.string?
  { name := Resource.label? resource
    location := text "location"
    resourceGroup := text "resourceGroup"
    id := text "id" }

def toJson (summary : ResourceSummary) : Json :=
  .object [("name", Json.ofOption .string summary.name),
    ("location", Json.ofOption .string summary.location),
    ("resourceGroup", Json.ofOption .string summary.resourceGroup),
    ("id", Json.ofOption .string summary.id)]

end ResourceSummary

structure ResourceListing where
  resourceType : String
  count : Nat
  shown : List ResourceSummary
  deriving DecidableEq, Repr

namespace ResourceListing

/-- How many resources a listing shows. -/
def preview : Nat := 5

def ofResources (resourceType : String) (resources : List Json) : ResourceListing :=
  { resourceType
    count := resources.length
    shown := (resources.take preview).map ResourceSummary.ofResource }

def toJson (listing : ResourceListing) : Json :=
  .object [("resourceType", .string listing.resourceType), ("count", .int listing.count),
    ("resources", .array (listing.shown.map ResourceSummary.toJson))]

/-- The text for people, a resource a line. -/
def text (listing : ResourceListing) : String :=
  let line (r : ResourceSummary) : String :=
    let name := r.name.getD "<unnamed>"
    let location := r.location.getD "-"
    let group := r.resourceGroup.getD "-"
    s!"  {name} ({location}, {group})\n"
  let rest := listing.count - listing.shown.length
  s!"Found {listing.count} resource(s) of type {listing.resourceType}\n"
    ++ String.join (listing.shown.map line)
    ++ if rest = 0 then "" else s!"  ... and {rest} more\n"

end ResourceListing

end CloudAudit
