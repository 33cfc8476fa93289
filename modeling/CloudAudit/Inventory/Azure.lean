import CloudAudit.Inventory.Failure
import CloudAudit.Json.Reader
import CloudAudit.Text.Blank
import CloudAudit.Text.Segments
import CloudAudit.Text.Utf8

/-!
# Inventories behind the Azure command line

A query runs a program that lists the resources of one type. The reply is a function of how the
program ended: what it prints on success counts only as a list, or as nothing at all, and what it
complains about on failure tells missing credentials from other causes. What is said about an output
that is no JSON is left to `faultOf`.
-/

namespace CloudAudit

structure AzureCli where
  program : String := "az"
  /-- Arguments in front of all others. -/
  baseArguments : List String := []
  subscription : Option String := none
  deriving DecidableEq, Repr, Inhabited

/-- How a program ended. -/
inductive ProgramEnd where
  | notStarted (cause : String)
  | finished (success : Bool) (output complaint : List UInt8)

namespace AzureCli

def arguments (cli : AzureCli) (resourceType : String) : List String :=
  cli.baseArguments
    ++ ["resource", "list", "--resource-type", resourceType, "--output", "json"]
    ++ (cli.subscription.map fun name => ["--subscription", name]).getD []

/-- Complaints that mean that there are no credentials. -/
def authMarkers : List String := ["az login", "AADSTS", "No subscription found"]

def kindName : Json → String
  | .null => "null"
  | .bool _ => "a boolean"
  | .int _ | .float _ => "a number"
  | .string _ => "a string"
  | .array _ => "an array"
  | .object _ => "an object"

/-- The resources that an output lists; nothing but blanks lists none. -/
def readList (resourceType output : String) (faultOf : String → String := Json.usualFault) :
    Reply :=
  if Text.isBlankText output then .ok []
  else
    match Json.parse? output with
    | some (.array items) => .ok items
    | some other =>
      .error (.invalid resourceType s!"expected a JSON array, got {kindName other}")
    | none => .error (.garbled { about := resourceType, fault := faultOf output })

/-- The failure that a complaint is about. -/
def failure (resourceType complaint : String) : QueryFailure :=
  if authMarkers.any fun marker => Text.contains complaint marker then .auth complaint
  else .failed resourceType complaint

def reply (cli : AzureCli) (resourceType : String) (ended : ProgramEnd)
    (faultOf : String → String := Json.usualFault) : Reply :=
  match ended with
  | .notStarted cause => .error (.unavailable s!"failed to run {cli.program}: {cause}")
  | .finished true output _ => readList resourceType (Text.Utf8.decodeLossy output) faultOf
  | .finished false _ complaint =>
    .error (failure resourceType (Text.trim (Text.Utf8.decodeLossy complaint)))

/-- Runs the program and reads its end. -/
def query {m : Type → Type} [Monad m] (cli : AzureCli)
    (run : String → List String → m ProgramEnd) (faultOf : String → String)
    (resourceType : String) : m Reply := do
  return cli.reply resourceType (← run cli.program (cli.arguments resourceType)) faultOf

end AzureCli

end CloudAudit
