import CloudAudit.Json.Record
import CloudAudit.Text.Segments

/-!
# Settings of a run

How many resources have to keep the rules, how many controls are assessed at once, and how long a
query may take.
-/

namespace CloudAudit

open Json (Fields)

/-- Under `any` one resource that keeps every rule is enough, under `all` every one has to. -/
inductive MatchPolicy where
  | any
  | all
  deriving DecidableEq, Repr, Inhabited

namespace MatchPolicy

def name : MatchPolicy → String
  | any => "any"
  | all => "all"

def ofName? (s : String) : Option MatchPolicy :=
  if s = "any" then some any else if s = "all" then some all else none

/-- A name in any case; `strict` is another name of `all`. -/
def parse? (s : String) : Option MatchPolicy :=
  let folded := s.map Char.toLower
  if folded = "strict" then some all else ofName? folded

def unknownMessage (s : String) : String :=
  let folded := s.map Char.toLower
  s!"unknown match policy '{folded}'"

def toJson (policy : MatchPolicy) : Json := .string policy.name

def ofJson? (j : Json) : Option MatchPolicy := j.choice?.bind ofName?

end MatchPolicy

structure EngineSettings where
  concurrency : Nat := 1
  timeoutSeconds : Nat := 30
  matchPolicy : MatchPolicy := .any
  deriving DecidableEq, Repr, Inhabited

/-- Why a configuration is refused. -/
inductive SettingsError where
  | zeroTimeout
  | badConcurrency (text : String)
  | badTimeout (text : String)
  | badMatchPolicy (text : String)
  /-- The file could not be read. -/
  | unreadable (path cause : String)
  /-- The text is no document at all, or one without the shape of a configuration. -/
  | malformed (reason : Option String)
  deriving DecidableEq, Repr

namespace SettingsError

def reason? : SettingsError → Option String
  | zeroTimeout => some "queryTimeoutSecs must be at least 1"
  | badConcurrency text => some s!"COMPLIANCE_CONCURRENCY must be a positive integer, got '{text}'"
  | badTimeout text =>
    some s!"COMPLIANCE_QUERY_TIMEOUT_SECS must be a number of seconds, got '{text}'"
  | badMatchPolicy text => some (MatchPolicy.unknownMessage text)
  | unreadable path cause => some s!"failed to read {path}: {cause}"
  | malformed reason => reason

/-- The message, unless it is about a text that is no document. -/
def message? (e : SettingsError) : Option String := e.reason?.map ("CONFIG/" ++ ·)

end SettingsError

namespace EngineSettings

def withConcurrency (settings : EngineSettings) (n : Nat) : EngineSettings :=
  { settings with concurrency := max n 1 }

def withTimeout (settings : EngineSettings) (seconds : Nat) : EngineSettings :=
  { settings with timeoutSeconds := max seconds 1 }

def strict (settings : EngineSettings) : EngineSettings :=
  { settings with matchPolicy := .all }

/-- A query that may take no time would always fail. -/
def check (settings : EngineSettings) : Except SettingsError Unit :=
  if settings.timeoutSeconds = 0 then .error .zeroTimeout else .ok ()

def toJson (settings : EngineSettings) : Json :=
  .object [("concurrency", .int settings.concurrency),
    ("queryTimeoutSecs", .int settings.timeoutSeconds),
    ("matchPolicy", settings.matchPolicy.toJson)]

def ofJson? (j : Json) : Option EngineSettings := do
  let fields ← j.fields? ["concurrency", "queryTimeoutSecs", "matchPolicy"]
  let default : EngineSettings := {}
  let concurrency ← fields.withDefault "concurrency" default.concurrency Json.natural?
  let timeoutSeconds ← fields.withDefault "queryTimeoutSecs" default.timeoutSeconds Json.natural?
  let matchPolicy ← fields.withDefault "matchPolicy" default.matchPolicy MatchPolicy.ofJson?
  return { concurrency, timeoutSeconds, matchPolicy }

end EngineSettings

end CloudAudit
