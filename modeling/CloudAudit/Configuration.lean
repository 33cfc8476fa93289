import CloudAudit.Engine.Settings
import CloudAudit.Number.Natural
import CloudAudit.Report.Record
import CloudAudit.Text.Blank
import CloudAudit.Yaml.Node
import CloudAudit.Yaml.Record

/-!
# Configurations

Settings of a run, the policy of remediation plans, and two directories. A configuration comes from
a document in which everything may be left out, and variables of the environment override parts of
it.
-/

namespace CloudAudit

open Yaml

structure Configuration where
  engine : EngineSettings := {}
  remediation : RemediationPolicy := {}
  checklistsDir : String := "checklists"
  reportsDir : String := "reports"
  deriving DecidableEq, Repr, Inhabited

namespace Configuration

def toJson (configuration : Configuration) : Json :=
  .object [("engine", configuration.engine.toJson),
    ("remediation", configuration.remediation.toJson),
    ("checklistsDir", .string configuration.checklistsDir),
    ("reportsDir", .string configuration.reportsDir)]

/-! ## Documents -/

structure SeenEngine where
  concurrency : Option Nat := none
  timeoutSeconds : Option Nat := none
  matchPolicy : Option MatchPolicy := none

def matchPolicy : Node.Reader MatchPolicy := fun path node => do
  let name ← Node.choice [MatchPolicy.any.name, MatchPolicy.all.name] path node
  return (MatchPolicy.ofName? name).getD .any

def engineFields : List (Node.Field SeenEngine) :=
  [⟨"concurrency", (·.concurrency.isSome), fun s path node => do
      return { s with concurrency := some (← Node.natural "usize" path node) }⟩,
    ⟨"queryTimeoutSecs", (·.timeoutSeconds.isSome), fun s path node => do
      return { s with timeoutSeconds := some (← Node.natural "u64" path node) }⟩,
    ⟨"matchPolicy", (·.matchPolicy.isSome), fun s path node => do
      return { s with matchPolicy := some (← matchPolicy path node) }⟩]

def engineSettings : Node.Reader EngineSettings := fun path node => do
  let s ← Node.record "EngineConfig" engineFields {} path node
  let default : EngineSettings := {}
  return { concurrency := s.concurrency.getD default.concurrency
           timeoutSeconds := s.timeoutSeconds.getD default.timeoutSeconds
           matchPolicy := s.matchPolicy.getD default.matchPolicy }

structure SeenPolicy where
  critical : Option (Option (List String)) := none
  low : Option (List String) := none

def policyFields : List (Node.Field SeenPolicy) :=
  [⟨"criticalRegulations", (·.critical.isSome), fun s path node => do
      return { s with critical := some (← Node.optional (Node.list Node.string) path node) }⟩,
    ⟨"lowPriorityRegulations", (·.low.isSome), fun s path node => do
      return { s with low := some (← Node.list Node.string path node) }⟩]

def remediationPolicy : Node.Reader RemediationPolicy := fun path node => do
  let s ← Node.record "RemediationPolicy" policyFields {} path node
  return { critical := s.critical.getD none, low := s.low.getD [] }

structure Seen where
  engine : Option EngineSettings := none
  remediation : Option RemediationPolicy := none
  checklistsDir : Option String := none
  reportsDir : Option String := none

def directory : Node.Reader String := Node.text "path string"

def fields : List (Node.Field Seen) :=
  [⟨"engine", (·.engine.isSome), fun s path node => do
      return { s with engine := some (← engineSettings path node) }⟩,
    ⟨"remediation", (·.remediation.isSome), fun s path node => do
      return { s with remediation := some (← remediationPolicy path node) }⟩,
    ⟨"checklistsDir", (·.checklistsDir.isSome), fun s path node => do
      return { s with checklistsDir := some (← directory path node) }⟩,
    ⟨"reportsDir", (·.reportsDir.isSome), fun s path node => do
      return { s with reportsDir := some (← directory path node) }⟩]

def document (root : Option Node) : Except Node.Fault Configuration := do
  let s ←
    match root with
    | some node => Node.record "CheckerConfig" fields {} "" node
    | none => .ok {}
  let default : Configuration := {}
  return { engine := s.engine.getD default.engine
           remediation := s.remediation.getD default.remediation
           checklistsDir := s.checklistsDir.getD default.checklistsDir
           reportsDir := s.reportsDir.getD default.reportsDir }

/-- The configuration of a text. -/
def parse? (text : String) : Except SettingsError Configuration :=
  match Node.root? text with
  | none => .error (.malformed none)
  | some root =>
    match document root with
    | .error fault => .error (.malformed (fault.told? root))
    | .ok configuration => do
      configuration.engine.check
      return configuration

/-! ## Overrides -/

/-- The variables that override parts of a configuration. -/
def overrideNames : List String :=
  ["COMPLIANCE_CONCURRENCY", "COMPLIANCE_QUERY_TIMEOUT_SECS", "COMPLIANCE_MATCH_POLICY",
    "COMPLIANCE_CHECKLISTS_DIR", "COMPLIANCE_REPORTS_DIR"]

/-- The value of a defined variable, which has to be readable. -/
def override {α : Type} (lookup : String → Option String) (name : String)
    (read? : String → Option α) (refused : String → SettingsError) :
    Except SettingsError (Option α) :=
  match lookup name with
  | none => .ok none
  | some text =>
    match read? text with
    | some value => .ok (some value)
    | none => .error (refused text)

/-- An unsigned number with blanks around it. -/
def readNumber? (text : String) : Option Nat :=
  Number.readUnsigned? (Text.trimChars text.toList)

/-- The configuration with the defined variables in place of what it says. -/
def withOverrides (configuration : Configuration) (lookup : String → Option String) :
    Except SettingsError Configuration := do
  let concurrency ← override lookup "COMPLIANCE_CONCURRENCY" readNumber? .badConcurrency
  let timeout ← override lookup "COMPLIANCE_QUERY_TIMEOUT_SECS" readNumber? .badTimeout
  let policy ← override lookup "COMPLIANCE_MATCH_POLICY" MatchPolicy.parse? .badMatchPolicy
  let engine := configuration.engine
  let engine : EngineSettings :=
    { concurrency := (concurrency.map (max · 1)).getD engine.concurrency
      timeoutSeconds := timeout.getD engine.timeoutSeconds
      matchPolicy := policy.getD engine.matchPolicy }
  engine.check
  return { configuration with
    engine
    checklistsDir := (lookup "COMPLIANCE_CHECKLISTS_DIR").getD configuration.checklistsDir
    reportsDir := (lookup "COMPLIANCE_REPORTS_DIR").getD configuration.reportsDir }

end Configuration

end CloudAudit
