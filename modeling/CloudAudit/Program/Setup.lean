import CloudAudit.CommandLine.Command
import CloudAudit.Configuration
import CloudAudit.Environment.File
import CloudAudit.Inventory.Source
import CloudAudit.Program.Failure
import CloudAudit.Report.Standard

/-!
# Setting up

What every command starts from: the configuration, an inventory, and templates of one's own. The
command line comes before the environment, the environment before the configuration file, and the
file before what goes without saying.
-/

namespace CloudAudit

structure Setup where
  configuration : Configuration := {}
  inventory : Inventory := .azure {}
  /-- Without a file, the standard templates are used. -/
  templates : Option TemplateFile := none

/-- Goes on with a result, or fails. -/
def orFail {m : Type → Type} [Monad m] {ε α : Type} (failure : ε → CommandError) :
    Except ε α → ExceptT CommandError m α
  | .ok a => pure a
  | .error e => throw (failure e)

/-! ## Configuration -/

namespace Configuration

/-- The configuration in what was read at a path. -/
def ofFile (path : String) : Except FileError String → Except SettingsError Configuration
  | .ok text => parse? text
  | .error e => .error (.unreadable path e.message)

/-- The configuration with what a command line says about it. -/
def withInvocation (configuration : Configuration) (invocation : Invocation) : Configuration :=
  let engine := configuration.engine
  let engine := (invocation.concurrency.map engine.withConcurrency).getD engine
  { configuration with engine := if invocation.strict then engine.strict else engine }

/-- The values of the variables that override a configuration. -/
def overrides {m : Type → Type} [Monad m] (host : Host m) : m (List (String × String)) := do
  let defined ← EnvironmentFile.load host
  let values ← overrideNames.mapM fun name => do
    return (← EnvironmentFile.value? host.lookup defined name).map fun value => (name, value)
  return values.filterMap id

def load {m : Type → Type} [Monad m] (host : Host m) (invocation : Invocation) :
    ExceptT CommandError m Configuration := do
  let values ← ExceptT.lift (overrides host)
  let configuration ←
    match invocation.configuration with
    | none => pure {}
    | some path => orFail .settings (ofFile path (← host.read path))
  let configuration ← orFail .settings (configuration.withOverrides fun name => values.lookup name)
  return configuration.withInvocation invocation

end Configuration

/-! ## Inventory -/

/-- The inventory in what was read at a path. -/
def Store.ofFile (faultOf : String → String) (path : String) :
    Except FileError String → Except QueryFailure Store
  | .ok text => ofText? path text faultOf
  | .error e => .error (.unavailable s!"failed to read {path}: {e.message}")

def Inventory.load {m : Type → Type} [Monad m] (host : Host m) (invocation : Invocation) :
    ExceptT CommandError m Inventory := do
  match invocation.snapshot with
  | none => return .azure { subscription := invocation.subscription }
  | some path =>
    return .stored (← orFail .inventory (Store.ofFile host.jsonFault path (← host.read path)))

/-! ## Templates -/

/-- The templates in what was read at a path. -/
def TemplateFile.ofFile (path : String) :
    Except FileError String → Except TemplateError TemplateFile
  | .ok text => parse? text
  | .error e => .error (.unreadable path e.message)

/-- The templates of one's own, if there are any. -/
def TemplateFile.load {m : Type → Type} [Monad m] (host : Host m) (invocation : Invocation) :
    ExceptT CommandError m (Option TemplateFile) := do
  match invocation.templates with
  | none => return none
  | some path => return some (← orFail .templates (ofFile path (← host.read path)))

namespace Setup

def load {m : Type → Type} [Monad m] (host : Host m) (invocation : Invocation) :
    ExceptT CommandError m Setup := do
  return { configuration := ← Configuration.load host invocation
           inventory := ← Inventory.load host invocation
           templates := ← TemplateFile.load host invocation }

/-- All templates, each of which is read only now. -/
def renderer (setup : Setup) : Except TemplateError Templates :=
  match setup.templates with
  | none => .ok .standard
  | some file => file.templates?

end Setup

end CloudAudit
