import CloudAudit.Environment.Binding
import CloudAudit.Environment.Statement
import CloudAudit.Host.Basic

/-!
# Environment files

Variables in a file named `.env`, in the folder where a program starts or the innermost folder
around it that has one. A variable that has a value already keeps it.
-/

namespace CloudAudit.EnvironmentFile

/-- Values of variables that the host does not define. -/
abbrev Defined := List (String × String)

/-- The value that the host gives a variable, or else a file. -/
def value? {m : Type → Type} [Monad m] (lookup : String → m (Option String)) (defined : Defined)
    (name : String) : m (Option String) := do
  return (← lookup name).or (defined.lookup name)

def Piece.resolve {m : Type → Type} [Monad m] (lookup : String → m (Option String)) :
    Piece → m String
  | .char c => pure (String.singleton c)
  | .reference name => do return (← lookup name).getD ""

/-- Defines the variables of bindings that have no value yet, in order. -/
def define {m : Type → Type} [Monad m] (lookup : String → m (Option String))
    (defined : Defined) : List Binding → m Defined
  | [] => pure defined
  | binding :: rest => do
    let known := value? lookup defined
    match ← known binding.name with
    | some _ => define lookup defined rest
    | none =>
      let pieces ← binding.value.mapM (Piece.resolve known)
      define lookup (defined ++ [(binding.name, String.join pieces)]) rest

/-- The first of some folders' environment files. -/
def find? {m : Type → Type} [Monad m] (host : Host m) : List String → m (Option String)
  | [] => pure none
  | folder :: rest => do
    let path := Files.join folder ".env"
    if ← host.isFile path then return some path else find? host rest

/-- The variables that the environment file of the host defines. -/
def load {m : Type → Type} [Monad m] (host : Host m) : m Defined := do
  match ← find? host (Files.outward (← host.here)) with
  | none => return []
  | some path =>
    match ← host.read path with
    | .ok text => define host.lookup [] (bindings (statements text))
    | .error _ => return []

end CloudAudit.EnvironmentFile
