import CloudAudit.Number.Natural
import CloudAudit.Text.Segments

/-!
# Levels of logging

How much a program logs: from nothing to everything.
-/

namespace CloudAudit

inductive LogLevel where
  | off
  | error
  | warn
  | info
  | debug
  | trace
  deriving DecidableEq, Repr, Inhabited

namespace LogLevel

def all : List LogLevel := [off, error, warn, info, debug, trace]

def name : LogLevel → String
  | off => "off"
  | error => "error"
  | warn => "warn"
  | info => "info"
  | debug => "debug"
  | trace => "trace"

/-- A name in any case, or the number of a place among all levels. -/
def parse? (s : String) : Option LogLevel :=
  match Number.readUnsigned? s.toList with
  | some n => all[n]?
  | none => all.find? fun level => Text.sameFolded level.name s

end LogLevel

end CloudAudit
