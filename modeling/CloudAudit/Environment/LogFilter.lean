import CloudAudit.Environment.LogLevel
import CloudAudit.Text.Letter

/-!
# Filters of logging

How much each part of a program logs. The variables of the environment name a filter as a list of
rules, each a level, a part of the program, or both.
-/

namespace CloudAudit

/-- A rule without a target is for all parts of the program. -/
structure LogRule where
  target : Option String
  level : LogLevel
  deriving DecidableEq, Repr

namespace LogRule

def startsTarget (c : Char) : Bool :=
  Text.isLetterOrNumber c || c = '-' || c = ':' || c = '_'

/-- A level, a target that logs everything, or a target and a level with an equals sign between
them, where no level means everything. -/
def parse? (s : String) : Option LogRule :=
  if !s.toList.head?.any startsTarget || s.toList.contains '[' then none
  else
    match Text.split '=' s with
    | [word] =>
      match LogLevel.parse? word with
      | some level => some { target := none, level }
      | none => some { target := some word, level := .trace }
    | [target, ""] => some { target := some target, level := .trace }
    | [target, level] => (LogLevel.parse? level).map fun level => { target := some target, level }
    | _ => none

/-- Longer targets come before shorter ones, later ones of a length before earlier ones, and the
rule for all parts comes last. -/
def before (a b : LogRule) : Bool :=
  match a.target, b.target with
  | some s, some t =>
    t.utf8ByteSize < s.utf8ByteSize || (t.utf8ByteSize = s.utf8ByteSize && t < s)
  | some _, none => true
  | none, _ => false

def text (rule : LogRule) : String :=
  match rule.target with
  | some target => target ++ "=" ++ rule.level.name
  | none => rule.level.name

end LogRule

/-- Rules for different targets, the one for the most special target first. -/
structure LogFilter where
  rules : List LogRule
  deriving DecidableEq, Repr

namespace LogFilter

def ofLevel (level : LogLevel) : LogFilter := ⟨[{ target := none, level }]⟩

/-- Puts a rule in its place, where it replaces one for the same target. -/
def insert (rule : LogRule) : List LogRule → List LogRule
  | [] => [rule]
  | first :: rest =>
    if rule.target = first.target then rule :: rest
    else if rule.before first then rule :: first :: rest
    else first :: insert rule rest

/-- Rules with commas between them; no rules at all let errors pass. -/
def parse? (s : String) : Option LogFilter :=
  if s.isEmpty then some (ofLevel .error)
  else
    ((Text.split ',' s).mapM LogRule.parse?).map fun rules =>
      ⟨rules.foldl (fun sorted rule => insert rule sorted) []⟩

def text (filter : LogFilter) : String :=
  Text.join "," (filter.rules.map LogRule.text)

/-- The filter of a verbose program, or else the one that a variable names. -/
def choose (verbose : Bool) (lookup : String → Option String) : LogFilter :=
  if verbose then ofLevel .debug
  else
    let own := (lookup "LOG_LEVEL").bind fun s => parse? (s.map Char.toLower)
    (own.or ((lookup "RUST_LOG").bind parse?)).getD (ofLevel .info)

end LogFilter

end CloudAudit
