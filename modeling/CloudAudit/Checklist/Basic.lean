import CloudAudit.Checklist.Entry
import CloudAudit.Digest.Blake3
import CloudAudit.Report.Basic

/-!
# Checklists

A checklist is a document with a list of entries and perhaps a name. All entries have to be well
formed; the first one that is not is reported.
-/

namespace CloudAudit

open Yaml

structure Checklist where
  name : String
  /-- The hash of the text. -/
  digest : String
  controls : List Control
  deriving Inhabited

/-- How many controls a checklist has, and how many of each regulation. -/
structure ChecklistSummary where
  name : String
  total : Nat
  manual : Nat
  /-- In the order in which the regulations come. -/
  regulations : List (String × Nat)
  deriving DecidableEq, Repr

namespace Checklist

structure Seen where
  name : Option (Option String) := none
  entries : Option (List Value) := none

def fields : List (Node.Field Seen) :=
  [⟨"name", (·.name.isSome), fun s path node => do
      return { s with name := some (← Node.optional Node.string path node) }⟩,
    ⟨"checklist", (·.entries.isSome), fun s path node => do
      return { s with entries := ← Node.list Node.value path node }⟩]

/-- The name, if there is one, and the entries. -/
def document (root : Option Node) : Except Node.Fault (Option String × List Value) := do
  let s ←
    match root with
    | some node => Node.record "ChecklistFile" fields {} "" node
    | none => .ok {}
  return (s.name.getD none, ← Node.require "" "checklist" s.entries)

def entries? (text : String) : Except ChecklistError (Option String × List Value) :=
  match Node.root? text with
  | some root =>
    match document root with
    | .ok parts => .ok parts
    | .error fault => .error (.notAChecklist (fault.told? root))
  | none => .error (.notAChecklist none)

/-- The controls of all entries, or the fault of the first entry that has one. -/
def controls? (entries : List Value) : Except ChecklistError (List Control) :=
  entries.zipIdx.mapM fun (entry, index) => Control.ofEntry? index entry

def digestOf (text : String) : String := "blake3:" ++ Blake3.hexDigest text

/-- The checklist of a text; a name in it comes before the given one. -/
def parse? (defaultName text : String) : Except ChecklistError Checklist := do
  let (name, entries) ← entries? text
  let controls ← controls? entries
  return { name := name.getD defaultName, digest := digestOf text, controls }

def source (checklist : Checklist) : ChecklistMeta :=
  { name := checklist.name, digest := checklist.digest
    controlCount := checklist.controls.length }

/-- Counts one more of a regulation; a new one goes to the end. -/
def countRegulation (regulation : String) : List (String × Nat) → List (String × Nat)
  | [] => [(regulation, 1)]
  | (name, n) :: rest =>
    if name = regulation then (name, n + 1) :: rest
    else (name, n) :: countRegulation regulation rest

def summary (checklist : Checklist) : ChecklistSummary :=
  { name := checklist.name
    total := checklist.controls.length
    manual := checklist.controls.countP Control.manual
    regulations :=
      checklist.controls.foldl (fun counts control => countRegulation control.regulation counts)
        [] }

end Checklist

/-- The text for people. -/
def Checklist.overview (checklist : Checklist) : String :=
  let s := checklist.summary
  s!"Checklist {s.name}: {s.total} controls ({s.manual} manual)\n{checklist.digest}\n"
    ++ String.join (s.regulations.map fun (name, n) => s!"  {name}: {n} controls\n")

end CloudAudit
