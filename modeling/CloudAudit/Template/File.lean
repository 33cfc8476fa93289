import CloudAudit.Template.Reader
import CloudAudit.Template.Render
import CloudAudit.Yaml.Node
import CloudAudit.Yaml.Record

/-!
# Files of named templates

A file holds a version and templates by name. Every file has the four templates that reports are
made with, and `Templates` are the templates of a file after reading each of them.
-/

namespace CloudAudit

open Yaml

structure TemplateText where
  description : String := ""
  text : String
  deriving DecidableEq, Repr, Inhabited

structure TemplateFile where
  version : String
  /-- In the order of the names. -/
  templates : List (String × TemplateText)
  deriving Inhabited

inductive TemplateError where
  /-- The file could not be read. -/
  | unreadable (path cause : String)
  /-- The text is no document at all, or one without the shape of a file of templates. -/
  | malformed (reason : Option String)
  | missing (name : String)
  /-- A template in the file is none. -/
  | badTemplate (name : String)
  deriving DecidableEq, Repr

/-- Templates that have been read, by name. -/
abbrev Templates := List (String × List Template.Node)

namespace TemplateError

/-- The message, unless it is about the inside of a text that could not be read. -/
def message? : TemplateError → Option String
  | unreadable path cause => some s!"invalid templates: failed to read {path}: {cause}"
  | malformed reason => reason.map ("invalid templates: " ++ ·)
  | missing name => some s!"invalid templates: missing template '{name}'"
  | badTemplate _ => none

end TemplateError

namespace TemplateFile

def requiredNames : List String := ["report", "control", "summary", "remediation"]

structure SeenText where
  description : Option String := none
  text : Option String := none

def textFields : List (Node.Field SeenText) :=
  [⟨"description", (·.description.isSome), fun s path node => do
      return { s with description := some (← Node.string path node) }⟩,
    ⟨"template", (·.text.isSome), fun s path node => do
      return { s with text := some (← Node.string path node) }⟩]

def templateText : Node.Reader TemplateText := fun path node => do
  let s ← Node.record "Template" textFields {} path node
  return { description := s.description.getD "", text := ← Node.require path "template" s.text }

structure Seen where
  version : Option String := none
  templates : Option (List (String × TemplateText)) := none

def fields : List (Node.Field Seen) :=
  [⟨"version", (·.version.isSome), fun s path node => do
      return { s with version := some (← Node.string path node) }⟩,
    ⟨"templates", (·.templates.isSome), fun s path node => do
      return { s with templates := some (← Node.map templateText path node) }⟩]

/-- Puts a template into its place by name, unless the name is there already. -/
def insert (name : String) (template : TemplateText) :
    List (String × TemplateText) → List (String × TemplateText)
  | [] => [(name, template)]
  | (n, t) :: rest =>
    if name < n then (name, template) :: (n, t) :: rest
    else if name = n then (n, t) :: rest
    else (n, t) :: insert name template rest

def document (root : Option Node) : Except Node.Fault TemplateFile := do
  let s ←
    match root with
    | some node => Node.record "TemplatesFile" fields {} "" node
    | none => .ok {}
  let version ← Node.require "" "version" s.version
  let templates ← Node.require "" "templates" s.templates
  return { version, templates := templates.foldr (fun (name, t) rest => insert name t rest) [] }

def names (file : TemplateFile) : List String := file.templates.map Prod.fst

def get? (file : TemplateFile) (name : String) : Option TemplateText := file.templates.lookup name

/-- The file that a text spells, with all of the required templates. -/
def parse? (text : String) : Except TemplateError TemplateFile :=
  match Node.root? text with
  | none => .error (.malformed none)
  | some root =>
    match document root with
    | .error fault => .error (.malformed (fault.told? root))
    | .ok file =>
      match requiredNames.find? fun name => (file.get? name).isNone with
      | some name => .error (.missing name)
      | none => .ok file

/-- All templates of a file, or the first one that is none. -/
def templates? (file : TemplateFile) : Except TemplateError Templates :=
  file.templates.mapM fun (name, template) =>
    match Template.read? template.text with
    | some nodes => .ok (name, nodes)
    | none => .error (.badTemplate name)

end TemplateFile

namespace Templates

def ofText? (text : String) : Except TemplateError Templates := do
  (← TemplateFile.parse? text).templates?

/-- The text of a named template over data, if there is such a template and it can be rendered. -/
def render? (templates : Templates) (name : String) (data : Json) : Option String :=
  (templates.lookup name).bind fun nodes => Template.render? nodes data

end Templates

end CloudAudit
