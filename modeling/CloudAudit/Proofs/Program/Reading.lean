import CloudAudit.Proofs.Run.Results
import CloudAudit.Program.Commands

/-!
# Commands that only read

A host has storage when one can tell what it does to files: all files are as they were after
everything but a successful write. Then whatever a command does before it writes leaves the files
alone, since it is put together from parts that do (`Keeps`).
-/

namespace CloudAudit

/-- A program that leaves what is seen of a state as it is, whatever it comes to. -/
def Keeps {σ β α : Type} (view : σ → β) (program : StateM σ α) : Prop :=
  ∀ start, view (program.run start).2 = view start

namespace Keeps

variable {σ β : Type} {view : σ → β} {α γ ε : Type}

theorem pure (value : α) : Keeps view (Pure.pure value : StateM σ α) := fun _ => rfl

theorem bind {program : StateM σ α} {next : α → StateM σ γ} (h : Keeps view program)
    (hnext : ∀ value, Keeps view (next value)) : Keeps view (program >>= next) :=
  fun start => (hnext _ _).trans (h start)

theorem mapM {program : α → StateM σ γ} (h : ∀ input, Keeps view (program input))
    (inputs : List α) : Keeps view (inputs.mapM program) := by
  induction inputs with
  | nil => exact .pure _
  | cons input rest ih =>
    rw [List.mapM_cons]
    exact (h input).bind fun _ => ih.bind fun _ => .pure _

theorem filterAuxM {program : α → StateM σ Bool} (h : ∀ input, Keeps view (program input))
    (inputs kept : List α) : Keeps view (inputs.filterAuxM program kept) := by
  induction inputs generalizing kept with
  | nil => exact .pure _
  | cons input rest ih => exact (h input).bind fun _ => ih _

theorem filterM {program : α → StateM σ Bool} (h : ∀ input, Keeps view (program input))
    (inputs : List α) : Keeps view (inputs.filterM program) :=
  (filterAuxM h inputs []).bind fun _ => .pure _

/-! ### With failures -/

theorem throw (e : ε) : Keeps view (throw e : ExceptT ε (StateM σ) α).run := .pure _

theorem lift {program : StateM σ α} (h : Keeps view program) :
    Keeps view (ExceptT.lift program : ExceptT ε (StateM σ) α).run :=
  h.bind fun _ => .pure _

theorem andThen {program : ExceptT ε (StateM σ) α} {next : α → ExceptT ε (StateM σ) γ}
    (h : Keeps view program.run) (hnext : ∀ value, Keeps view (next value).run) :
    Keeps view (program >>= next).run := by
  rw [ExceptT.run_bind]
  refine h.bind fun outcome => ?_
  cases outcome with
  | ok value => exact hnext value
  | error e => exact .pure _

theorem orFail (failure : ε → CommandError) (result : Except ε α) :
    Keeps view (orFail (m := StateM σ) failure result).run := by
  cases result with
  | ok value => exact .pure _
  | error e => exact .throw _

end Keeps

/-! ## Setting up -/

/-- Reading, as far as setting up needs it, leaves what is seen of the state as it is. -/
structure Host.Reading {σ β : Type} (host : Host (StateM σ)) (view : σ → β) : Prop where
  read : ∀ path, Keeps view (host.read path)
  isFile : ∀ path, Keeps view (host.isFile path)
  here : Keeps view host.here
  lookup : ∀ name, Keeps view (host.lookup name)

namespace Host.Reading

variable {σ β : Type} {host : Host (StateM σ)} {view : σ → β} (reading : host.Reading view)

include reading

theorem keeps_value? (defined : EnvironmentFile.Defined) (name : String) :
    Keeps view (EnvironmentFile.value? host.lookup defined name) :=
  (reading.lookup name).bind fun _ => .pure _

theorem keeps_define (bindings : List EnvironmentFile.Binding) (defined : EnvironmentFile.Defined) :
    Keeps view (EnvironmentFile.define host.lookup defined bindings) := by
  induction bindings generalizing defined with
  | nil => exact .pure _
  | cons binding rest ih =>
    refine (reading.keeps_value? defined binding.name).bind fun known => ?_
    cases known with
    | some value => exact ih defined
    | none =>
      refine Keeps.bind (.mapM (fun piece => ?_) _) fun _ => ih _
      cases piece with
      | char c => exact .pure _
      | reference name => exact (reading.keeps_value? defined name).bind fun _ => .pure _

theorem keeps_find? (folders : List String) :
    Keeps view (EnvironmentFile.find? host folders) := by
  induction folders with
  | nil => exact .pure _
  | cons folder rest ih =>
    refine (reading.isFile _).bind fun found => ?_
    cases found with
    | true => exact .pure _
    | false => exact ih

theorem keeps_environmentFile : Keeps view (EnvironmentFile.load host) := by
  refine reading.here.bind fun folder => (reading.keeps_find? _).bind fun found => ?_
  cases found with
  | none => exact .pure _
  | some path =>
    refine (reading.read path).bind fun text => ?_
    cases text with
    | ok text => exact reading.keeps_define _ _
    | error e => exact .pure _

theorem keeps_overrides : Keeps view (Configuration.overrides host) :=
  reading.keeps_environmentFile.bind fun defined =>
    Keeps.bind
      (.mapM (fun name => (reading.keeps_value? defined name).bind fun _ => .pure _) _)
      fun _ => .pure _

variable (invocation : Invocation)

theorem keeps_configuration : Keeps view (Configuration.load host invocation).run := by
  refine Keeps.andThen (.lift reading.keeps_overrides) fun values => ?_
  have hoverridden (configuration : Configuration) : Keeps view
      (do
        let configuration ← orFail .settings
          (configuration.withOverrides fun name => values.lookup name)
        return configuration.withInvocation invocation : ExceptT CommandError (StateM σ) _).run :=
    Keeps.andThen (.orFail _ _) fun _ => .pure _
  split
  · exact Keeps.andThen (.pure _) hoverridden
  · exact Keeps.andThen (.lift (reading.read _)) fun _ => .andThen (.orFail _ _) hoverridden

theorem keeps_inventory : Keeps view (Inventory.load host invocation).run := by
  unfold Inventory.load
  split
  · exact .pure _
  · exact Keeps.andThen (.lift (reading.read _)) fun _ => .andThen (.orFail _ _) fun _ => .pure _

theorem keeps_templates : Keeps view (TemplateFile.load host invocation).run := by
  unfold TemplateFile.load
  split
  · exact .pure _
  · exact Keeps.andThen (.lift (reading.read _)) fun _ => .andThen (.orFail _ _) fun _ => .pure _

theorem keeps_setup : Keeps view (Setup.load host invocation).run :=
  Keeps.andThen (reading.keeps_configuration invocation) fun _ =>
    .andThen (reading.keeps_inventory invocation) fun _ =>
      .andThen (reading.keeps_templates invocation) fun _ => .pure _

end Host.Reading

/-- Whether a command has a file to write. -/
def Command.writes : Command → Bool
  | report _ _ output => output.isSome
  | archive _ _ => true
  | _ => false

/-! ## Storage -/

/-- After a successful write, the path leads to a file with the text, and all other files are as
they were. -/
structure Wrote {σ File : Type} (text? : σ → File → Option String)
    (place? : σ → String → Option File) (path text : String) (start finish : σ) (file : File) :
    Prop where
  place?_eq : place? finish path = some file
  text?_eq : text? finish file = some text
  others : ∀ other, other ≠ file → text? finish other = text? start other

/-- What a host does to its files. -/
structure Storage {σ : Type} (host : Host (StateM σ)) where
  File : Type
  text? : σ → File → Option String
  /-- The file that a path leads to. -/
  place? : σ → String → Option File
  read : ∀ path, Keeps text? (host.read path)
  isFile : ∀ path, Keeps text? (host.isFile path)
  names : ∀ path, Keeps text? (host.names path)
  createFolders : ∀ path, Keeps text? (host.createFolders path)
  here : Keeps text? host.here
  lookup : ∀ name, Keeps text? (host.lookup name)
  run : ∀ program arguments, Keeps text? (host.run program arguments)
  now : Keeps text? host.now
  /-- A write that fails leaves all files as they were. -/
  failed_write : ∀ path text start e, ((host.write path text).run start).1 = .error e →
    text? ((host.write path text).run start).2 = text? start
  write : ∀ path text start, ((host.write path text).run start).1 = .ok () →
    ∃ file, Wrote text? place? path text start ((host.write path text).run start).2 file

variable {σ : Type} {host : Host (StateM σ)} (storage : Storage host)

namespace Storage

theorem keeps_setup (invocation : Invocation) :
    Keeps storage.text? (Setup.load host invocation).run :=
  Host.Reading.keeps_setup ⟨storage.read, storage.isFile, storage.here, storage.lookup⟩ invocation

/-! ## Assessing -/

variable (setup : Setup)

theorem keeps_firstFile (paths : List String) :
    Keeps storage.text? (Setup.firstFile host paths) := by
  induction paths with
  | nil => exact .pure _
  | cons path rest ih =>
    refine (storage.isFile path).bind fun found => ?_
    cases found with
    | true => exact .pure _
    | false => exact ih

theorem keeps_loadChecklist (path : String) :
    Keeps storage.text? (Checklist.load host path) :=
  (storage.read path).bind fun _ => .pure _

theorem keeps_checklist (name : String) :
    Keeps storage.text? (setup.checklist host name).run :=
  Keeps.andThen (.lift (storage.keeps_firstFile _)) fun _ =>
    .andThen (.lift (storage.keeps_loadChecklist _)) fun _ => .orFail _ _

theorem keeps_query (resourceType : String) :
    Keeps storage.text? (setup.query host resourceType) := by
  unfold Setup.query Inventory.query
  split
  · exact .pure _
  · exact (storage.run _ _).bind fun _ => .pure _

theorem keeps_validate (policy : MatchPolicy) (index : Nat) (control : Control) :
    Keeps storage.text? (control.validate (setup.query host) policy index) := by
  unfold Control.validate
  split
  · exact .pure _
  · exact Keeps.bind (.mapM (fun _ => storage.keeps_query setup _) _) fun _ => .pure _

theorem keeps_complete (settings : EngineSettings) (controls : List Control) :
    Keeps storage.text? (Run.complete settings (setup.query host) controls) := by
  unfold Run.complete
  split
  · exact .mapM (fun _ => storage.keeps_validate setup _ _ _) _
  · refine Keeps.bind (.mapM (fun (control, index) => ?_) _) fun _ => .pure _
    dsimp only
    rw [Control.validate_lift]
    exact (storage.keeps_validate setup _ _ _).bind fun _ => .pure _

theorem keeps_single (policy : MatchPolicy) (controls : List Control) (index : Nat) :
    Keeps storage.text? (Run.single (setup.query host) policy controls index) := by
  unfold Run.single
  split
  · exact (storage.keeps_validate setup _ _ _).bind fun _ => .pure _
  · exact .pure _

theorem keeps_validateText (policy : MatchPolicy) (text : String) :
    Keeps storage.text? (Control.validateText (setup.query host) policy text) := by
  unfold Control.validateText
  split
  · exact (storage.keeps_validate setup _ _ _).bind fun _ => .pure _
  · exact .pure _

theorem keeps_assess (name : String) : Keeps storage.text? (setup.assess host name).run :=
  Keeps.andThen (storage.keeps_checklist setup name) fun _ =>
    .andThen (.lift storage.now) fun _ =>
      .andThen (.lift (storage.keeps_complete setup _ _)) fun _ => .pure _

theorem keeps_render (text? : Templates → Option String) :
    Keeps storage.text? (setup.render (m := StateM σ) text?).run := by
  refine Keeps.andThen (.orFail _ _) fun templates => ?_
  split
  · exact .pure _
  · exact .throw _

theorem keeps_rendered (name formatName : String) :
    Keeps storage.text? (setup.rendered host name formatName).run := by
  refine Keeps.andThen ?_ fun _ => .andThen (storage.keeps_assess setup name) fun _ =>
    .andThen (storage.keeps_render setup _) fun _ => .pure _
  unfold Setup.format
  split
  · exact .pure _
  · exact .throw _

theorem keeps_ofFolder (folder : String) :
    Keeps storage.text? (ChecklistListing.ofFolder host folder) := by
  refine (storage.names folder).bind fun names => ?_
  cases names with
  | error e => exact .pure _
  | ok names =>
    exact Keeps.bind (.filterM (fun _ => storage.isFile _) _) fun _ =>
      .bind (.mapM (fun _ => (storage.keeps_loadChecklist _).bind fun _ => .pure _) _) fun _ =>
        .pure _

/-! ## Commands -/

theorem keeps_validateOne (name : String) (index : Nat) (json : Bool) :
    Keeps storage.text? (setup.validateOne host name index json).run := by
  refine Keeps.andThen (storage.keeps_checklist setup name) fun _ =>
    .andThen (.lift (storage.keeps_single setup _ _ _)) fun _ =>
      .andThen (.orFail _ _) fun _ => ?_
  cases json with
  | true => exact .pure _
  | false => exact storage.keeps_render setup _

theorem keeps_validateAll (name : String) (json : Bool) :
    Keeps storage.text? (setup.validateAll host name json).run :=
  Keeps.andThen (storage.keeps_assess setup name) fun _ => .pure _

theorem keeps_validateCustom (file : String) :
    Keeps storage.text? (setup.validateCustom host file).run :=
  Keeps.andThen (.lift (storage.read file)) fun _ => .andThen (.orFail _ _) fun _ =>
    .andThen (.lift (storage.keeps_validateText setup _ _)) fun _ =>
      .andThen (.orFail _ _) fun _ => storage.keeps_render setup _

theorem keeps_checkResource (resourceType : String) (json : Bool) :
    Keeps storage.text? (setup.checkResource host resourceType json).run :=
  Keeps.andThen (.lift (storage.keeps_query setup resourceType)) fun _ =>
    .andThen (.orFail _ _) fun _ => .pure _

theorem keeps_remediation (name : String) (json : Bool) :
    Keeps storage.text? (setup.remediation host name json).run := by
  refine Keeps.andThen (storage.keeps_assess setup name) fun _ => ?_
  cases json with
  | true => exact .pure _
  | false => exact storage.keeps_render setup _

/-- Every command that has no file to write leaves all files alone. -/
theorem keeps_execute (command : Command) (h : command.writes = false) :
    Keeps storage.text? (setup.execute host command).run := by
  cases command with
  | list folder =>
    exact Keeps.andThen (.lift (storage.keeps_ofFolder _)) fun _ =>
      .andThen (.orFail _ _) fun _ => .pure _
  | load name => exact Keeps.andThen (storage.keeps_checklist setup name) fun _ => .pure _
  | validate name index json =>
    cases index with
    | some index => exact storage.keeps_validateOne setup name index json
    | none => exact storage.keeps_validateAll setup name json
  | validateCustom file => exact storage.keeps_validateCustom setup file
  | checkResource resourceType json => exact storage.keeps_checkResource setup resourceType json
  | report name format output =>
    cases output with
    | some path => exact nomatch h
    | none => exact Keeps.andThen (storage.keeps_rendered setup name format) fun _ => .pure _
  | summary name =>
    exact Keeps.andThen (storage.keeps_assess setup name) fun _ => storage.keeps_render setup _
  | remediation name json => exact storage.keeps_remediation setup name json
  | archive name format => exact nomatch h

end Storage

end CloudAudit
