import CloudAudit.Host.World
import CloudAudit.Proofs.Files.Writing
import CloudAudit.Proofs.Program.Reading
import CloudAudit.Proofs.Program.Running

/-!
# Commands that write

A command writes once, as the last thing that it does, and what it writes is the text of a finished
report (`leaves_finished_reports`). So no failure, of whatever step, leaves a part of a report.
-/

namespace CloudAudit

/-! ## Names of archived reports -/

namespace ReportFormat

def ending : ReportFormat → String
  | markdown => ".md"
  | json => ".json"

/-- The name of an archived report, with its time to the second. -/
def archiveName (format : ReportFormat) (t : Timestamp) : String :=
  "compliance_report_" ++ String.ofList (Timestamp.yearText t.date.year)
    ++ String.ofList (Number.padded 2 t.date.month) ++ String.ofList (Number.padded 2 t.date.day)
    ++ "_" ++ String.ofList (Number.padded 2 t.hour) ++ String.ofList (Number.padded 2 t.minute)
    ++ String.ofList (Number.padded 2 t.second) ++ format.ending

theorem fileName_eq_archiveName (format : ReportFormat) (t : Timestamp) :
    format.fileName t = format.archiveName t := by
  have hmark : String.ofList ['_'] = "_" := rfl
  have hending : "." ++ format.fileEnding = format.ending := by cases format <;> rfl
  unfold fileName archiveName Timestamp.fileText Timestamp.fields
  rw [← hending]
  simp only [List.append_nil, String.ofList_append, hmark, String.append_assoc, toString]

end ReportFormat

section Hosts

variable {σ : Type} {host : Host (StateM σ)}

/-! ## A write at the end -/

namespace Storage

variable (storage : Storage host)

/-- All files are as they were if a program failed, and else all but one, which has a text that was
meant for its path. -/
def LeavesOne (meant : String → String → Prop) (start : σ) :
    Except CommandError String × σ → Prop
  | (.error _, finish) => storage.text? finish = storage.text? start
  | (.ok _, finish) => ∃ path text file, meant path text ∧
      Wrote storage.text? storage.place? path text start finish file

variable {storage}

theorem LeavesOne.of_text?_eq {meant : String → String → Prop} {start middle : σ}
    {finish : Except CommandError String × σ} (h : storage.LeavesOne meant middle finish)
    (hkept : storage.text? middle = storage.text? start) :
    storage.LeavesOne meant start finish := by
  obtain ⟨e | message, finish⟩ := finish
  · exact Eq.trans h hkept
  · obtain ⟨path, text, file, hmeant, hwrote⟩ := h
    exact ⟨path, text, file, hmeant, hwrote.place?_eq, hwrote.text?_eq, hkept ▸ hwrote.others⟩

/-- A program that writes and then says so. -/
theorem leavesOne_write {meant : String → String → Prop} {path text : String}
    (h : meant path text) (message : String) (start : σ) :
    storage.LeavesOne meant start
      ((do
        orFail (.writing path) (← host.write path text)
        return message : ExceptT CommandError (StateM σ) String).run.run start) := by
  have hfailed := storage.failed_write path text start
  have hwrite := storage.write path text start
  rw [run_lift_andThen]
  generalize (host.write path text).run start = finish at hfailed hwrite
  obtain ⟨e | _, finish⟩ := finish
  · exact hfailed e rfl
  · obtain ⟨file, hwrote⟩ := hwrite rfl
    exact ⟨path, text, file, h, hwrote⟩

/-- What is behind a program that leaves the files alone and a write of what it came to. -/
theorem leavesOne_andThen {α : Type} {program : ExceptT CommandError (StateM σ) α}
    {next : α → ExceptT CommandError (StateM σ) String} (h : Keeps storage.text? program.run)
    {meant : String → String → Prop} {start : σ}
    (hnext : ∀ value middle, program.run.run start = (.ok value, middle) →
      storage.LeavesOne meant middle ((next value).run.run middle)) :
    storage.LeavesOne meant start ((program >>= next).run.run start) := by
  have hkept := h start
  rw [run_andThen]
  generalize hrun : program.run.run start = finish at hkept
  obtain ⟨e | value, middle⟩ := finish
  · exact hkept
  · exact (hnext value middle hrun).of_text?_eq hkept

end Storage

/-! ## Finished reports -/

namespace Invocation

/-- The setup, the format, the report and its text, none of which is printed or written yet. -/
def finished {m : Type → Type} [Monad m] (host : Host m) (invocation : Invocation)
    (name formatName : String) :
    ExceptT CommandError m (Setup × ReportFormat × Report × String) := do
  let setup ← Setup.load host invocation
  let (format, report, text) ← setup.rendered host name formatName
  return (setup, format, report, text)

/-- The text is the one that is printed when no file is given. -/
def Prints (host : Host (StateM σ)) (invocation : Invocation) (name formatName : String)
    (start : σ) (text : String) : Prop :=
  ((Invocation.run host { invocation with command := .report name formatName none }).run.run
    start).1 = .ok text

/-- The path is the one in the folder of reports that belongs to the time of the report. -/
def Archives (host : Host (StateM σ)) (invocation : Invocation) (name formatName : String)
    (start : σ) (path : String) : Prop :=
  ∃ setup format report text,
    ((invocation.finished host name formatName).run.run start).1 =
      .ok (setup, format, report, text) ∧
    path = Files.join setup.configuration.reportsDir (format.archiveName report.generatedAt)

variable (storage : Storage host) (invocation : Invocation) (name formatName : String)

theorem keeps_finished :
    Keeps storage.text? (invocation.finished host name formatName).run :=
  Keeps.andThen (storage.keeps_setup invocation) fun setup =>
    .andThen (storage.keeps_rendered setup name formatName) fun _ => .pure _

/-- Without a file, the finished text is printed. -/
theorem prints_of_finished {start : σ} {setup : Setup} {format : ReportFormat} {report : Report}
    {text : String}
    (h : ((invocation.finished host name formatName).run.run start).1 =
      .ok (setup, format, report, text)) :
    invocation.Prints host name formatName start text := by
  have hrun : Invocation.run host { invocation with command := .report name formatName none } =
      (do
        let (_, _, _, text) ← invocation.finished host name formatName
        return text) := by
    unfold finished Invocation.run
    simp only [bind_assoc, pure_bind]
    rfl
  unfold Prints
  rw [hrun, run_andThen]
  generalize (invocation.finished host name formatName).run.run start = finish at h
  obtain ⟨result, middle⟩ := finish
  obtain rfl : result = _ := h
  rfl

/-- A command that is given a path writes the finished text there. -/
theorem leavesOne_report (path : String) (start : σ) :
    storage.LeavesOne
      (fun written text => written = path ∧ invocation.Prints host name formatName start text) start
      ((Invocation.run host
        { invocation with command := .report name formatName (some path) }).run.run start) := by
  have hrun : Invocation.run host
      { invocation with command := .report name formatName (some path) } =
      (do
        let (_, _, _, text) ← invocation.finished host name formatName
        orFail (.writing path) (← host.write path text)
        return s!"Report written to {path}") := by
    unfold finished Invocation.run
    simp only [bind_assoc, pure_bind]
    rfl
  rw [hrun]
  refine Storage.leavesOne_andThen (keeps_finished storage invocation name formatName)
    fun (setup, format, report, text) middle h => ?_
  exact Storage.leavesOne_write
    ⟨rfl, prints_of_finished invocation name formatName (congrArg Prod.fst h)⟩ _ middle

/-- A command that archives writes the finished text into the folder of reports. -/
theorem leavesOne_archive (start : σ) :
    storage.LeavesOne
      (fun written text => invocation.Archives host name formatName start written ∧
        invocation.Prints host name formatName start text) start
      ((Invocation.run host { invocation with command := .archive name formatName }).run.run
        start) := by
  have hrun : Invocation.run host { invocation with command := .archive name formatName } =
      (do
        let (setup, format, report, text) ← invocation.finished host name formatName
        let folder := setup.configuration.reportsDir
        orFail (.creating folder) (← host.createFolders folder)
        let path := Files.join folder (format.fileName report.generatedAt)
        orFail (.writing path) (← host.write path text)
        return s!"Audit report exported: {path}\nFormat: {format.capitalName}\n"
          ++ s!"Controls: {report.results.length}") := by
    unfold finished Invocation.run
    simp only [bind_assoc, pure_bind]
    rfl
  rw [hrun]
  refine Storage.leavesOne_andThen (keeps_finished storage invocation name formatName)
    fun (setup, format, report, text) middle h => ?_
  refine Storage.leavesOne_andThen (.lift (storage.createFolders _)) fun created later _ => ?_
  refine Storage.leavesOne_andThen (.orFail _ _) fun _ last _ => ?_
  have hfinished := congrArg Prod.fst h
  have harchives : invocation.Archives host name formatName start
      (Files.join setup.configuration.reportsDir (format.fileName report.generatedAt)) :=
    ⟨setup, format, report, text, hfinished, by rw [format.fileName_eq_archiveName]⟩
  exact Storage.leavesOne_write
    ⟨harchives, prints_of_finished invocation name formatName hfinished⟩ _ last

/-- What a command may do to files: the two that write leave a finished report in its place, or
nothing; the others leave all files alone. -/
def LeavesFinishedReport (start : σ) (finish : Except CommandError String × σ) : Prop :=
  match invocation.command with
  | .report name formatName (some path) =>
    storage.LeavesOne
      (fun written text => written = path ∧ invocation.Prints host name formatName start text)
      start finish
  | .archive name formatName =>
    storage.LeavesOne
      (fun written text => invocation.Archives host name formatName start written ∧
        invocation.Prints host name formatName start text)
      start finish
  | _ => storage.text? finish.2 = storage.text? start

/-- **Only finished reports are written.** -/
theorem leaves_finished_reports (start : σ) :
    invocation.LeavesFinishedReport storage start ((invocation.run host).run.run start) := by
  have hread (hw : invocation.command.writes = false) :
      storage.text? ((invocation.run host).run.run start).2 = storage.text? start :=
    Keeps.andThen (storage.keeps_setup invocation)
      (fun setup => storage.keeps_execute setup invocation.command hw) start
  unfold LeavesFinishedReport
  split
  · next name formatName path hc =>
    have hself : { invocation with command := .report name formatName (some path) } =
        invocation := by rw [← hc]
    exact hself ▸ invocation.leavesOne_report storage name formatName path start
  · next name formatName hc =>
    have hself : { invocation with command := .archive name formatName } = invocation := by
      rw [← hc]
    exact hself ▸ invocation.leavesOne_archive storage name formatName start
  · next hreport harchive =>
    refine hread ?_
    cases hc : invocation.command with
    | report name format output =>
      cases output with
      | some path => exact absurd hc (hreport name format path)
      | none => rfl
    | archive name format => exact absurd hc (harchive name format)
    | _ => rfl

end Invocation

end Hosts

/-! ## Worlds -/

namespace World

theorem keeps_change {step : FileTree → Except FileError FileTree} {β : Type} {view : FileTree → β}
    (h : ∀ tree changed, step tree = .ok changed → view changed = view tree) :
    Keeps (fun world : World => view world.tree) (change step) := by
  intro world
  show view (change step world).2.tree = view world.tree
  unfold change
  split
  · next hstep => exact h _ _ hstep
  · rfl

/-- The files of a world are the texts in its tree. -/
def storage : Storage World.host where
  File := Position
  text? world := world.tree.text?
  place? world path := (world.tree.follow path).toOption
  read _ _ := rfl
  isFile _ _ := rfl
  names _ _ := rfl
  createFolders path := keeps_change fun tree made h =>
    congrArg (fun files at_ => files.lookup at_) (FileTree.files_of_createFolders h)
  here _ := rfl
  lookup _ _ := rfl
  run program arguments world := by
    show ((host.run program arguments).run world).2.tree.text? = _
    simp only [host, StateT.run]
    split <;> rfl
  now _ := rfl
  failed_write path text world e h := by
    change (change (fun tree => tree.write path text) world).1 = _ at h
    show (change (fun tree => tree.write path text) world).2.tree.text? = _
    unfold change at h ⊢
    split at h
    · exact nomatch h
    · rfl
  write path text world h := by
    change (change (fun tree => tree.write path text) world).1 = _ at h
    show ∃ at_, Wrote _ _ path text world (change (fun tree => tree.write path text) world).2 at_
    unfold change at h ⊢
    split at h
    · next written hstep =>
      obtain ⟨at_, hfollow, rfl⟩ := FileTree.exists_of_write hstep
      refine ⟨at_, congrArg Except.toOption hfollow, ?_, fun other ho => ?_⟩
      · exact (FileTree.text?_put at_ at_ text).trans (if_pos rfl)
      · exact (FileTree.text?_put at_ other text).trans (if_neg ho)
    · exact nomatch h

namespace Archive

def invocation : Invocation := { command := .archive "audit" "markdown" }

/-- A checklist of one manual control is all that there is. -/
def world : World where
  tree.files := [(["checklists", "audit.yaml"],
    "checklist:\n- reglementation: DORA\n  exigence: Training\n  preuve: Records\n"
      ++ "  controle: Yearly\n  manual_verification: true\n")]
  program _ _ := .notStarted "not installed"

def digest : String := "blake3:8852b7d5727e2d49ade0b6875ee97414288dee574e559e5b6ca37961ffbdea77"

def text : String :=
  "# Azure Compliance Report\n\n**Generated**: 1970-01-01 00:00:00 UTC\n"
    ++ "**Checklist**: audit (1 controls, `" ++ digest ++ "`)\n**Match policy**: any\n\n"
    ++ "## Executive Summary\n\n- **Total Controls**: 1\n- **Passed**: 0\n- **Failed**: 0\n"
    ++ "- **Manual Review**: 1\n- **Not Assessed (error)**: 0\n- **Compliance Rate**: 0.0%\n"
    ++ "- **Assessed Compliance Rate**: 0.0%\n\n## Compliance by Regulation\n\n### DORA\n\n"
    ++ "- **Compliance Rate**: 0.0% (0/1 passed)\n"
    ++ "- **Failed**: 0 | **Manual**: 1 | **Error**: 0\n\n#### ⚠️ Control #1: Training\n\n"
    ++ "**Status**: MANUAL\n**Evidence**: Records\n**Control**: Yearly\n\n"
    ++ "```\nManual verification required\n```\n\n---\n"

/-- The report is in the folder of reports, under its time, and the checklist is as it was. -/
theorem archives_report :
    ((invocation.run host).run.run world).1.toOption =
      some ("Audit report exported: reports/compliance_report_19700101_000000.md\n"
        ++ "Format: MARKDOWN\nControls: 1") ∧
    ((invocation.run host).run.run world).2.tree.files = world.tree.files ++
      [(["reports", "compliance_report_19700101_000000.md"], text)] ∧
    invocation.LeavesFinishedReport storage world ((invocation.run host).run.run world) := by
  refine ⟨?_, ?_, Invocation.leaves_finished_reports storage _ _⟩ <;> decide +kernel

end Archive

end World

end CloudAudit
