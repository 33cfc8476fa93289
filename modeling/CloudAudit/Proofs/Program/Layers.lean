import CloudAudit.Host.World
import CloudAudit.Proofs.Configuration.Document
import CloudAudit.Proofs.Program.Reading
import CloudAudit.Proofs.Program.Running

/-!
# Layers of settings

The settings of a run come from the command line, from the environment, from the configuration file,
or go without saying, each setting from the first of these that speaks of it
(`settled_by_layers`).
-/

namespace CloudAudit

open Yaml

/-! ## The environment -/

/-- Reading leaves a world as it is. -/
theorem World.reading : World.host.Reading (id : World → World) :=
  ⟨fun _ _ => rfl, fun _ _ => rfl, fun _ => rfl, fun _ _ => rfl⟩

/-- The value of a variable of a world, or else of its environment file. -/
def World.value? (world : World) (name : String) : Option String :=
  (world.environment.lookup name).or
    (((EnvironmentFile.load World.host).run world).1.lookup name)

/-- The variables that override a configuration, as far as they have values. -/
def World.overriding (world : World) : List (String × String) :=
  Configuration.overrideNames.filterMap fun name =>
    (world.value? name).map fun value => (name, value)

namespace Configuration

/-- Only the variables with the names of overrides count. -/
theorem withOverrides_congr {configuration : Configuration} {lookup other : String → Option String}
    (h : ∀ name ∈ overrideNames, lookup name = other name) :
    configuration.withOverrides lookup = configuration.withOverrides other := by
  simp only [overrideNames, List.forall_mem_cons, List.not_mem_nil, false_imp_iff, implies_true,
    and_true] at h
  obtain ⟨hconcurrency, htimeout, hpolicy, hchecklists, hreports⟩ := h
  simp only [withOverrides, override, hconcurrency, htimeout, hpolicy, hchecklists, hreports]

/-- The defined ones of some variables are found by their names. -/
theorem lookup_filterMap (value? : String → Option String) (names : List String) (name : String) :
    (names.filterMap fun name => (value? name).map fun value => (name, value)).lookup name =
      if name ∈ names then value? name else none := by
  induction names with
  | nil => rfl
  | cons first rest ih =>
    rw [List.filterMap_cons]
    by_cases hname : name = first
    · subst hname
      rw [if_pos List.mem_cons_self]
      cases hvalue : value? name with
      | none => simp [ih, hvalue]
      | some value => simp
    · have hmem : name ∈ first :: rest ↔ name ∈ rest := List.mem_cons.trans (or_iff_right hname)
      rw [if_congr hmem rfl rfl, ← ih]
      cases value? first with
      | none => rfl
      | some value =>
        show List.lookup name ((first, value) :: _) = _
        rw [List.lookup_cons, beq_eq_false_iff_ne.mpr hname]

theorem withOverrides_overriding (configuration : Configuration) (world : World) :
    (configuration.withOverrides fun name => world.overriding.lookup name) =
      configuration.withOverrides world.value? :=
  withOverrides_congr fun name hname => (lookup_filterMap _ _ name).trans (if_pos hname)

theorem run_overrides (world : World) :
    (overrides World.host).run world = (world.overriding, world) := by
  have hfile : (EnvironmentFile.load World.host).run world =
      (((EnvironmentFile.load World.host).run world).1, world) :=
    Prod.ext rfl (World.reading.keeps_environmentFile world)
  unfold overrides
  rw [run_bind_of_run hfile]
  generalize hdefined : ((EnvironmentFile.load World.host).run world).1 = defined
  have hvalue (name : String) :
      (do return (← EnvironmentFile.value? World.host.lookup defined name).map fun value =>
        (name, value) : StateM World (Option (String × String))).run world =
      ((world.value? name).map fun value => (name, value), world) := by
    rw [World.value?, hdefined]
    rfl
  rw [run_bind_of_run (run_mapM_of_run hvalue _)]
  exact Prod.ext List.filterMap_map rfl

end Configuration

/-! ## The command line -/

/-- The document of the configuration file that a command line names. -/
def World.configuration? (world : World) (invocation : Invocation) : Option Node :=
  (invocation.configuration.bind fun path =>
    (world.tree.read path).toOption.bind Node.root?).join

/-- Each setting comes from the command line, from the environment, or from the file, and otherwise
goes without saying. -/
structure Layered (world : World) (invocation : Invocation) (engine : EngineSettings) : Prop where
  concurrency : Settled 1
    [invocation.concurrency.map fun given n => n = max given 1,
      (world.value? "COMPLIANCE_CONCURRENCY").map Configuration.IsCount,
      (Configuration.setting? (world.configuration? invocation) "concurrency").map Node.IsNatural]
    engine.concurrency
  timeoutSeconds : Settled 30
    [(world.value? "COMPLIANCE_QUERY_TIMEOUT_SECS").map Configuration.IsNumber,
      (Configuration.setting? (world.configuration? invocation) "queryTimeoutSecs").map
        Node.IsNatural]
    engine.timeoutSeconds
  matchPolicy : Settled .any
    [if invocation.strict then some fun policy => policy = .all else none,
      (world.value? "COMPLIANCE_MATCH_POLICY").map MatchPolicy.IsNamed,
      (Configuration.setting? (world.configuration? invocation) "matchPolicy").map
        fun node policy => node.IsChoice policy.name]
    engine.matchPolicy
  one_le_timeoutSeconds : 1 ≤ engine.timeoutSeconds

namespace Configuration

variable {world : World} {invocation : Invocation} {configuration : Configuration}

theorem spelled_of_ofFile {path : String} (hpath : invocation.configuration = some path)
    (h : ofFile path (world.tree.read path) = .ok configuration) :
    Spelled (world.configuration? invocation) configuration.engine := by
  cases hread : world.tree.read path with
  | error e => exact nomatch hread ▸ h
  | ok text =>
    rw [hread] at h
    obtain ⟨root, hroot, hdocument⟩ := parse?_eq_ok h
    have hconfiguration : world.configuration? invocation = root := by
      rw [World.configuration?, hpath, Option.bind_some, hread, Except.toOption, Option.bind_some,
        hroot, Option.join_some]
    exact hconfiguration ▸ spelled_of_document hdocument

/-- Where loading comes to a configuration, the file is read, then overridden, and then the command
line has its say. -/
theorem exists_of_load
    (h : ((load World.host invocation).run.run world).1 = .ok configuration) :
    ∃ read overridden : Configuration, Spelled (world.configuration? invocation) read.engine ∧
      read.withOverrides world.value? = .ok overridden ∧
      overridden.withInvocation invocation = configuration := by
  obtain ⟨values, middle, hvalues, h⟩ := exists_of_andThen h
  obtain ⟨rfl, rfl⟩ := Prod.mk.inj ((run_overrides world).symm.trans (run_of_lift hvalues))
  -- both with a file and without one, what is behind the reading is the same
  have hsettled {read : Configuration}
      (h : ((do
        let overridden ← orFail .settings
          (read.withOverrides fun name => world.overriding.lookup name)
        return overridden.withInvocation invocation :
          ExceptT CommandError (StateM World) Configuration).run.run world).1 =
            .ok configuration) :
      ∃ overridden, read.withOverrides world.value? = .ok overridden ∧
        overridden.withInvocation invocation = configuration := by
    obtain ⟨overridden, _, hoverridden, h⟩ := exists_of_andThen h
    have hread := (eq_ok_of_orFail hoverridden).1
    exact ⟨overridden, read.withOverrides_overriding world ▸ hread, Except.ok.inj h⟩
  split at h
  · next hpath =>
    obtain ⟨overridden, hoverridden, h⟩ := hsettled h
    refine ⟨{}, overridden, spelled_default ?_, hoverridden, h⟩
    rw [World.configuration?, hpath]
    rfl
  · next path hpath =>
    obtain ⟨_, middle, hread, h⟩ := exists_of_andThen h
    obtain ⟨rfl, rfl⟩ := Prod.mk.inj (run_of_lift hread)
    obtain ⟨read, _, hrun, h⟩ := exists_of_andThen h
    obtain ⟨hfile, rfl⟩ := eq_ok_of_orFail hrun
    obtain ⟨overridden, hoverridden, h⟩ := hsettled h
    exact ⟨read, overridden, spelled_of_ofFile hpath hfile, hoverridden, h⟩

variable (configuration invocation)

theorem settled_withInvocation_concurrency :
    Settled configuration.engine.concurrency
      [invocation.concurrency.map fun given n => n = max given 1]
      (configuration.withInvocation invocation).engine.concurrency := by
  unfold withInvocation
  cases invocation.concurrency <;> cases invocation.strict <;> rfl

theorem settled_withInvocation_matchPolicy :
    Settled configuration.engine.matchPolicy
      [if invocation.strict then some fun policy => policy = .all else none]
      (configuration.withInvocation invocation).engine.matchPolicy := by
  unfold withInvocation
  cases invocation.concurrency <;> cases invocation.strict <;> rfl

theorem timeoutSeconds_withInvocation :
    (configuration.withInvocation invocation).engine.timeoutSeconds =
      configuration.engine.timeoutSeconds := by
  unfold withInvocation
  cases invocation.concurrency <;> cases invocation.strict <;> rfl

end Configuration

/-- What is loaded has gone through all layers. -/
theorem layered_of_load {world : World} {invocation : Invocation} {setup : Setup}
    (h : ((Setup.load World.host invocation).run.run world).1 = .ok setup) :
    Layered world invocation setup.configuration.engine := by
  obtain ⟨configuration, middle, hconfiguration, h⟩ := exists_of_andThen h
  have hsetup : setup.configuration = configuration := by
    obtain ⟨inventory, middle, -, h⟩ := exists_of_andThen h
    obtain ⟨templates, middle, -, h⟩ := exists_of_andThen h
    exact congrArg Setup.configuration (Except.ok.inj h).symm
  obtain ⟨read, overridden, hspelled, hoverridden, rfl⟩ :=
    Configuration.exists_of_load (congrArg Prod.fst hconfiguration)
  have haccepted := Configuration.accepted_of_withOverrides hoverridden
  rw [hsetup]
  constructor
  · exact (hspelled.concurrency.append haccepted.concurrency).append
      (overridden.settled_withInvocation_concurrency invocation)
  · rw [overridden.timeoutSeconds_withInvocation]
    exact hspelled.timeoutSeconds.append haccepted.timeoutSeconds
  · exact (hspelled.matchPolicy.append haccepted.matchPolicy).append
      (overridden.settled_withInvocation_matchPolicy invocation)
  · rw [overridden.timeoutSeconds_withInvocation]
    exact haccepted.one_le_timeoutSeconds

/-- **Settings are overridden as the variables tell, and layered as they are loaded.** -/
theorem settled_by_layers :
    (∀ (configuration : Configuration) (lookup : String → Option String),
      configuration.Overriding lookup) ∧
    ∀ (world : World) (invocation : Invocation) (setup : Setup),
      ((Setup.load World.host invocation).run.run world).1 = .ok setup →
        Layered world invocation setup.configuration.engine :=
  ⟨Configuration.overriding, fun _ _ _ => layered_of_load⟩

/-- A world whose file, environment file and environment each settle something, in a folder below
the environment file. -/
def World.layered : World where
  tree :=
    { files := [
        (["work", "audit.yaml"],
          "engine:\n  concurrency: 8\n  queryTimeoutSecs: 5\n  matchPolicy: any\n"),
        ([".env"], "COMPLIANCE_QUERY_TIMEOUT_SECS=60\nCOMPLIANCE_CONCURRENCY=2\n")]
      here := ["work"] }
  environment := [("COMPLIANCE_CONCURRENCY", " +0 ")]
  program := fun _ _ => .notStarted "not installed"

/-- The policy of the command line, the count of the environment, the limit of its file. -/
theorem layered_world :
    let invocation : Invocation :=
      { configuration := some "audit.yaml", strict := true, command := .list none }
    ∃ setup, ((Setup.load World.host invocation).run.run World.layered).1 = .ok setup ∧
      Layered World.layered invocation setup.configuration.engine ∧
      setup.configuration.engine =
        { concurrency := 1, timeoutSeconds := 60, matchPolicy := .all } := by
  intro invocation
  have hload : (((Setup.load World.host invocation).run.run World.layered).1.toOption.map
      fun setup => setup.configuration.engine) =
        some { concurrency := 1, timeoutSeconds := 60, matchPolicy := .all } := by
    decide +kernel
  obtain ⟨setup, hsetup, hengine⟩ := Option.map_eq_some_iff.mp hload
  have h := toOption_eq_some_iff.mp hsetup
  exact ⟨setup, h, settled_by_layers.2 _ _ _ h, hengine⟩

end CloudAudit
