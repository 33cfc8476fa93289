import CloudAudit.Checklist.Listing
import CloudAudit.Host.World
import CloudAudit.Proofs.Files.Folders
import CloudAudit.Proofs.Program.Reading
import CloudAudit.Proofs.Program.Running
import Mathlib.Data.String.Basic

/-!
# Listings of folders

Every checklist in a folder is listed once, in the order of the paths, with what loading it comes
to, and what comes of one file does not depend on any other (`lists_checklists`). What counts as a
file there is what the host can look at by its path: of the files in a tree these are the ones with
paths that are not too long (`IsFound`).
-/

namespace CloudAudit

open Files

/-- Looking at folders and files leaves the state as it is. -/
structure Host.Looking {σ : Type} (host : Host (StateM σ)) : Prop where
  names : ∀ path, Keeps (id : σ → σ) (host.names path)
  isFile : ∀ path, Keeps (id : σ → σ) (host.isFile path)
  read : ∀ path, Keeps (id : σ → σ) (host.read path)

/-- A folder that a host can read, and the names in it. -/
structure Host.Opens {σ : Type} (host : Host (StateM σ)) (start : σ) (folder : String)
    (names : List String) : Prop where
  names_eq : ((host.names folder).run start).1 = .ok names
  nodup : names.Nodup
  no_slash : ∀ name ∈ names, '/' ∉ name.toList

theorem World.looking : World.host.Looking := ⟨fun _ _ => rfl, fun _ _ => rfl, fun _ _ => rfl⟩

namespace ChecklistListing

/-! ## Names of checklists -/

/-- A name with one of the two endings of checklists, and something in front of it. -/
def HasChecklistName (name : String) : Prop :=
  ∃ stem, stem ≠ "" ∧ (name = stem ++ ".yaml" ∨ name = stem ++ ".yml")

theorem isChecklistName_iff {name : String} :
    isChecklistName name = true ↔ HasChecklistName name := by
  have hyaml : ending? name = some "yaml" ↔ ∃ stem, stem ≠ "" ∧ name = stem ++ ".yaml" :=
    ending?_eq_some_iff (by decide)
  have hyml : ending? name = some "yml" ↔ ∃ stem, stem ≠ "" ∧ name = stem ++ ".yml" :=
    ending?_eq_some_iff (by decide)
  unfold isChecklistName HasChecklistName
  rw [Bool.or_eq_true, beq_iff_eq, beq_iff_eq, hyaml, hyml, ← exists_or]
  simp only [← and_or_left]

/-! ## The order of the names -/

theorem join_lt_join {folder a b : String} (ha : '/' ∉ a.toList) (hb : '/' ∉ b.toList)
    (h : a < b) : join folder a < join folder b := by
  rw [join_eq folder ha, join_eq folder hb, String.lt_iff_toList_lt,
    String.toList_append (t := a), String.toList_append (t := b)]
  exact List.append_left_lt (String.lt_iff_toList_lt.mp h)

/-- The names of the files to be listed, in order. -/
def listed (names : List String) (isFile : String → Bool) : List String :=
  ((names.filter isChecklistName).mergeSort fun a b => !decide (b < a)).filter isFile

variable {names : List String} {isFile : String → Bool}

theorem mem_listed_iff {name : String} :
    name ∈ listed names isFile ↔
      name ∈ names ∧ HasChecklistName name ∧ isFile name = true := by
  unfold listed
  rw [List.mem_filter, List.mem_mergeSort, List.mem_filter, isChecklistName_iff, and_assoc]

theorem pairwise_listed (h : names.Nodup) :
    (listed names isFile).Pairwise fun a b => a < b := by
  have hle : ((names.filter isChecklistName).mergeSort fun a b => !decide (b < a)).Pairwise
      fun a b => (!decide (b < a)) = true := by
    refine List.pairwise_mergeSort (fun a b c hab hbc => ?_) (fun a b => ?_) _
    · simp only [Bool.not_eq_true', decide_eq_false_iff_not, not_lt] at hab hbc ⊢
      exact hab.trans hbc
    · simp only [Bool.or_eq_true, Bool.not_eq_true', decide_eq_false_iff_not, not_lt]
      exact le_total a b
  have hne : ((names.filter isChecklistName).mergeSort fun a b => !decide (b < a)).Nodup :=
    (List.mergeSort_perm _ _).nodup_iff.mpr (h.filter _)
  refine ((hle.and hne).imp fun {a b} hab => ?_).filter _
  simp only [Bool.not_eq_true', decide_eq_false_iff_not, not_lt] at hab
  exact lt_of_le_of_ne hab.1 hab.2

/-! ## Entries -/

/-- The entry of a file, by what was read of it. -/
def ofRead (folder name : String) (read : Except FileError String) : ChecklistListing :=
  { fileName := name, path := join folder name
    controls := (Checklist.ofFile (join folder name) read).map (·.controls.length) }

/-- The record of an entry has either the count of controls that were loaded or the message of the
fault that came up instead. -/
structure Shows (listing : ChecklistListing) (loaded : Except ChecklistError Checklist) : Prop where
  count_iff : ∀ count : Nat, listing.toJson.field? "controlCount" = some (.int count) ↔
    ∃ checklist, loaded = .ok checklist ∧ checklist.controls.length = count
  error_iff : ∀ text, listing.toJson.field? "error" = some (.string text) ↔
    ∃ e, loaded = .error e ∧ e.message = text
  either : (listing.toJson.field? "controlCount").isSome ↔
    ¬(listing.toJson.field? "error").isSome

theorem fields_of_count {listing : ChecklistListing} {count : Nat}
    (h : listing.controls = .ok count) :
    listing.toJson.field? "controlCount" = some (.int count) ∧
      listing.toJson.field? "error" = none := by
  unfold toJson
  rw [h]
  exact ⟨rfl, rfl⟩

theorem fields_of_fault {listing : ChecklistListing} {e : ChecklistError}
    (h : listing.controls = .error e) :
    listing.toJson.field? "controlCount" = none ∧
      listing.toJson.field? "error" = some (.string e.message) := by
  unfold toJson
  rw [h]
  exact ⟨rfl, rfl⟩

theorem shows_of_controls {listing : ChecklistListing} {loaded : Except ChecklistError Checklist}
    (h : listing.controls = loaded.map (·.controls.length)) : listing.Shows loaded := by
  cases loaded with
  | ok checklist =>
    obtain ⟨hcount, herror⟩ := fields_of_count h
    constructor
    case count_iff =>
      intro count
      rw [hcount, Option.some_inj, Json.int.injEq, Int.natCast_inj]
      simp
    case error_iff =>
      intro text
      rw [herror]
      exact ⟨nofun, fun ⟨e, he, _⟩ => nomatch he⟩
    case either =>
      rw [hcount, herror]
      exact ⟨fun _ => nofun, fun _ => rfl⟩
  | error e =>
    obtain ⟨hcount, herror⟩ := fields_of_fault h
    constructor
    case count_iff =>
      intro count
      rw [hcount]
      exact ⟨nofun, fun ⟨checklist, hloaded, _⟩ => nomatch hloaded⟩
    case error_iff =>
      intro text
      rw [herror, Option.some_inj, Json.string.injEq]
      simp
    case either =>
      rw [hcount, herror]
      exact ⟨nofun, fun hnone => absurd rfl hnone⟩

/-- Two listings have the same entry for a name, or none. -/
def SameEntry (name : String) (listings others : List ChecklistListing) : Prop :=
  ∀ listing : ChecklistListing, listing.fileName = name → (listing ∈ listings ↔ listing ∈ others)

/-- One entry for each of the files, with what loading the file comes to. -/
structure Lists (folder : String) (isListed : String → Prop)
    (load : String → Except ChecklistError Checklist) (listings : List ChecklistListing) :
    Prop where
  mem_iff : ∀ name, (∃ listing ∈ listings, listing.fileName = name) ↔ isListed name
  path_eq : ∀ listing ∈ listings, listing.path = join folder listing.fileName
  increasing : listings.Pairwise fun a b => a.path < b.path
  shows : ∀ listing ∈ listings, listing.Shows (load listing.path)

section Folder

variable {σ : Type} {host : Host (StateM σ)} {start : σ} {folder : String}

theorem run_eq_of_keeps {α : Type} {program : StateM σ α} (h : Keeps (id : σ → σ) program) :
    program.run start = ((program.run start).1, start) := Prod.ext rfl (h start)

theorem run_ofFile (looking : host.Looking) (name : String) :
    (ofFile host folder name).run start =
      (ofRead folder name ((host.read (join folder name)).run start).1, start) := by
  unfold ofFile Checklist.load
  rw [bind_assoc, run_bind_of_run (run_eq_of_keeps (looking.read _))]
  rfl

theorem run_ofFolder (looking : host.Looking) {names : List String}
    (hnames : ((host.names folder).run start).1 = .ok names) :
    (ofFolder host folder).run start =
      (.ok ((listed names fun name => ((host.isFile (join folder name)).run start).1).map
        fun name => ofRead folder name ((host.read (join folder name)).run start).1), start) := by
  unfold ofFolder
  rw [run_bind_of_run (run_eq_of_keeps (looking.names folder)), hnames]
  show ((_ : StateM σ _) >>= _).run start = _
  rw [run_bind_of_run (run_filterM_of_run (fun name => run_eq_of_keeps (looking.isFile _)) _),
    run_bind_of_run (run_mapM_of_run (run_ofFile looking) _)]
  rfl

variable (host start folder) in
/-- A checklist in a folder is listed if the host takes it for a file. -/
def IsListed (names : List String) (name : String) : Prop :=
  name ∈ names ∧ HasChecklistName name ∧ ((host.isFile (join folder name)).run start).1 = true

variable {names : List String} (looking : host.Looking) (opens : host.Opens start folder names)

include looking opens

theorem mem_iff_of_run {listings : List ChecklistListing}
    (h : ((ofFolder host folder).run start).1 = .ok listings) (listing : ChecklistListing) :
    listing ∈ listings ↔
      IsListed host start folder names listing.fileName ∧
        ofRead folder listing.fileName
          ((host.read (join folder listing.fileName)).run start).1 = listing := by
  rw [run_ofFolder looking opens.names_eq] at h
  rw [← Except.ok.inj h, List.mem_map]
  constructor
  · rintro ⟨name, hname, rfl⟩
    exact ⟨mem_listed_iff.mp hname, rfl⟩
  · rintro ⟨hlisted, heq⟩
    exact ⟨_, mem_listed_iff.mpr hlisted, heq⟩

theorem lists_of_opens :
    ∃ listings, (ofFolder host folder).run start = (.ok listings, start) ∧
      Lists folder (IsListed host start folder names)
        (fun path => ((Checklist.load host path).run start).1) listings := by
  refine ⟨_, run_ofFolder looking opens.names_eq, ?_⟩
  constructor
  case mem_iff =>
    intro name
    constructor
    · rintro ⟨listing, hlisting, rfl⟩
      obtain ⟨name, hname, rfl⟩ := List.mem_map.mp hlisting
      exact mem_listed_iff.mp hname
    · exact fun h => ⟨_, List.mem_map_of_mem (mem_listed_iff.mpr h), rfl⟩
  case path_eq =>
    intro listing hlisting
    obtain ⟨name, -, rfl⟩ := List.mem_map.mp hlisting
    rfl
  case increasing =>
    rw [List.pairwise_map]
    refine (pairwise_listed opens.nodup).imp_of_mem fun {a b} ha hb hlt => ?_
    exact join_lt_join (opens.no_slash a (mem_listed_iff.mp ha).1)
      (opens.no_slash b (mem_listed_iff.mp hb).1) hlt
  case shows =>
    intro listing hlisting
    obtain ⟨name, -, rfl⟩ := List.mem_map.mp hlisting
    exact shows_of_controls rfl

/-- An entry depends on its own file only. -/
theorem sameEntry_of_run {other : σ} {names' : List String}
    (opens' : host.Opens other folder names') {listings others : List ChecklistListing}
    (h : ((ofFolder host folder).run start).1 = .ok listings)
    (h' : ((ofFolder host folder).run other).1 = .ok others) {name : String}
    (hlisted : IsListed host start folder names name ↔ IsListed host other folder names' name)
    (hread : IsListed host start folder names name →
      ((host.read (join folder name)).run start).1 =
        ((host.read (join folder name)).run other).1) : SameEntry name listings others := by
  rintro listing rfl
  rw [mem_iff_of_run looking opens h, mem_iff_of_run looking opens' h', ← hlisted]
  exact and_congr_right fun hname => by rw [hread hname]

end Folder

/-! ## Trees of files -/

section World

variable {world : World} {folder : String} {at_ : Position}

variable (world folder at_) in
/-- A checklist in a folder is listed if it is a file and its path is short enough. -/
def IsFound (name : String) : Prop :=
  (world.tree.text? (at_ ++ [name])).isSome ∧ HasChecklistName name ∧
    (join folder name).utf8ByteSize < FileTree.pathLimit

theorem run_load (path : String) : ((Checklist.load World.host path).run world).1 =
    Checklist.ofFile path (world.tree.read path) := rfl

variable (proper : world.tree.Proper) (opens : world.tree.Opens folder at_)

include proper opens

theorem exists_opens : ∃ names, World.host.Opens world folder names ∧
    (∀ name ∈ names, IsName name) ∧
      ∀ name, IsListed World.host world folder names name ↔ IsFound world folder at_ name := by
  obtain ⟨names, hnames, hnodup, hmem⟩ := FileTree.exists_names opens
  have hname {name : String} (h : name ∈ names) : IsName name := by
    obtain ⟨rest, hposition⟩ := (hmem name).mp h
    exact proper _ hposition name (by simp)
  refine ⟨names, ⟨hnames, hnodup, fun name h => (hname h).no_slash⟩, fun _ => hname, fun name => ?_⟩
  constructor
  · rintro ⟨hmember, hending, hfile⟩
    obtain ⟨htext, hshort⟩ := (FileTree.isFile_join_iff opens (hname hmember)).mp hfile
    exact ⟨htext, hending, hshort⟩
  · rintro ⟨htext, hending, hshort⟩
    have hmember : name ∈ names := (hmem name).mpr ⟨[], FileTree.mem_occupied_of_text? htext⟩
    exact ⟨hmember, hending, (FileTree.isFile_join_iff opens (hname hmember)).mpr ⟨htext, hshort⟩⟩

theorem lists_of_tree :
    ∃ listings, (ofFolder World.host folder).run world = (.ok listings, world) ∧
      Lists folder (IsFound world folder at_)
        (fun path => ((Checklist.load World.host path).run world).1) listings := by
  obtain ⟨names, hopens, -, hfound⟩ := exists_opens proper opens
  obtain ⟨listings, hrun, hlists⟩ := lists_of_opens World.looking hopens
  exact ⟨listings, hrun, { hlists with
    mem_iff := fun name => (hlists.mem_iff name).trans (hfound name) }⟩

theorem sameEntry_of_text? {other : World} (proper' : other.tree.Proper)
    (opens' : other.tree.Opens folder at_) {listings others : List ChecklistListing}
    (h : ((ofFolder World.host folder).run world).1 = .ok listings)
    (h' : ((ofFolder World.host folder).run other).1 = .ok others) {name : String}
    (htext : world.tree.text? (at_ ++ [name]) = other.tree.text? (at_ ++ [name])) :
    SameEntry name listings others := by
  obtain ⟨names, hopens, hnames, hfound⟩ := exists_opens proper opens
  obtain ⟨names', hopens', -, hfound'⟩ := exists_opens proper' opens'
  have hsame : IsFound world folder at_ name ↔ IsFound other folder at_ name := by
    rw [IsFound, htext, IsFound]
  refine sameEntry_of_run World.looking hopens hopens' h h'
    ((hfound name).trans (hsame.trans (hfound' name).symm)) fun hlisted => ?_
  have hname := hnames name hlisted.1
  obtain ⟨hsome, -, hshort⟩ := (hfound name).mp hlisted
  obtain ⟨text, hown⟩ := Option.isSome_iff_exists.mp hsome
  have hread : world.tree.read (join folder name) = .ok text :=
    (FileTree.read_join_eq_ok_iff opens hname).mpr ⟨hown, hshort⟩
  have hread' : other.tree.read (join folder name) = .ok text :=
    (FileTree.read_join_eq_ok_iff opens' hname).mpr ⟨htext.symm.trans hown, hshort⟩
  exact hread.trans hread'.symm

end World

/-- **A listing has one entry for each checklist file that the host can look at.** In a tree of
files these are the ones with paths that are short enough, and what is written and made in a tree
leaves it to be told by names. -/
theorem lists_checklists (folder : String) :
    (∀ {σ : Type} {host : Host (StateM σ)} {start : σ} {names : List String},
      host.Looking → host.Opens start folder names →
        ∃ listings, (ofFolder host folder).run start = (.ok listings, start) ∧
          Lists folder (IsListed host start folder names)
            (fun path => ((Checklist.load host path).run start).1) listings ∧
          ∀ {other : σ} {names' : List String} {others : List ChecklistListing} (name : String),
            host.Opens other folder names' → ((ofFolder host folder).run other).1 = .ok others →
            (IsListed host start folder names name ↔ IsListed host other folder names' name) →
            ((host.read (join folder name)).run start).1 =
              ((host.read (join folder name)).run other).1 →
                SameEntry name listings others) ∧
    (∀ {world : World} {at_ : Position}, world.tree.Proper → world.tree.Opens folder at_ →
        ∃ listings, (ofFolder World.host folder).run world = (.ok listings, world) ∧
          Lists folder (IsFound world folder at_)
            (fun path => ((Checklist.load World.host path).run world).1) listings ∧
          ∀ {other : World} {others : List ChecklistListing} (name : String),
            other.tree.Proper → other.tree.Opens folder at_ →
            ((ofFolder World.host folder).run other).1 = .ok others →
            world.tree.text? (at_ ++ [name]) = other.tree.text? (at_ ++ [name]) →
              SameEntry name listings others) ∧
    ∀ tree : FileTree, tree.Made → tree.Proper := by
  refine ⟨?_, ?_, fun _ made => made.proper⟩
  · intro σ host start names looking opens
    obtain ⟨listings, hrun, hlists⟩ := lists_of_opens looking opens
    refine ⟨listings, hrun, hlists, fun name opens' h' hlisted hread => ?_⟩
    exact sameEntry_of_run looking opens opens' (congrArg Prod.fst hrun) h' hlisted fun _ => hread
  · intro world at_ proper opens
    obtain ⟨listings, hrun, hlists⟩ := lists_of_tree proper opens
    refine ⟨listings, hrun, hlists, fun name proper' opens' h' htext => ?_⟩
    exact sameEntry_of_text? proper opens proper' opens' (congrArg Prod.fst hrun) h' htext

end ChecklistListing

/-! A folder with checklists, another file and a folder in it. -/

namespace MixedFolder

open ChecklistListing

def world : World where
  tree :=
    { files := [
        (["lists", "b.yaml"], "checklist: []"),
        (["lists", "a.yml"], "checklist:\n  - exigence: x\n"),
        (["lists", "notes.txt"], "ignored")]
      folders := [["lists", "old.yaml"]] }
  program := fun _ _ => .notStarted "not installed"

/-- The world with other content in one of the checklists. -/
def changed : World :=
  { world with
    tree := { world.tree with
      files := FileTree.put world.tree.files ["lists", "a.yml"] "checklist: []" } }

theorem proper : world.tree.Proper ∧ changed.tree.Proper := by decide +kernel

theorem opens : world.tree.Opens "lists" ["lists"] ∧ changed.tree.Opens "lists" ["lists"] :=
  ⟨⟨by rfl, by rfl⟩, ⟨by rfl, by rfl⟩⟩

theorem opens_names :
    World.host.Opens world "lists" ["old.yaml", "b.yaml", "a.yml", "notes.txt"] where
  names_eq := by rfl
  nodup := by decide
  no_slash := by decide

/-- Both checklists are listed, the folder is not, and one checklist has the same entry whatever is
in the other. -/
theorem listed_apart :
    (world.tree.Proper ∧ world.tree.Opens "lists" ["lists"]) ∧
    ∃ listings, (ofFolder World.host "lists").run world = (.ok listings, world) ∧
      (∃ listing ∈ listings, listing.fileName = "a.yml") ∧
      (∃ listing ∈ listings, listing.fileName = "b.yaml") ∧
      (¬∃ listing ∈ listings, listing.fileName = "old.yaml") ∧
      ∃ others, (ofFolder World.host "lists").run changed = (.ok others, changed) ∧
        SameEntry "b.yaml" listings others := by
  refine ⟨⟨proper.1, opens.1⟩, ?_⟩
  obtain ⟨listings, hrun, hlists, hsame⟩ := (lists_checklists "lists").2.1 proper.1 opens.1
  obtain ⟨others, hrun', -, -⟩ := (lists_checklists "lists").2.1 proper.2 opens.2
  obtain ⟨listings', hrun'', hlists', -⟩ := (lists_checklists "lists").1 World.looking opens_names
  obtain rfl : listings = listings' :=
    Except.ok.inj (congrArg Prod.fst (hrun.symm.trans hrun''))
  refine ⟨listings, hrun, ?_, ?_, ?_, others, hrun', ?_⟩
  · exact (hlists.mem_iff "a.yml").mpr ⟨by rfl, isChecklistName_iff.mp (by rfl), by decide⟩
  · exact (hlists'.mem_iff "b.yaml").mpr ⟨by decide, isChecklistName_iff.mp (by rfl), by rfl⟩
  · exact fun hlisted => absurd ((hlists.mem_iff "old.yaml").mp hlisted).1 (by decide)
  · exact hsame "b.yaml" proper.2 opens.2 (congrArg Prod.fst hrun') (by rfl)

end MixedFolder

/-! A checklist in a folder, by a path that is almost too long. -/

namespace LongPath

open ChecklistListing

def folder : String := "c" ++ String.ofList (List.replicate 3899 '/')

def name : String := String.ofList (List.replicate 245 'a') ++ ".yaml"

def world : World where
  tree := { files := [(["c", name], "checklist: []")] }
  program := fun _ _ => .notStarted "not installed"

theorem utf8ByteSize_replicate (c : Char) (count : Nat) :
    (String.ofList (List.replicate count c)).utf8ByteSize = count * c.utf8Size := by
  induction count with
  | zero => rw [Nat.zero_mul]; rfl
  | succ count ih =>
    rw [List.replicate_succ', String.ofList_append, String.utf8ByteSize_append, ih, Nat.succ_mul,
      ← String.singleton_eq_ofList, String.utf8ByteSize_singleton]

theorem utf8ByteSize_folder : folder.utf8ByteSize = 3900 := by
  rw [folder, String.utf8ByteSize_append, utf8ByteSize_replicate '/']
  rfl

theorem utf8ByteSize_name : name.utf8ByteSize = 250 := by
  have hletter : 'a'.utf8Size = 1 := rfl
  have hending : ".yaml".utf8ByteSize = 5 := rfl
  unfold name
  rw [String.utf8ByteSize_append, utf8ByteSize_replicate 'a', hletter, hending]

theorem not_mem_name {c : Char} (hletter : c ≠ 'a') (hending : c ∉ ".yaml".toList) :
    c ∉ name.toList := by
  unfold name
  rw [String.toList_append, String.toList_ofList, List.mem_append, List.mem_replicate]
  exact not_or.mpr ⟨fun h => hletter h.2, hending⟩

theorem opens : world.tree.Opens folder ["c"] := by
  have hshort : world.tree.Opens "c" ["c"] := ⟨by rfl, by rfl⟩
  refine hshort.slashes ?_
  exact utf8ByteSize_folder.trans_lt (by decide)

theorem isName : IsName name where
  plain h := by
    have hsize : ∀ other ∈ ["", ".", ".."], other.utf8ByteSize ≤ 2 := by decide
    exact absurd (utf8ByteSize_name ▸ hsize name h) (by decide)
  no_slash := not_mem_name (by decide) (by decide)
  no_zero := not_mem_name (by decide) (by decide)
  short := utf8ByteSize_name.trans_le (by decide)

theorem proper : world.tree.Proper := by
  intro position hposition
  rcases List.mem_cons.mp hposition with rfl | hposition
  · exact nofun
  obtain rfl := List.mem_singleton.mp hposition
  exact List.forall_mem_cons.mpr ⟨by decide +kernel, List.forall_mem_singleton.mpr isName⟩

theorem long : FileTree.pathLimit ≤ (join folder name).utf8ByteSize := by
  have hlimit : FileTree.pathLimit = 4096 := rfl
  rw [join_eq folder isName.no_slash, String.utf8ByteSize_append, String.utf8ByteSize_append,
    utf8ByteSize_folder, utf8ByteSize_name]
  omega

/-- The checklist is a file in the folder, and it is not listed; to load it is a fault. -/
theorem file_missing :
    world.tree.Opens folder ["c"] ∧ world.tree.text? ["c", name] = some "checklist: []" ∧
      HasChecklistName name ∧ ((ofFolder World.host folder).run world).1 = .ok [] ∧
      ((Checklist.load World.host (join folder name)).run world).1 =
        .error (.unreadable (join folder name) FileError.longName.message) := by
  have htext : world.tree.text? ["c", name] = some "checklist: []" := List.lookup_cons_self
  refine ⟨opens, htext, ⟨_, mt String.ofList_eq_empty_iff.mp (by decide), .inl rfl⟩, ?_, ?_⟩
  · obtain ⟨listings, hrun, hlists⟩ := lists_of_tree proper opens
    rw [hrun]
    refine congrArg Except.ok (List.eq_nil_iff_forall_not_mem.mpr fun listing hlisting => ?_)
    obtain ⟨htext, -, hshort⟩ := (hlists.mem_iff listing.fileName).mp ⟨listing, hlisting, rfl⟩
    have hname : listing.fileName = name := by
      obtain ⟨entry, hentry, hat⟩ := List.lookup_isSome_iff.mp htext
      obtain rfl := List.mem_singleton.mp hentry
      simpa using hat
    exact absurd (hname ▸ long) (Nat.not_le.mpr hshort)
  · rw [run_load, FileTree.read_join_of_long opens isName long, Checklist.ofFile]

end LongPath

end CloudAudit
