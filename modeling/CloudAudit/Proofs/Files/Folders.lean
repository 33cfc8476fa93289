import CloudAudit.Proofs.Distinct
import CloudAudit.Proofs.Files.Names

/-!
# Files in folders

The path of a name in a folder leads from the folder to the name, unless it is too long
(`follow_join`). So a file in a folder is found at that path exactly if the path is short enough
(`isFile_join_iff`), and then nothing else than its own text is read there (`read_join_eq_ok_iff`).
-/

namespace CloudAudit.FileTree

open Files

variable {tree : FileTree} {folder name : String} {at_ start : Position}

/-! ## Starting -/

theorem start_eq {path : String} (hzero : '\x00' ∉ path.toList) (hne : path ≠ "") :
    tree.start path =
      if pathLimit ≤ path.utf8ByteSize then .error .longName
      else .ok (if isAbsolute path then [] else tree.here) := by
  unfold FileTree.start
  rw [if_neg (mt List.contains_iff_mem.mp hzero), if_neg (mt String.isEmpty_iff.mp hne)]

/-- A longer path starts where the path does. -/
theorem start_append {rest : String} (h : tree.start folder = .ok start)
    (hrest : '\x00' ∉ rest.toList) :
    tree.start (folder ++ rest) =
      if pathLimit ≤ (folder ++ rest).utf8ByteSize then .error .longName else .ok start := by
  obtain ⟨hzero, hne, rfl⟩ := eq_of_start h
  have habsolute : isAbsolute (folder ++ rest) = isAbsolute folder := by
    unfold isAbsolute
    rw [String.toList_append, List.head?_append_of_ne_nil _ (mt String.toList_eq_nil_iff.mp hne)]
  rw [start_eq ?_ (by simp [hne]), habsolute]
  rw [String.toList_append, List.mem_append]
  exact not_or.mpr ⟨hzero, hrest⟩

theorem start_join (h : tree.start folder = .ok start) (hname : IsName name) :
    tree.start (join folder name) =
      if pathLimit ≤ (join folder name).utf8ByteSize then .error .longName else .ok start := by
  rw [join_eq folder hname.no_slash, String.append_assoc]
  refine start_append h ?_
  rw [String.toList_append, List.mem_append]
  rintro (hmem | hmem)
  · unfold gap at hmem
    split at hmem <;> exact absurd hmem (by decide)
  · exact hname.no_zero hmem

theorem eq_of_move_stay {next : Position} (h : tree.move at_ .stay = .ok next) : next = at_ := by
  obtain ⟨-, -, h⟩ := bind_eq_ok_iff.mp h
  exact (Except.ok.inj h).symm

theorem enter_of_isFolderAt (hfolder : tree.isFolderAt at_ = true) : tree.enter at_ = .ok () :=
  if_pos hfolder

theorem move_into (hfolder : tree.isFolderAt at_ = true) (hname : IsName name) :
    tree.move at_ (.into name) = .ok (at_ ++ [name]) := by
  unfold move
  rw [enter_of_isFolderAt hfolder]
  exact if_neg (Nat.not_lt.mpr hname.short)

/-! ## Reading -/

theorem read_eq_ok_iff {path text : String} :
    tree.read path = .ok text ↔ ∃ at_, tree.follow path = .ok at_ ∧ tree.text? at_ = some text := by
  unfold read
  rw [bind_eq_ok_iff]
  refine exists_congr fun at_ => and_congr_right fun _ => ?_
  cases tree.text? at_ with
  | some other =>
    exact ⟨fun h => congrArg some (Except.ok.inj h),
      fun h => congrArg Except.ok (Option.some.inj h)⟩
  | none =>
    refine ⟨fun h => ?_, nofun⟩
    dsimp only at h
    split at h <;> exact nomatch h

theorem isFile_iff {path : String} :
    tree.isFile path = true ↔ ∃ text, tree.read path = .ok text := by
  unfold isFile
  cases tree.read path with
  | ok text => exact ⟨fun _ => ⟨text, rfl⟩, fun _ => rfl⟩
  | error e => exact ⟨nofun, fun ⟨_, h⟩ => nomatch h⟩

/-! ## The files in a folder -/

/-- A path that leads to a folder. -/
structure Opens (tree : FileTree) (folder : String) (at_ : Position) : Prop where
  follow_eq : tree.follow folder = .ok at_
  isFolder : tree.isFolderAt at_ = true

section Opens

variable (opens : tree.Opens folder at_)

include opens

/-- A path with a name behind it leads to the name, from where the path leads. -/
theorem follow_join (hname : IsName name) :
    tree.follow (join folder name) =
      if pathLimit ≤ (join folder name).utf8ByteSize then .error .longName
      else .ok (at_ ++ [name]) := by
  obtain ⟨start, hstart, hmoves⟩ := bind_eq_ok_iff.mp opens.follow_eq
  obtain ⟨before, hjoin, hbefore⟩ := exists_moves_join (eq_of_start hstart).2.1 hname
  have hlead : before.foldlM tree.move start = .ok at_ := by
    rcases hbefore with hbefore | hbefore
    · rwa [hbefore] at hmoves
    · rw [hbefore, List.foldlM_append] at hmoves
      obtain ⟨last, hlast, hstay⟩ := bind_eq_ok_iff.mp hmoves
      rw [List.foldlM_cons] at hstay
      obtain ⟨next, hnext, hend⟩ := bind_eq_ok_iff.mp hstay
      rw [hlast, ← Except.ok.inj hend, eq_of_move_stay hnext]
  unfold follow
  rw [start_join hstart hname, hjoin]
  split
  · rfl
  show (before ++ [Move.into name]).foldlM tree.move start = _
  rw [List.foldlM_append, hlead]
  show [Move.into name].foldlM tree.move at_ = _
  rw [List.foldlM_cons, move_into opens.isFolder hname]
  rfl

/-- At the path of a name, the text of the name is read, unless the path is too long. -/
theorem read_join_eq_ok_iff {text : String} (hname : IsName name) :
    tree.read (join folder name) = .ok text ↔
      tree.text? (at_ ++ [name]) = some text ∧ (join folder name).utf8ByteSize < pathLimit := by
  rw [read_eq_ok_iff, follow_join opens hname]
  by_cases hlong : pathLimit ≤ (join folder name).utf8ByteSize
  · rw [if_pos hlong]
    exact ⟨fun ⟨_, h, _⟩ => (nomatch h), fun h => absurd hlong (Nat.not_le.mpr h.2)⟩
  rw [if_neg hlong]
  constructor
  · rintro ⟨place, hplace, htext⟩
    exact ⟨Except.ok.inj hplace ▸ htext, Nat.not_le.mp hlong⟩
  · exact fun h => ⟨_, rfl, h.1⟩

theorem isFile_join_iff (hname : IsName name) :
    tree.isFile (join folder name) = true ↔
      (tree.text? (at_ ++ [name])).isSome ∧ (join folder name).utf8ByteSize < pathLimit := by
  rw [isFile_iff, Option.isSome_iff_exists, ← exists_and_right]
  exact exists_congr fun text => read_join_eq_ok_iff opens hname

theorem read_join_of_long (hname : IsName name)
    (hlong : pathLimit ≤ (join folder name).utf8ByteSize) :
    tree.read (join folder name) = .error .longName := by
  unfold read
  rw [follow_join opens hname, if_pos hlong]
  rfl

/-- A folder has the names that come next on the way to anything in it, each once. -/
theorem exists_names : ∃ names, tree.names folder = .ok names ∧ names.Nodup ∧
    ∀ name, name ∈ names ↔ ∃ rest, at_ ++ name :: rest ∈ tree.occupied := by
  unfold names
  rw [opens.follow_eq]
  show ∃ names, (tree.enter at_ >>= fun _ => _) = Except.ok names ∧ _
  rw [enter_of_isFolderAt opens.isFolder]
  refine ⟨_, rfl, nodup_eraseDups _, fun name => ?_⟩
  rw [List.mem_eraseDups, List.mem_filterMap]
  constructor
  · rintro ⟨position, hposition, hname⟩
    split at hname
    · next hprefix =>
      obtain ⟨rest, rfl⟩ := List.isPrefixOf_iff_prefix.mp hprefix
      rw [List.getElem?_append_right (Nat.le_refl _), Nat.sub_self] at hname
      cases rest with
      | nil => exact nomatch hname
      | cons next rest =>
        obtain rfl := Option.some.inj hname
        exact ⟨rest, hposition⟩
    · exact nomatch hname
  · rintro ⟨rest, hposition⟩
    refine ⟨_, hposition, ?_⟩
    rw [if_pos (List.isPrefixOf_iff_prefix.mpr (List.prefix_append _ _)),
      List.getElem?_append_right (Nat.le_refl _), Nat.sub_self]
    rfl

end Opens

/-- Slashes at its end make a path longer, but do not lead it elsewhere. -/
theorem Opens.slash (opens : tree.Opens folder at_)
    (h : (folder ++ "/").utf8ByteSize < pathLimit) : tree.Opens (folder ++ "/") at_ := by
  obtain ⟨start, hstart, hmoves⟩ := bind_eq_ok_iff.mp opens.follow_eq
  have hstay : moves (folder ++ "/") = moves folder ++ [.stay] := by
    rw [← String.append_empty (s := folder ++ "/")]
    exact moves_append_slash _ List.not_mem_nil
  refine ⟨?_, opens.isFolder⟩
  unfold follow
  rw [start_append hstart (by decide), if_neg (Nat.not_le.mpr h), hstay]
  show (moves folder ++ [Move.stay]).foldlM tree.move start = _
  rw [List.foldlM_append, hmoves]
  show [Move.stay].foldlM tree.move at_ = _
  rw [List.foldlM_cons, move, enter_of_isFolderAt opens.isFolder]
  rfl

theorem Opens.slashes (opens : tree.Opens folder at_) {count : Nat}
    (h : (folder ++ String.ofList (List.replicate count '/')).utf8ByteSize < pathLimit) :
    tree.Opens (folder ++ String.ofList (List.replicate count '/')) at_ := by
  induction count with
  | zero => rwa [List.replicate_zero, String.ofList_nil, String.append_empty]
  | succ count ih =>
    rw [List.replicate_succ', String.ofList_append, ← String.append_assoc] at h ⊢
    refine (ih ?_).slash h
    rw [String.utf8ByteSize_append] at h
    omega

theorem mem_occupied_of_text? (h : (tree.text? at_).isSome) : at_ ∈ tree.occupied := by
  obtain ⟨entry, hentry, hat⟩ := List.lookup_isSome_iff.mp h
  obtain rfl := eq_of_beq hat
  exact List.mem_append_right _ (List.mem_map_of_mem hentry)

end CloudAudit.FileTree
