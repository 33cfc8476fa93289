import CloudAudit.Proofs.Files.Writing

/-!
# Names in paths and in trees

What a file or a folder can be called, the ending of such a name, and its path in a folder. A tree
in which everything has such a name stays like that, whatever is written to it and whatever folders
are made in it, so every tree that comes about in this way is like that (`FileTree.Made.proper`).
-/

namespace CloudAudit

namespace Files

/-! ## Names -/

/-- A text that is spelled like a name. -/
structure IsSpelled (name : String) : Prop where
  plain : name ∉ ["", ".", ".."]
  no_slash : '/' ∉ name.toList
  no_zero : '\x00' ∉ name.toList

/-- A name that a file or a folder can have. -/
structure IsName (name : String) : Prop extends IsSpelled name where
  short : name.utf8ByteSize ≤ FileTree.nameLimit

instance (name : String) : Decidable (IsName name) :=
  decidable_of_iff (name ∉ ["", ".", ".."] ∧ '/' ∉ name.toList ∧ '\x00' ∉ name.toList ∧
      name.utf8ByteSize ≤ FileTree.nameLimit)
    ⟨fun ⟨hplain, hslash, hzero, hshort⟩ => ⟨⟨hplain, hslash, hzero⟩, hshort⟩,
      fun h => ⟨h.plain, h.no_slash, h.no_zero, h.short⟩⟩

theorem IsName.ofName_eq {name : String} (h : IsName name) : Move.ofName name = .into name := by
  have hplain := h.plain
  simp only [List.mem_cons, List.not_mem_nil, or_false, not_or] at hplain
  obtain ⟨hempty, hdot, hdots⟩ := hplain
  rw [Move.ofName, if_neg (not_or.mpr ⟨hempty, hdot⟩), if_neg hdots]

theorem isAbsolute_eq_false {name : String} (h : '/' ∉ name.toList) : isAbsolute name = false := by
  rw [isAbsolute, beq_eq_false_iff_ne]
  exact fun hhead => h (List.mem_of_head? hhead)

theorem isSpelled_of_mem_moves {path name : String} (hzero : '\x00' ∉ path.toList)
    (h : Move.into name ∈ moves path) : IsSpelled name := by
  obtain ⟨piece, hpiece, hname⟩ := List.mem_map.mp h
  obtain ⟨cs, hcs, rfl⟩ := List.mem_map.mp hpiece
  unfold Move.ofName at hname
  split at hname
  · exact nomatch hname
  next hstay =>
  split at hname
  · exact nomatch hname
  next hup =>
  obtain rfl := Move.into.inj hname
  refine ⟨?_, ?_, ?_⟩
  · simp only [List.mem_cons, List.not_mem_nil, or_false, not_or] at hstay ⊢
    exact ⟨hstay.1, hstay.2, hup⟩
  · rw [String.toList_ofList]
    exact Text.not_mem_of_mem_segments hcs
  · rw [String.toList_ofList]
    exact fun hmem => hzero (Text.mem_of_mem_segments hcs hmem)

/-! ## Endings -/

/-- Every text ends in a part without dots, with nothing or a dot in front of it. -/
theorem exists_front (cs : List Char) : ∃ front,
    cs = front ++ (cs.reverse.takeWhile (· ≠ '.')).reverse ∧
      (front = [] ∨ ∃ stem, front = stem ++ ['.']) := by
  refine ⟨(cs.reverse.dropWhile (· ≠ '.')).reverse, ?_, ?_⟩
  · rw [← List.reverse_append, List.takeWhile_append_dropWhile, List.reverse_reverse]
  · have hhead := List.head?_dropWhile_not (· ≠ '.') cs.reverse
    cases hrest : cs.reverse.dropWhile (· ≠ '.') with
    | nil => exact .inl rfl
    | cons c rest =>
      rw [hrest] at hhead
      obtain rfl : c = '.' := by simpa using hhead
      exact .inr ⟨rest.reverse, List.reverse_cons⟩

theorem ending?_append {stem ending : List Char} (hstem : stem ≠ []) (hending : '.' ∉ ending) :
    ending? (String.ofList (stem ++ '.' :: ending)) = some (String.ofList ending) := by
  have hback : ((stem ++ '.' :: ending).reverse.takeWhile (· ≠ '.')).reverse = ending := by
    have hkept : ∀ c ∈ ending.reverse, decide (c ≠ '.') = true := fun c hc =>
      decide_eq_true fun h => hending (h ▸ List.mem_reverse.mp hc)
    rw [List.reverse_append, List.reverse_cons, List.append_assoc,
      List.takeWhile_append_of_pos hkept]
    simp
  have hfront : ((stem ++ '.' :: ending).take ((stem ++ '.' :: ending).length - ending.length)) =
      stem ++ ['.'] := by
    rw [List.append_cons]
    exact List.take_left' (by simp; omega)
  unfold ending? cutEnding
  rw [String.toList_ofList]
  dsimp only
  rw [hback, hfront, List.dropLast_concat]
  split
  · contradiction
  · rfl

theorem exists_of_ending? {name ending : String} (h : ending? name = some ending) :
    ∃ stem, stem ≠ "" ∧ name = stem ++ ("." ++ ending) := by
  obtain ⟨front, hcut, hfront⟩ := exists_front name.toList
  unfold ending? cutEnding at h
  dsimp only at h
  generalize (name.toList.reverse.takeWhile (· ≠ '.')).reverse = back at h hcut
  have htake : name.toList.take (name.toList.length - back.length) = front := by
    rw [hcut]
    exact List.take_left' (by simp)
  rw [htake] at h
  rcases hfront with rfl | ⟨stem, rfl⟩
  · exact nomatch h
  rw [List.dropLast_concat] at h
  split at h
  · exact nomatch h
  next hstem =>
  obtain rfl := Option.some.inj h
  refine ⟨String.ofList stem, fun h => hstem (String.ofList_eq_empty_iff.mp h), ?_⟩
  rw [← String.ofList_toList (s := name), hcut, String.ofList_append, String.ofList_append,
    String.append_assoc]

/-- A name has an ending if it has a dot, and something in front of its last dot. -/
theorem ending?_eq_some_iff {name ending : String} (hending : '.' ∉ ending.toList) :
    ending? name = some ending ↔ ∃ stem, stem ≠ "" ∧ name = stem ++ ("." ++ ending) := by
  constructor
  · exact exists_of_ending?
  · rintro ⟨stem, hstem, rfl⟩
    have hname : stem ++ ("." ++ ending) = String.ofList (stem.toList ++ '.' :: ending.toList) := by
      rw [← String.toList_inj, String.toList_ofList, String.toList_append, String.toList_append]
      rfl
    rw [hname, ending?_append (mt String.toList_eq_nil_iff.mp hstem) hending,
      String.ofList_toList]

/-! ## The path of a name in a folder -/

/-- What stands between a folder and a name. -/
def gap (folder : String) : String :=
  if folder = "" ∨ folder.toList.getLast? = some '/' then "" else "/"

theorem join_eq (folder : String) {name : String} (h : '/' ∉ name.toList) :
    join folder name = folder ++ gap folder ++ name := by
  unfold join gap
  rw [isAbsolute_eq_false h, Bool.false_or]
  by_cases hempty : folder = ""
  · subst hempty
    simp
  by_cases hslash : folder.toList.getLast? = some '/'
  · simp [hempty, hslash]
  · simp [hempty, hslash]

theorem moves_append_slash (path : String) {name : String} (h : '/' ∉ name.toList) :
    moves (path ++ "/" ++ name) = moves path ++ [Move.ofName name] := by
  have hpieces : Text.split '/' (path ++ "/" ++ name) = Text.split '/' path ++ [name] := by
    unfold Text.split
    rw [String.toList_append, String.toList_append, List.append_assoc,
      show "/".toList ++ name.toList = '/' :: name.toList from rfl, Text.segments_append,
      Text.segments_of_not_mem h, List.map_append, List.map_singleton, String.ofList_toList]
  rw [moves, hpieces, List.map_append]
  rfl

/-- A slash at the end of a folder is no move. -/
theorem exists_moves_join {folder name : String} (hfolder : folder ≠ "") (hname : IsName name) :
    ∃ before, moves (join folder name) = before ++ [.into name] ∧
      (moves folder = before ∨ moves folder = before ++ [.stay]) := by
  rw [join_eq folder hname.no_slash, gap, ← hname.ofName_eq]
  by_cases hslash : folder.toList.getLast? = some '/'
  · obtain ⟨front, hfront⟩ := List.getLast?_eq_some_iff.mp hslash
    obtain rfl : folder = String.ofList front ++ "/" := by
      rw [← String.ofList_toList (s := folder), hfront, String.ofList_append]
    rw [if_pos (.inr hslash), String.append_empty]
    refine ⟨_, moves_append_slash _ hname.no_slash, .inr ?_⟩
    rw [← String.append_empty (s := String.ofList front ++ "/")]
    exact moves_append_slash _ List.not_mem_nil
  · rw [if_neg (not_or.mpr ⟨hfolder, hslash⟩)]
    exact ⟨_, moves_append_slash _ hname.no_slash, .inl rfl⟩

end Files

namespace FileTree

open Files

variable {tree : FileTree} {at_ start : Position}

/-! ## Names in a tree -/

/-- A position that can be told by names. -/
def Named (at_ : Position) : Prop := ∀ name ∈ at_, IsName name

instance (at_ : Position) : Decidable (Named at_) :=
  inferInstanceAs (Decidable (∀ name ∈ at_, IsName name))

/-- All that is there can be told by names. -/
def Proper (tree : FileTree) : Prop := ∀ position ∈ tree.occupied, Named position

instance (tree : FileTree) : Decidable tree.Proper :=
  inferInstanceAs (Decidable (∀ position ∈ tree.occupied, Named position))

theorem named_of_move {next : Position} {m : Move} (h : tree.move at_ m = .ok next)
    (hm : ∀ name, m = .into name → IsSpelled name) (hat : Named at_) : Named next := by
  obtain ⟨-, -, h⟩ := bind_eq_ok_iff.mp h
  cases m with
  | stay => exact Except.ok.inj h ▸ hat
  | up =>
    rw [← Except.ok.inj h]
    exact fun name hname => hat name ((List.dropLast_sublist at_).subset hname)
  | into name =>
    dsimp only at h
    split at h
    · exact nomatch h
    next hshort =>
    rw [← Except.ok.inj h]
    intro other hother
    rcases List.mem_append.mp hother with hother | hother
    · exact hat other hother
    · obtain rfl := List.mem_singleton.mp hother
      exact ⟨hm other rfl, Nat.le_of_not_lt hshort⟩

theorem named_of_moves {moves : List Move} (hm : ∀ name, .into name ∈ moves → IsSpelled name)
    {last : Position} (h : moves.foldlM tree.move at_ = .ok last)
    (hat : Named at_) : Named last := by
  induction moves generalizing at_ with
  | nil => exact Except.ok.inj h ▸ hat
  | cons m rest ih =>
    rw [List.foldlM_cons] at h
    obtain ⟨next, hnext, h⟩ := bind_eq_ok_iff.mp h
    exact ih (fun name hname => hm name (List.mem_cons_of_mem m hname)) h
      (named_of_move hnext (fun name hname => hm name (hname ▸ List.mem_cons_self)) hat)

theorem eq_of_start {path : String} (h : tree.start path = .ok start) :
    '\x00' ∉ path.toList ∧ path ≠ "" ∧ (if isAbsolute path then [] else tree.here) = start := by
  unfold FileTree.start at h
  split at h
  · exact nomatch h
  next hzero =>
  split at h
  · exact nomatch h
  next hempty =>
  split at h
  · exact nomatch h
  exact ⟨mt List.contains_iff_mem.mpr hzero, mt String.isEmpty_iff.mpr hempty, Except.ok.inj h⟩

theorem named_of_start {path : String} (hhere : Named tree.here)
    (h : tree.start path = .ok start) : Named start := by
  obtain ⟨-, -, rfl⟩ := eq_of_start h
  split
  · exact nofun
  · exact hhere

theorem named_of_follow {path : String} (hhere : Named tree.here)
    (h : tree.follow path = .ok at_) : Named at_ := by
  obtain ⟨start, hstart, hmoves⟩ := bind_eq_ok_iff.mp h
  exact named_of_moves (fun _ => isSpelled_of_mem_moves (eq_of_start hstart).1) hmoves
    (named_of_start hhere hstart)

theorem Proper.named_here (proper : tree.Proper) : Named tree.here :=
  proper tree.here List.mem_cons_self

theorem mem_of_mem_put {files : List (Position × String)} {text : String} {position : Position}
    (h : position ∈ (put files at_ text).map Prod.fst) :
    position ∈ files.map Prod.fst ∨ position = at_ := by
  induction files with
  | nil => exact .inr (List.mem_singleton.mp h)
  | cons entry rest ih =>
    obtain ⟨first, old⟩ := entry
    unfold put at h
    split at h
    · next hfirst =>
      rw [List.map_cons, List.mem_cons] at h ⊢
      exact h.elim .inr fun hrest => .inl (.inr hrest)
    · rw [List.map_cons, List.mem_cons] at h ⊢
      exact h.elim (fun hfirst => .inl (.inl hfirst)) fun hrest => (ih hrest).imp_left .inr

/-- Writing leaves a tree proper. -/
theorem Proper.of_write {path text : String} {written : FileTree} (proper : tree.Proper)
    (h : tree.write path text = .ok written) : written.Proper := by
  obtain ⟨at_, hfollow, rfl⟩ := exists_of_write h
  have hat : Named at_ := by
    refine named_of_follow ?_ hfollow
    exact proper.named_here
  intro position hposition
  rcases List.mem_append.mp hposition with hposition | hposition
  · exact proper position (List.mem_append_left _ hposition)
  · rcases mem_of_mem_put hposition with hposition | rfl
    · exact proper position (List.mem_append_right _ hposition)
    · exact hat

theorem Proper.of_makeFolder {atEnd : Bool} {next : Position} {m : Move} {made : FileTree}
    (proper : tree.Proper) (hm : ∀ name, m = .into name → IsSpelled name)
    (hat : Named at_) (h : tree.makeFolder atEnd at_ m = .ok (made, next)) :
    made.Proper ∧ Named next := by
  obtain ⟨place, hplace, h⟩ := bind_eq_ok_iff.mp h
  have hnames := named_of_move hplace hm hat
  split at h
  · obtain ⟨rfl, rfl⟩ := Prod.mk.inj (Except.ok.inj h)
    exact ⟨proper, hnames⟩
  split at h
  · exact nomatch h
  obtain ⟨rfl, rfl⟩ := Prod.mk.inj (Except.ok.inj h)
  refine ⟨fun position hposition => ?_, hnames⟩
  unfold occupied at hposition
  simp only [List.mem_append, List.mem_cons, List.not_mem_nil, or_false] at hposition
  rcases hposition with (rfl | hposition | rfl) | hposition
  · exact proper.named_here
  · exact proper position (List.mem_append_left _ (List.mem_cons_of_mem _ hposition))
  · exact hnames
  · exact proper position (List.mem_append_right _ hposition)

theorem Proper.of_makeFolders {moves : List Move} {made : FileTree} (proper : tree.Proper)
    (hm : ∀ name, .into name ∈ moves → IsSpelled name) (hat : Named at_)
    (h : tree.makeFolders at_ moves = .ok made) : made.Proper := by
  induction moves generalizing tree at_ with
  | nil => exact Except.ok.inj h ▸ proper
  | cons m rest ih =>
    obtain ⟨⟨between, next⟩, hfirst, h⟩ := bind_eq_ok_iff.mp h
    obtain ⟨hbetween, hnext⟩ :=
      proper.of_makeFolder (fun name hname => hm name (hname ▸ List.mem_cons_self)) hat hfirst
    exact ih hbetween (fun name hname => hm name (List.mem_cons_of_mem m hname)) hnext h

theorem withoutSlashes_subset (path : String) : (withoutSlashes path).1 ⊆ moves path := by
  refine List.map_subset _ fun piece hpiece => ?_
  have hkept := (List.dropWhile_suffix String.isEmpty).subset (List.mem_reverse.mp hpiece)
  exact List.mem_reverse.mp hkept

/-- Making folders leaves a tree proper. -/
theorem Proper.of_createFolders {path : String} {made : FileTree} (proper : tree.Proper)
    (h : tree.createFolders path = .ok made) : made.Proper := by
  unfold createFolders at h
  split at h
  · exact Except.ok.inj h ▸ proper
  obtain ⟨start, hstart, h⟩ := bind_eq_ok_iff.mp h
  obtain ⟨hzero, -⟩ := eq_of_start hstart
  exact proper.of_makeFolders
    (fun _ hname => isSpelled_of_mem_moves hzero (withoutSlashes_subset path hname))
    (named_of_start proper.named_here hstart) h

/-- What comes of a folder to start from by writing and by making folders. -/
inductive Made : FileTree → Prop where
  | start {here : Position} (h : Named here) : Made { here }
  | write {before after : FileTree} {path text : String} (h : Made before)
      (hw : before.write path text = .ok after) : Made after
  | createFolders {before after : FileTree} {path : String} (h : Made before)
      (hc : before.createFolders path = .ok after) : Made after

theorem Made.proper (h : Made tree) : tree.Proper := by
  induction h with
  | start hhere => exact fun position hposition => List.mem_singleton.mp hposition ▸ hhere
  | write _ hw proper => exact proper.of_write hw
  | createFolders _ hc proper => exact proper.of_createFolders hc

end FileTree

end CloudAudit
