import CloudAudit.Files.Tree
import CloudAudit.Proofs.Except

/-!
# What writing does to a tree of files

A text that is written is at the end of its path afterwards, and everything else is as it was
(`exists_of_write`). Making folders changes no file (`files_of_createFolders`).
-/

namespace CloudAudit.FileTree

open Files

variable {tree : FileTree}

/-! ## Moves -/

/-- A move starts in a folder. -/
theorem isFolderAt_of_move {at_ next : Position} {m : Move} (h : tree.move at_ m = .ok next) :
    tree.isFolderAt at_ = true := by
  unfold move enter at h
  by_contra hf
  rw [if_neg hf] at h
  split at h <;> exact nomatch h

/-- Where a move leads depends on its start, as long as that is a folder. -/
theorem move_congr {other : FileTree} {at_ : Position} (h : tree.isFolderAt at_ = true)
    (ho : other.isFolderAt at_ = true) (m : Move) : other.move at_ m = tree.move at_ m := by
  unfold move enter
  rw [if_pos h, if_pos ho]

theorem foldlM_move_of_kept {other : FileTree}
    (h : ∀ at_, tree.isFolderAt at_ = true → other.isFolderAt at_ = true) {moves : List Move}
    {at_ last : Position} (hm : moves.foldlM tree.move at_ = .ok last) :
    moves.foldlM other.move at_ = .ok last := by
  induction moves generalizing at_ with
  | nil => exact hm
  | cons m rest ih =>
    rw [List.foldlM_cons] at hm ⊢
    obtain ⟨next, hnext, hrest⟩ := bind_eq_ok_iff.mp hm
    have hf := isFolderAt_of_move hnext
    rw [move_congr hf (h at_ hf), hnext]
    exact ih hrest

/-! ## Texts -/

theorem text?_put (at_ other : Position) (text : String) :
    ({ tree with files := put tree.files at_ text } : FileTree).text? other =
      if other = at_ then some text else tree.text? other :=
  lookup_put tree.files at_ other text

theorem map_fst_put_subset (files : List (Position × String)) (at_ : Position) (text : String) :
    files.map Prod.fst ⊆ (put files at_ text).map Prod.fst := by
  induction files with
  | nil => exact List.nil_subset _
  | cons entry rest ih =>
    obtain ⟨position, old⟩ := entry
    unfold put
    split
    · next hp => rw [List.map_cons, List.map_cons, hp]; exact List.Subset.refl _
    · exact List.cons_subset_cons position ih

/-- A text in a place that is no folder leaves all folders there. -/
theorem isFolderAt_put {at_ : Position} (h : tree.isFolderAt at_ = false) (text : String)
    {folder : Position} (hf : tree.isFolderAt folder = true) :
    ({ tree with files := put tree.files at_ text } : FileTree).isFolderAt folder = true := by
  have hne : folder ≠ at_ := fun he => by simp [he, h] at hf
  unfold isFolderAt at hf ⊢
  rw [text?_put, if_neg hne]
  simp only [Bool.and_eq_true, Bool.or_eq_true, List.any_eq_true] at hf ⊢
  refine hf.imp_right (Or.imp_right fun ⟨position, hposition, hprefix⟩ => ?_)
  refine ⟨position, ?_, hprefix⟩
  unfold occupied at hposition ⊢
  rw [List.mem_append] at hposition ⊢
  exact hposition.imp_right fun hm => map_fst_put_subset _ _ _ hm

/-! ## Writing -/

/-- Without slashes at its end, a path is followed move by move. -/
theorem withoutSlashes_eq (path : String) (h : (withoutSlashes path).2 = false) :
    (withoutSlashes path).1 = moves path := by
  unfold withoutSlashes at h ⊢
  dsimp only at h ⊢
  have hsuffix := List.dropWhile_suffix String.isEmpty (l := (Text.split '/' path).reverse)
  have hkept := hsuffix.eq_of_length
    (Nat.le_antisymm hsuffix.length_le (Nat.le_of_not_lt (of_decide_eq_false h)))
  rw [hkept, List.reverse_reverse]
  rfl

/-- **Writing.** The text is at the end of the path, where no folder was, and all other files are as
they were. -/
theorem exists_of_write {path text : String} {written : FileTree}
    (h : tree.write path text = .ok written) :
    ∃ at_, written.follow path = .ok at_ ∧
      written = { tree with files := put tree.files at_ text } := by
  obtain ⟨start, hstart, h⟩ := bind_eq_ok_iff.mp h
  dsimp only at h
  obtain ⟨folder, hfolder, h⟩ := bind_eq_ok_iff.mp h
  obtain ⟨-, -, h⟩ := bind_eq_ok_iff.mp h
  split at h
  · next name hlast =>
    obtain ⟨at_, hat, h⟩ := bind_eq_ok_iff.mp h
    split at h
    · exact nomatch h
    next hplace =>
    simp only [Bool.or_eq_true, not_or, Bool.not_eq_true] at hplace
    obtain ⟨hslashes, hnone⟩ := hplace
    obtain rfl := Except.ok.inj h
    refine ⟨at_, ?_, rfl⟩
    have hmoves : moves path = (withoutSlashes path).1.dropLast ++ [.into name] := by
      rw [← withoutSlashes_eq path hslashes]
      exact (List.dropLast_append_getLast? _ hlast).symm
    have hfollow : (moves path).foldlM tree.move start = .ok at_ := by
      rw [hmoves, List.foldlM_append, hfolder]
      show [Move.into name].foldlM tree.move folder = _
      rw [List.foldlM_cons, hat]
      rfl
    show (tree.start path >>= fun start => (moves path).foldlM _ start) = _
    rw [hstart]
    exact foldlM_move_of_kept (fun _ => isFolderAt_put hnone text) hfollow
  · exact nomatch h

/-! ## Making folders -/

theorem files_of_makeFolder {atEnd : Bool} {at_ next : Position} {m : Move} {made : FileTree}
    (h : tree.makeFolder atEnd at_ m = .ok (made, next)) : made.files = tree.files := by
  obtain ⟨place, -, h⟩ := bind_eq_ok_iff.mp h
  split at h
  · obtain ⟨rfl, -⟩ := Prod.mk.inj (Except.ok.inj h)
    rfl
  split at h
  · exact nomatch h
  · obtain ⟨rfl, -⟩ := Prod.mk.inj (Except.ok.inj h)
    rfl

theorem files_of_makeFolders {moves : List Move} {at_ : Position} {made : FileTree}
    (h : tree.makeFolders at_ moves = .ok made) : made.files = tree.files := by
  induction moves generalizing tree at_ with
  | nil => exact congrArg files (Except.ok.inj h).symm
  | cons m rest ih =>
    obtain ⟨⟨between, next⟩, hfirst, h⟩ := bind_eq_ok_iff.mp h
    exact (ih h).trans (files_of_makeFolder hfirst)

theorem files_of_createFolders {path : String} {made : FileTree}
    (h : tree.createFolders path = .ok made) : made.files = tree.files := by
  unfold createFolders at h
  split at h
  · exact congrArg files (Except.ok.inj h).symm
  · obtain ⟨start, -, h⟩ := bind_eq_ok_iff.mp h
    exact files_of_makeFolders h

end CloudAudit.FileTree
