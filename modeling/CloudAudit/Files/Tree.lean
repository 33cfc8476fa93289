import CloudAudit.Files.Path

/-!
# Trees of files

Files with texts in folders. A folder is there because it was made, or because something is in it.
A path is followed move by move, and every move needs a folder to start from.
-/

namespace CloudAudit

/-- Why a file or a folder is not to be had. -/
inductive FileError where
  | notFound
  | notFolder
  | isFolder
  | taken
  | longName
  | zeroInName
  /-- Any other cause, in the words of the host. -/
  | other (cause : String)
  deriving DecidableEq, Repr

namespace FileError

def message : FileError → String
  | notFound => "No such file or directory (os error 2)"
  | notFolder => "Not a directory (os error 20)"
  | isFolder => "Is a directory (os error 21)"
  | taken => "File exists (os error 17)"
  | longName => "File name too long (os error 36)"
  | zeroInName => "file name contained an unexpected NUL byte"
  | other cause => cause

end FileError

/-- The names on the way from the root. -/
abbrev Position := List String

structure FileTree where
  files : List (Position × String) := []
  /-- Folders that were made. -/
  folders : List Position := []
  /-- The folder in which relative paths start. -/
  here : Position := []
  deriving Inhabited

namespace FileTree

open Files

/-! ## What is at a position -/

def text? (tree : FileTree) (at_ : Position) : Option String := tree.files.lookup at_

/-- All positions that are there because of a file or a folder. -/
def occupied (tree : FileTree) : List Position :=
  tree.here :: tree.folders ++ tree.files.map Prod.fst

def isFolderAt (tree : FileTree) (at_ : Position) : Bool :=
  (tree.text? at_).isNone &&
    (at_.isEmpty || tree.occupied.any fun position => at_.isPrefixOf position)

/-- A folder to start from, or why there is none. -/
def enter (tree : FileTree) (at_ : Position) : Except FileError Unit :=
  if tree.isFolderAt at_ then .ok ()
  else if (tree.text? at_).isSome then .error .notFolder
  else .error .notFound

/-! ## Following paths -/

/-- The most bytes in a name, and one more than the most bytes in a path. -/
def nameLimit : Nat := 255

def pathLimit : Nat := 4096

def move (tree : FileTree) (at_ : Position) (m : Move) : Except FileError Position := do
  tree.enter at_
  match m with
  | .stay => return at_
  | .up => return at_.dropLast
  | .into name => if nameLimit < name.utf8ByteSize then .error .longName else .ok (at_ ++ [name])

def start (tree : FileTree) (path : String) : Except FileError Position :=
  if path.toList.contains '\x00' then .error .zeroInName
  else if path.isEmpty then .error .notFound
  else if pathLimit ≤ path.utf8ByteSize then .error .longName
  else .ok (if isAbsolute path then [] else tree.here)

/-- Where a path leads, whether anything is there or not. -/
def follow (tree : FileTree) (path : String) : Except FileError Position := do
  (moves path).foldlM tree.move (← tree.start path)

/-! ## Reading -/

def read (tree : FileTree) (path : String) : Except FileError String := do
  let at_ ← tree.follow path
  match tree.text? at_ with
  | some text => return text
  | none => if tree.isFolderAt at_ then .error .isFolder else .error .notFound

def isFile (tree : FileTree) (path : String) : Bool := (tree.read path).isOk

/-- The names in the folder at a path. -/
def names (tree : FileTree) (path : String) : Except FileError (List String) := do
  let at_ ← tree.follow path
  tree.enter at_
  return (tree.occupied.filterMap fun position =>
    if at_.isPrefixOf position then position[at_.length]? else none).eraseDups

/-! ## Writing -/

/-- Puts a text into place. -/
def put (files : List (Position × String)) (at_ : Position) (text : String) :
    List (Position × String) :=
  match files with
  | [] => [(at_, text)]
  | (position, old) :: rest =>
    if position = at_ then (at_, text) :: rest else (position, old) :: put rest at_ text

/-- The moves of a path without the slashes at its end, and whether there were any. -/
def withoutSlashes (path : String) : List Move × Bool :=
  let pieces := (Text.split '/' path).reverse
  let kept := pieces.dropWhile String.isEmpty
  ((kept.reverse).map Move.ofName, kept.length < pieces.length)

/-- Replaces the text of a file, or makes a file in a folder that is there. -/
def write (tree : FileTree) (path text : String) : Except FileError FileTree := do
  let start ← tree.start path
  let (moves, slashes) := withoutSlashes path
  let folder ← moves.dropLast.foldlM tree.move start
  tree.enter folder
  match moves.getLast? with
  | some (.into name) =>
    let at_ ← tree.move folder (.into name)
    if slashes || tree.isFolderAt at_ then .error .isFolder
    else return { tree with files := put tree.files at_ text }
  | _ => .error .isFolder

/-- Makes the folder one move away, unless it is there. -/
def makeFolder (atEnd : Bool) (tree : FileTree) (at_ : Position) (m : Move) :
    Except FileError (FileTree × Position) := do
  let at_ ← tree.move at_ m
  if tree.isFolderAt at_ then return (tree, at_)
  else if (tree.text? at_).isSome then .error (if atEnd then .taken else .notFolder)
  else return ({ tree with folders := tree.folders ++ [at_] }, at_)

/-- Makes all folders along the moves that are not there. -/
def makeFolders (tree : FileTree) (at_ : Position) : List Move → Except FileError FileTree
  | [] => .ok tree
  | m :: rest => do
    let (tree, at_) ← makeFolder rest.isEmpty tree at_ m
    tree.makeFolders at_ rest

/-- Makes all folders along a path that are not there. -/
def createFolders (tree : FileTree) (path : String) : Except FileError FileTree := do
  if path.isEmpty then return tree
  tree.makeFolders (← tree.start path) (withoutSlashes path).1

/-! ## Laws -/

theorem lookup_put (files : List (Position × String)) (at_ other : Position) (text : String) :
    (put files at_ text).lookup other = if other = at_ then some text else files.lookup other := by
  induction files with
  | nil =>
    by_cases h : other = at_
    · simp [put, h]
    · have hb : (other == at_) = false := by simpa using h
      simp [put, List.lookup_cons, h, hb]
  | cons entry rest ih =>
    obtain ⟨position, old⟩ := entry
    unfold put
    split
    · next hp =>
      subst hp
      by_cases h : other = position
      · simp [h]
      · have hb : (other == position) = false := by simpa using h
        simp [List.lookup_cons, h, hb]
    · next hp =>
      by_cases h : other = position
      · subst h
        simp [hp]
      · have hb : (other == position) = false := by simpa using h
        simp [List.lookup_cons, hb, ih]

end FileTree

end CloudAudit
