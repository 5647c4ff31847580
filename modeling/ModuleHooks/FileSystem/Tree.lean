import ModuleHooks.FileSystem.Basic
import ModuleHooks.Text.Utf8

/-!
A finite tree of files, seen in two ways. The lexical view takes every step up before it looks, so a
path has the answer of its normal form; the walking view goes through each directory that a path
names, so a path through something that is none leads nowhere, and it knows no names beyond the
length that a disk keeps.
-/
namespace ModuleHooks

/-- What a file holds. -/
inductive Content
  | text (s : Text)
  | bytes (bs : List UInt8)
  | denied
deriving DecidableEq, Repr

/-- Files and further directories, named from the root down. Every directory above one of them
exists. -/
structure FileTree where
  files : List (List Text × Content)
  folders : List (List Text)

namespace FileTree

def empty : FileTree := ⟨[], []⟩

def content? (tree : FileTree) (names : List Text) : Option Content := tree.files.lookup names

def hasFile (tree : FileTree) (names : List Text) : Bool := tree.files.any (·.1 == names)

/-- The names of everything that is in the tree for its own sake. -/
def places (tree : FileTree) : List (List Text) := tree.files.map (·.1) ++ tree.folders

/-- Whether a directory has these names: the root, a further directory, or one above something. -/
def hasFolder (tree : FileTree) (names : List Text) : Bool :=
  names.isEmpty || tree.folders.contains names ||
    tree.places.any fun place => names.length < place.length && names.isPrefixOf place

/-- The names directly inside a directory, in order. -/
def childNames (tree : FileTree) (names : List Text) : List Text :=
  let inside := tree.places.filterMap fun place => (names.isPrefixOf? place).bind List.head?
  inside.eraseDups.mergeSort fun a b => Text.order a b != .gt

/-- Puts a file into the tree. -/
def write (tree : FileTree) (p : Path) (source : Text) : FileTree :=
  { tree with
    files := (p.normalNames, .text source) :: tree.files.filter (·.1 != p.normalNames) }

/-- Removes a file from the tree; the directories above it go with it unless something else is in
them. -/
def delete (tree : FileTree) (p : Path) : FileTree :=
  { tree with files := tree.files.filter (·.1 != p.normalNames) }

/-- The text of what a file holds. -/
def decode : Content → Except ReadFailure Text
  | .text s => .ok s
  | .bytes bs => .ok (Utf8.decodeLossy bs)
  | .denied => .error .denied

/-- Whether one of the directories above these names is a file. -/
def isBelowFile (tree : FileTree) (names : List Text) : Bool :=
  tree.files.any fun (file, _) => file.length < names.length && file.isPrefixOf names

/-- The text of the file with these names. -/
def read (tree : FileTree) (names : List Text) : Except ReadFailure Text :=
  match tree.content? names with
  | some content => decode content
  | none =>
    if tree.isBelowFile names then .error .notADirectory
    else if tree.hasFolder names then .error .isADirectory
    else .error .missing

/-- What a directory holds, each under the path it was asked for. -/
def list? (tree : FileTree) (p : Path) : Option (List Path) :=
  if tree.hasFolder p.normalNames then some ((tree.childNames p.normalNames).map p.child) else none

/-- The normal paths of the files, absolute and relative. -/
def normalPaths (tree : FileTree) : List Path :=
  tree.files.flatMap fun (names, _) =>
    [⟨'/' :: Text.joinWith '/' names⟩, ⟨Text.joinWith '/' names⟩]

theorem normalize_mem_normalPaths (tree : FileTree) (p : Path)
    (h : tree.hasFile p.normalNames = true) : p.normalize ∈ tree.normalPaths := by
  obtain ⟨⟨names, content⟩, hmem, hname⟩ := List.any_eq_true.1 h
  have hname : names = p.normalNames := by simpa using hname
  subst hname
  refine List.mem_flatMap.2 ⟨_, hmem, ?_⟩
  unfold Path.normalize
  cases p.isAbsolute <;> simp

/-- The tree under paths by their normal form, relative ones taken from the root. -/
def lexical (tree : FileTree) : FileSystem where
  readText p := tree.read p.normalNames
  isFile p := tree.hasFile p.normalNames
  isDirectory p := tree.hasFolder p.normalNames
  entries p := tree.list? p
  files := tree.normalPaths
  normalize_mem p h := tree.normalize_mem_normalPaths p h

/-- The greatest number of bytes in a name. -/
def nameLimit : Nat := 255

/-- The greatest number of bytes in a path. -/
def pathLimit : Nat := 4095

/-- Whether a disk can keep a name. -/
def canKeep (name : Text) : Bool := (Utf8.encode name).length ≤ nameLimit && !name.contains '\x00'

/-- Goes on from a place through the pieces of a path: each piece asks that the place so far is a
directory, and that its own name can be there. Answers what is in the way. -/
def obstacle (tree : FileTree) (names : List Text) : List Text → Option ReadFailure
  | [] => none
  | piece :: pieces =>
    if tree.hasFolder names.reverse then
      let taken := if Path.isIdle piece then names else Path.step names (Path.componentOf piece)
      if canKeep piece then obstacle tree taken pieces else some .tooLong
    else if tree.hasFile names.reverse || tree.isBelowFile names.reverse then some .notADirectory
    else some .missing

/-- What is in the way of a path. The empty path leads nowhere. -/
def obstacleTo (tree : FileTree) (p : Path) : Option ReadFailure :=
  if p.text.contains '\x00' then some .impossible
  else if pathLimit < (Utf8.encode p.text).length then some .tooLong
  else
    match p.text with
    | [] => some .missing
    | '/' :: rest => tree.obstacle [] (Text.splitAt '/' rest)
    | text => tree.obstacle [] (Text.splitAt '/' text)

/-- What a directory holds of the names that a disk can keep. -/
def kept (tree : FileTree) (p : Path) : Option (List Path) :=
  (tree.list? p).map fun paths => paths.filter fun path => (path.fileName?.map canKeep).getD true

/-- The tree under paths that are walked directory by directory. -/
def walking (tree : FileTree) : FileSystem where
  readText p :=
    match tree.obstacleTo p with
    | some failure => .error failure
    | none => tree.read p.normalNames
  isFile p := (tree.obstacleTo p).isNone && tree.hasFile p.normalNames
  isDirectory p := (tree.obstacleTo p).isNone && tree.hasFolder p.normalNames
  entries p := if (tree.obstacleTo p).isNone then tree.kept p else none
  files := tree.normalPaths
  normalize_mem p h := tree.normalize_mem_normalPaths p (Bool.and_eq_true _ _ ▸ h).2

end FileTree
end ModuleHooks
