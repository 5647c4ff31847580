import ModuleHooks.Path.Normal

/-!
What may be asked of a file system. Everything the hooks read goes through these questions, so any
finite collection of files that answers them will do.
-/
namespace ModuleHooks

/-- Why a file cannot be read. -/
inductive ReadFailure
  | missing
  | notADirectory
  | isADirectory
  | denied
  /-- A name, or the path as a whole, is longer than any that can be there. -/
  | tooLong
  /-- The path holds a character that no name can hold. -/
  | impossible
deriving DecidableEq, Repr

namespace ReadFailure

/-- The cause in words. -/
def reason : ReadFailure → Text
  | missing => "not found".toList
  | notADirectory => "not a directory".toList
  | isADirectory => "is a directory".toList
  | denied => "permission denied".toList
  | tooLong => "file name too long".toList
  | impossible => "invalid file name".toList

end ReadFailure

/-- A file system. It holds finitely many files: the normal paths that name them, absolute and
relative, are listed. -/
structure FileSystem where
  /-- The text of a file. -/
  readText : Path → Except ReadFailure Text
  /-- Whether a path names a regular file. -/
  isFile : Path → Bool
  /-- Whether a path names a directory. -/
  isDirectory : Path → Bool
  /-- What a directory holds, in order. -/
  entries : Path → Option (List Path)
  /-- The normal paths that name files. -/
  files : List Path
  /-- Every file is listed. -/
  normalize_mem : ∀ p, isFile p = true → p.normalize ∈ files

namespace FileSystem

def hasPath (fs : FileSystem) (p : Path) : Bool := fs.isFile p || fs.isDirectory p

/-- What a directory holds; nothing where none can be listed. -/
def listing (fs : FileSystem) (p : Path) : List Path := (fs.entries p).getD []

/-- The text of a file that may be missing. -/
def readOptional (fs : FileSystem) (p : Path) : Except ReadFailure (Option Text) :=
  match fs.readText p with
  | .ok source => .ok (some source)
  | .error .missing => .ok none
  | .error failure => .error failure

/-- The path without detours: where it names something, its normal form from the root. -/
def canonical (fs : FileSystem) (p : Path) : Path :=
  if fs.hasPath p then (Path.rootDirectory.join p).normalize else p

/-- More than the number of names in any path that names a file. -/
def depth (fs : FileSystem) : Nat :=
  fs.files.foldl (fun n p => max n (p.components.length + 1)) 1

end FileSystem
end ModuleHooks
