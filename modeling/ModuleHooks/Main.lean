import ModuleHooks.CommandLine.Run
import ModuleHooks.FileSystem.Tree

/-!
The program. It takes in the files around the directory it is seen from, runs the call on them and
prints what that comes to.
-/
namespace ModuleHooks.CommandLine

def place (p : Path) : IO.FS.DirEntry := { root := ⟨String.ofList p.text⟩, fileName := "" }

def listPlace (p : Path) : IO (List IO.FS.DirEntry) :=
  tryCatch (return (← (place p).path.readDir).toList) fun _ => return []

/-- What a place on the disk is. A link to a file is that file; one to a directory stays a link. -/
def kindOf (entry : IO.FS.DirEntry) : IO IO.FS.FileType :=
  tryCatch (do
      match (← entry.path.symlinkMetadata).type with
      | .symlink =>
        let target := (← entry.path.metadata).type
        return if target == .file then .file else .symlink
      | kind => return kind)
    fun _ => return .other

/-- What a file on the disk holds. -/
def takeContent (entry : IO.FS.DirEntry) : IO Content :=
  tryCatch (return .bytes (← IO.FS.readBinFile entry.path).toList) fun _ => return .denied

/-- Takes in what is below a directory, at most so many levels deep. Links to directories are not
followed. -/
def takeIn : Nat → Path → FileTree → IO FileTree
  | 0, _, tree => return tree
  | levels + 1, directory, tree => do
    let mut tree := { tree with folders := directory.normalNames :: tree.folders }
    for entry in ← listPlace directory do
      let path := directory.child entry.fileName.toList
      match ← kindOf entry with
      | .dir => tree ← takeIn levels path tree
      | .file =>
        tree := { tree with files := (path.normalNames, ← takeContent entry) :: tree.files }
      | _ => pure ()
    return tree

/-- The names that mark a directory which the program may have to look into. -/
def marks : List Text :=
  Discovery.repositoryMarks ++ [Manifest.fileName, Tsconfig.fileName, Path.dependencyDirectory]

/-- Whether a directory on the disk has a mark. -/
def isMarked (directory : Path) : IO Bool :=
  return (← listPlace directory).any fun entry => marks.contains entry.fileName.toList

/-- The outermost directory with a mark, at or above a directory; itself if there is none. -/
def outermost (start : Path) : IO Path := do
  return ((← start.ancestors.filterM isMarked).getLast?).getD start

/-- How deep directories are taken in. -/
def levelsTaken : Nat := 64

def valueOf? (name : Text) : IO (Option Text) :=
  return (← IO.getEnv (String.ofList name)).map String.toList

end ModuleHooks.CommandLine

open ModuleHooks CommandLine

/-- Runs the program. -/
def main (arguments : List String) : IO UInt32 := do
  let arguments := arguments.map String.toList
  let here : Path := ⟨(← IO.currentDir).toString.toList⟩
  let asked := ((Invocation.parse arguments).toOption.bind Invocation.directory).getD []
  let tree ← takeIn levelsTaken (← outermost (here.child asked).normalize) FileTree.empty
  let environment : Discovery.Environment :=
    { root := ← valueOf? Discovery.Environment.rootVariable
      tsconfig := ← valueOf? Discovery.Environment.tsconfigVariable }
  let outcome := run tree.walking environment here arguments
  (← IO.getStdout).putStr (String.ofList outcome.output)
  (← IO.getStderr).putStr (String.ofList outcome.complaint)
  return outcome.exitCode.toUInt32
