import ModuleHooks.Path.Memo
import ModuleHooks.Tsconfig.Admission
import ModuleHooks.Tsconfig.Extended

/-!
Configurations by path, each loaded once, and for every directory that was looked at the nearest
configuration at or above it.
-/
namespace ModuleHooks

/-- The configurations that were loaded, and where the nearest one was found. -/
structure TsconfigCache where
  byPath : PathMemo LoadedTsconfig := []
  nearestByDirectory : PathMemo (Option Path) := []

namespace TsconfigCache

/-- Loads the configuration at a path, unless it was loaded before. A failure is not remembered. -/
def load (fs : FileSystem) (path : Path) : Hooked TsconfigCache LoadedTsconfig := do
  match (← Hooked.state).byPath.get? path with
  | some loaded => return loaded
  | none =>
    let loaded ← Tsconfig.load fs path
    Hooked.update fun c => { c with byPath := c.byPath.insertNew path loaded }
    return loaded

/-- Looks through directories for a configuration: the nearest one, and the directories that had to
be looked at. -/
def search (fs : FileSystem) (known : PathMemo (Option Path)) :
    List Path → Option Path × List Path
  | [] => (none, [])
  | directory :: above =>
    match known.get? directory with
    | some found => (found, [])
    | none =>
      let candidate := directory.child Tsconfig.fileName
      if fs.isFile candidate then (some candidate, [directory])
      else
        let (found, looked) := search fs known above
        (found, directory :: looked)

/-- The nearest configuration at or above a directory. Every directory that was looked at on the way
up remembers where it is. -/
def nearest (fs : FileSystem) (directory : Path) :
    Hooked TsconfigCache (Option LoadedTsconfig) := do
  let (found, looked) := search fs (← Hooked.state).nearestByDirectory directory.ancestors
  Hooked.update fun c =>
    { c with
      nearestByDirectory := looked.foldl (fun m d => m.insertNew d found) c.nearestByDirectory }
  match found with
  | none => return none
  | some path => return some (← load fs path)

/-- The compiler options that govern a file: those of the nearest configuration, if the file belongs
to it, and else those of the fallback, if it belongs to that. -/
def optionsFor (fs : FileSystem) (fallback : Option LoadedTsconfig) (file : Path) :
    Hooked TsconfigCache (Option CompilerOptions) := do
  let governing ← nearest fs (LoadedTsconfig.directoryOf file)
  match governing.filter (·.admits file) with
  | some config => return some config.compilerOptions
  | none => return (fallback.filter (·.admits file)).map LoadedTsconfig.compilerOptions

end TsconfigCache
end ModuleHooks
