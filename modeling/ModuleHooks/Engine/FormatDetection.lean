import ModuleHooks.Engine.State

/-!
The format of a file. An extension of its own settles it; a script has the type of the nearest
package that declares one, up to the boundary of installed dependencies, and is plain script where
none does. Manifests are read once, and every directory passed on the way up remembers the answer.
-/
namespace ModuleHooks.Engine

/-- The manifest at a path, which may be missing. A failure to read it is not remembered. -/
def manifestAt (fs : FileSystem) (path : Path) : Hooked Caches (Option Manifest) := do
  match (← Hooked.state).manifests.get? path with
  | some known => return known
  | none =>
    Hooked.note (.readManifest path)
    let manifest ← liftExcept (Manifest.read fs path)
    Hooked.update fun c => { c with manifests := c.manifests.insertNew path manifest }
    return manifest

/-- Whether a directory holds installed dependencies: no package outside reaches into it. -/
def isBoundary (directory : Path) : Bool := directory.fileName? == some Path.dependencyDirectory

/-- Looks through directories for the type of their modules: the type, and the directories that had
to be looked at. -/
def searchType (fs : FileSystem) : List Path → Hooked Caches (ModuleType × List Path)
  | [] => return (.commonJs, [])
  | directory :: above => do
    if isBoundary directory then return (.commonJs, [])
    else
      match (← Hooked.state).moduleTypes.get? directory with
      | some known => return (known, [])
      | none =>
        let manifest ← manifestAt fs (Manifest.pathIn directory)
        match manifest.bind Manifest.declaredType with
        | some declared => return (declared, [directory])
        | none =>
          let (type, looked) ← searchType fs above
          return (type, directory :: looked)

/-- The type of the modules in a directory. -/
def typeOfDirectory (fs : FileSystem) (directory : Path) : Hooked Caches ModuleType := do
  let (type, looked) ← searchType fs directory.ancestors
  Hooked.update fun c =>
    { c with moduleTypes := looked.foldl (fun m d => m.insertNew d type) c.moduleTypes }
  return type

/-- The extensions whose format depends on the package. -/
def scriptExtensions : List Text := [".js", ".jsx", ".ts", ".tsx"].map String.toList

/-- The format of a file, where it has one. -/
def detectFormat (fs : FileSystem) (path : Path) : Hooked Caches (Option ModuleFormat) := do
  match ModuleFormat.ofExtension? path with
  | some format => return some format
  | none =>
    if scriptExtensions.contains (Path.extension path.text) then
      match path.parent? with
      | none => return some .commonJs
      | some directory => return some (← typeOfDirectory fs directory).format
    else return none

end ModuleHooks.Engine
