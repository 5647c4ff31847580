import ModuleHooks.Failure
import ModuleHooks.Glob.Listing
import ModuleHooks.Json.Writer
import ModuleHooks.Module.Identity

/-!
The source of an aggregate: a module that exports, for every file that its pattern matches, that
file's exports under the file's path from the importing directory.
-/
namespace ModuleHooks.VirtualModule

/-- The files of an aggregate, in order. -/
def files (fs : FileSystem) (m : VirtualModule) : Except HookError (List Path) :=
  match Glob.files? fs ⟨(m.importerDirectory.join ⟨m.pattern⟩).normalize.toSlash⟩ with
  | some files => .ok files
  | none => .error (.unresolvedAlias m.pattern .invalidGlob)

/-- The key of a file: its path from the importing directory, or all of it where it is not below. -/
def key (m : VirtualModule) (file : Path) : Text :=
  match m.importerDirectory.below? file with
  | some rest => '.' :: '/' :: rest.toSlash
  | none => file.toSlash

def binding (i : Nat) : Text := "__glob_".toList ++ Text.ofNat i

def importLine (i : Nat) (file : Path) : Text :=
  "import * as ".toList ++ binding i ++ " from ".toList ++ Json.quote file.toSlash ++ ";\n".toList

def memberLine (key value : Text) : Text :=
  '\t' :: (Json.quote key ++ ": ".toList ++ value ++ ",\n".toList)

/-- The source of an aggregate of given files. -/
def renderFiles (m : VirtualModule) (files : List Path) : Text :=
  match m.kind with
  | .module =>
    (files.mapIdx importLine).flatten ++ "export default \x7b\n".toList
      ++ (files.mapIdx fun i file => memberLine (m.key file) (binding i)).flatten
      ++ "\x7d;\n".toList
  | .commonJs =>
    "module.exports = \x7b\n".toList
      ++ (files.map fun file =>
        memberLine (m.key file) ("require(".toList ++ Json.quote file.toSlash ++ [')'])).flatten
      ++ "\x7d;\n".toList

def render (fs : FileSystem) (m : VirtualModule) : Except HookError Text :=
  (m.files fs).map m.renderFiles

end ModuleHooks.VirtualModule
