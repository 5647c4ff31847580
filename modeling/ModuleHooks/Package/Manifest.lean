import ModuleHooks.Failure
import ModuleHooks.Json.Reader
import ModuleHooks.Module.Format

/-!
Package manifests: the fields that resolution reads. A manifest has to be JSON; a field of another
shape than expected counts as not there.
-/
namespace ModuleHooks

/-- What a manifest says. -/
structure Manifest where
  name : Option Text := none
  /-- The declared type as it is written. -/
  moduleType : Option Text := none
  main : Option Text := none
  exports : Option Json := none
  imports : Option Json := none
deriving BEq, Repr

namespace Manifest

def fileName : Text := "package.json".toList

def pathIn (directory : Path) : Path := directory.child fileName

/-- The manifest that a JSON value holds. -/
def ofJson (value : Json) : Manifest where
  name := (value.member? "name".toList).bind Json.text?
  moduleType := (value.member? "type".toList).bind Json.text?
  main := (value.member? "main".toList).bind Json.text?
  exports := value.member? "exports".toList
  imports := value.member? "imports".toList

/-- Reads a manifest. -/
def parse (path : Path) (source : Text) : Except HookError Manifest :=
  match Json.parse? source with
  | some value => .ok (ofJson value)
  | none => .error (.manifestMalformed path)

/-- The manifest at a path, which may be missing. Any other failure to read it fails, and so does a
text that is no JSON. -/
def read (fs : FileSystem) (path : Path) : Except HookError (Option Manifest) :=
  match fs.readOptional path with
  | .ok (some source) => (parse path source).map some
  | .ok none => .ok none
  | .error failure => .error (.unreadable path (.failed failure))

/-- The type of the package's modules, if one is declared exactly. -/
def declaredType (m : Manifest) : Option ModuleType := m.moduleType.bind ModuleType.ofLabel?

end Manifest
end ModuleHooks
