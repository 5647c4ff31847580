import ModuleHooks.Module.Format
import ModuleHooks.Text.Base64

/-!
What a resolved module is: a file, an aggregate of the files that match a glob, or something
addressed by URL. An aggregate has an identity in the form of a path, which cannot be that of a file
its importer can write, and reading that path gives the aggregate back.
-/
namespace ModuleHooks

/-- The module that gathers the files matching a pattern, seen from a directory. -/
structure VirtualModule where
  pattern : Text
  importerDirectory : Path
  kind : LoaderKind
deriving DecidableEq, Repr

namespace VirtualModule

def nameStart : Text := "__virtual__:".toList

/-- The name of an aggregate: its loader and its pattern, the latter encoded. -/
def name (m : VirtualModule) : Text :=
  nameStart ++ m.kind.label ++ ':' :: Base64.inName (Utf8.encode m.pattern)

/-- The path that identifies an aggregate. -/
def toPath (m : VirtualModule) : Path := m.importerDirectory.child m.name

/-- The loader and the pattern that a name spells. -/
def ofName? (name : Text) : Option (LoaderKind × Text) := do
  let rest ← Text.after? nameStart name
  let (label, encoded) ← Text.cutAt? ':' rest
  let kind ← LoaderKind.ofLabel? label
  let pattern ← (Base64.decode? Base64.nameDigits encoded).bind Utf8.decode?
  return (kind, pattern)

/-- The aggregate that a path identifies. -/
def ofPath? (p : Path) : Option VirtualModule := do
  let (kind, pattern) ← (← p.fileName?) |> ofName?
  return { pattern, importerDirectory := ← p.parent?, kind }

end VirtualModule

/-- The identity of a module. -/
inductive ModuleId
  | file (path : Path)
  | virtual (m : VirtualModule)
  | url (address : Text)
deriving DecidableEq, Repr

namespace ModuleId

/-- The identity that a path stands for. -/
def ofPath (p : Path) : ModuleId :=
  match VirtualModule.ofPath? p with
  | some m => virtual m
  | none => file p

/-- The identity as text. -/
def text : ModuleId → Text
  | file path => path.text
  | virtual m => m.toPath.text
  | url address => address

end ModuleId

/-- A resolved module: who it is, its format where known, and whether no further hook may run. -/
structure ResolvedModule where
  id : ModuleId
  format : Option ModuleFormat := none
  shortCircuit : Bool := false
deriving DecidableEq, Repr

/-- What a host loads: a format, where it knows one, and a source, where there is one. -/
structure LoadedSource where
  format : Option ModuleFormat
  source : Option Text
deriving DecidableEq, Repr

/-- What a load answers. -/
structure LoadResult where
  format : Option ModuleFormat
  source : Option Text
  shortCircuit : Bool := false
deriving DecidableEq, Repr

namespace LoadedSource

def result (loaded : LoadedSource) : LoadResult := ⟨loaded.format, loaded.source, false⟩

end LoadedSource
end ModuleHooks
