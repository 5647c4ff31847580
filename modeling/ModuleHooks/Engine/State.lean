import ModuleHooks.Engine.Hooked
import ModuleHooks.Package.Manifest
import ModuleHooks.PathMapping
import ModuleHooks.Transform.Transformer
import ModuleHooks.Tsconfig.Cache
import ModuleHooks.Workspace.Table

/-!
The engine: what it is configured with, the host it turns to, and the caches it keeps.
-/
namespace ModuleHooks

/-- The answer of a host, with the files that it read to give it. -/
structure HostAnswer (α : Type) where
  reads : List Path := []
  result : Except HookError α

/-- The host that resolves and loads plain modules. -/
structure Host where
  resolve : Text → ResolveContext → HostAnswer ResolvedModule
  load : ModuleId → LoadContext → HostAnswer LoadedSource

/-- The settings of an engine. -/
structure EngineConfig where
  /-- The repository root, which aliases and workspace packages are seen from. -/
  root : Path
  /-- The configuration that the paths mapping comes from. -/
  tsconfig : Option Path := none
  /-- The namespace of workspace packages. -/
  workspaceNamespace : Text := "@t".toList
deriving DecidableEq, Repr

/-- An engine: its settings and what was read from them. -/
structure Engine where
  config : EngineConfig
  tsconfig : Option LoadedTsconfig
  paths : Option PathMappings
  workspace : Option WorkspaceTable
  transformer : Transformer

/-- What an engine remembers. Each entry is made once, apart from source maps. -/
structure Caches where
  /-- Manifests by path; one that was not there is remembered as such. -/
  manifests : PathMemo (Option Manifest) := []
  /-- The type of the modules in a directory. -/
  moduleTypes : PathMemo ModuleType := []
  tsconfigs : TsconfigCache := {}
  /-- The maps of transformed sources, by the file they were made from. -/
  sourceMaps : PathMemo Text := []

namespace Hooked

def onTsconfigs {α : Type} (x : Hooked TsconfigCache α) : Hooked Caches α :=
  zoom Caches.tsconfigs (fun t c => { c with tsconfigs := t }) x

/-- Takes the answer of a host, noting what it read. -/
def takeAnswer {σ α : Type} (answer : HostAnswer α) : Hooked σ α := do
  modify fun t => { t with trace := t.trace ++ answer.reads.map .hostRead }
  liftExcept answer.result

/-- Asks the host to resolve. -/
def askResolve {σ : Type} (host : Host) (specifier : Text) (ctx : ResolveContext) :
    Hooked σ ResolvedModule := do
  note (.resolve specifier ctx)
  takeAnswer (host.resolve specifier ctx)

/-- Asks the host to load. -/
def askLoad {σ : Type} (host : Host) (id : ModuleId) (ctx : LoadContext) :
    Hooked σ LoadedSource := do
  note (.load id ctx)
  takeAnswer (host.load id ctx)

end Hooked

namespace Engine

/-- Builds an engine: loads the configuration that is set and looks for workspace packages. -/
def create (fs : FileSystem) (config : EngineConfig) (transformer : Transformer) :
    Hooked Caches Engine := do
  let tsconfig ← config.tsconfig.mapM fun path => Hooked.onTsconfigs (TsconfigCache.load fs path)
  let workspace ← WorkspaceTable.discover fs config.root
  let paths := tsconfig.bind PathMappings.ofTsconfig?
  return { config, tsconfig, paths, workspace, transformer }

end Engine
end ModuleHooks
