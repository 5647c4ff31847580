import ModuleHooks.Engine.FormatDetection
import ModuleHooks.Module.Aggregate

/-!
Loading a module. The host supplies the source; what is done with it depends on the loader, the
extension and the format. First-party sources are compiled or get continuations behind their dynamic
imports; dependencies stay as they are, apart from a conversion that is tried where a script asks
for a module.
-/
namespace ModuleHooks.Engine

/-- The extensions of sources that are always compiled for the module loader. -/
def compiledExtensions : List Text := [".ts", ".tsx", ".mts", ".cts", ".jsx"].map String.toList

/-- The source that a transformation comes to. A map is pointed at the file, remembered, and carried
in the source. -/
def attachMap (path : Path) (output : TransformOutput) : Hooked Caches Text := do
  match output.map with
  | none => return output.code
  | some map =>
    match SourceMap.relocate map path with
    | .error fault => throw (.transform fault)
    | .ok relocated =>
      Hooked.update fun c => { c with sourceMaps := c.sourceMaps.insert path relocated }
      return output.code ++ SourceMap.comment relocated

/-- Takes the output of a transformer. -/
def takeOutput (path : Path) (output : Except TransformFault TransformOutput) :
    Hooked Caches Text := do
  match output with
  | .error fault => throw (.transform fault)
  | .ok output => attachMap path output

/-- Compiles a source under the options that govern its file. -/
def compile (engine : Engine) (fs : FileSystem) (source : Text) (path : Path)
    (target : LoaderKind) : Hooked Caches Text := do
  let compilerOptions ← Hooked.onTsconfigs (TsconfigCache.optionsFor fs engine.tsconfig path)
  takeOutput path (engine.transformer source path { target, compilerOptions })

def made (format : ModuleFormat) (source : Text) : LoadResult := ⟨some format, some source, false⟩

/-- Loads an aggregate, for the loader that asks for it. -/
def loadVirtual (fs : FileSystem) (m : VirtualModule) (ctx : LoadContext) :
    Except HookError LoadResult :=
  (VirtualModule.render fs { m with kind := ctx.kind }).map fun source =>
    ⟨some (ModuleFormat.ofLoader ctx.kind), some source, true⟩

/-- The format of a dependency, nothing where it cannot be told. -/
def dependencyFormat (fs : FileSystem) (path : Path) : Hooked Caches (Option ModuleFormat) := do
  match ← (detectFormat fs path).attempt with
  | .ok format => return format
  | .error _ => return none

/-- Loads a dependency: as it is, unless a script asks for a module that can be converted. -/
def loadDependency (engine : Engine) (fs : FileSystem) (host : Host) (path : Path)
    (ctx : LoadContext) : Hooked Caches LoadResult := do
  let loaded ← Hooked.askLoad host (.file path) ctx
  match ctx.kind, loaded.source with
  | .commonJs, some source =>
    match ← dependencyFormat fs path with
    | some .module =>
      let output := engine.transformer source path { target := .commonJs }
      match ← (takeOutput path output).attempt with
      | .ok code => return made .commonJs code
      | .error _ => return loaded.result
    | _ => return loaded.result
  | _, _ => return loaded.result

/-- A source with continuations behind its dynamic imports, if it has any. -/
def continuedSource? (path : Path) (source : Text) : Hooked Caches (Option Text) := do
  match DynamicImport.continued? source with
  | none => return none
  | some output => return some (← attachMap path output)

/-- Loads a first-party file as a script. -/
def loadCommonJs (engine : Engine) (fs : FileSystem) (host : Host) (path : Path) (ext : Text)
    (ctx : LoadContext) : Hooked Caches LoadResult := do
  let loaded ← Hooked.askLoad host (.file path) ctx
  match loaded.source with
  | none => return loaded.result
  | some source =>
    if ext = ".json".toList then return loaded.result
    else if ext = ".cjs".toList then
      match ← continuedSource? path source with
      | some code => return made .commonJs code
      | none => return loaded.result
    else return made .commonJs (← compile engine fs source path .commonJs)

/-- The circumstances in which a file is loaded as a module: JSON is asked for as such. -/
def moduleContext (ext : Text) (ctx : LoadContext) : LoadContext :=
  if ext = ".json".toList && !ctx.asksForJson then
    ctx.withAttribute LoadContext.typeAttribute ModuleFormat.json.label
  else ctx

/-- Loads a first-party file as a module. -/
def loadAsModule (engine : Engine) (fs : FileSystem) (host : Host) (path : Path) (ext : Text)
    (ctx : LoadContext) : Hooked Caches LoadResult := do
  let ctx := moduleContext ext ctx
  let loaded ← Hooked.askLoad host (.file path) ctx
  match loaded.source with
  | none => return loaded.result
  | some source =>
    if loaded.format = some .json ∨ compiledExtensions.contains ext then
      return made .module (← compile engine fs source path .module)
    else
      let known := loaded.format.or ctx.format
      let format ← if known.isSome then pure known else detectFormat fs path
      if format = some .module then
        match ← continuedSource? path source with
        | some code => return made .module code
        | none => return ⟨format, loaded.source, false⟩
      else return ⟨format, loaded.source, false⟩

/-- Loads a file. A style sheet is the host's; a file without extension is a script that is taken as
it is. -/
def loadFile (engine : Engine) (fs : FileSystem) (host : Host) (path : Path) (ctx : LoadContext) :
    Hooked Caches LoadResult := do
  let ext := Path.extension path.text
  if ext = ".css".toList then return (← Hooked.askLoad host (.file path) ctx).result
  else if ext.isEmpty && ctx.kind = .module then
    match ← Hooked.readText fs path with
    | .error failure => throw (.ofRead path failure)
    | .ok source => return ⟨some .commonJs, some source, true⟩
  else if path.isInsideDependency then loadDependency engine fs host path ctx
  else
    match ctx.kind with
    | .commonJs => loadCommonJs engine fs host path ext ctx
    | .module => loadAsModule engine fs host path ext ctx

/-- Loads a module. -/
def load (engine : Engine) (fs : FileSystem) (host : Host) (id : ModuleId) (ctx : LoadContext) :
    Hooked Caches LoadResult := do
  match id with
  | .virtual m => liftExcept (loadVirtual fs m ctx)
  | .url _ => return (← Hooked.askLoad host id ctx).result
  | .file path => loadFile engine fs host path ctx

end ModuleHooks.Engine
