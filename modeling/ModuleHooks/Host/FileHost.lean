import ModuleHooks.Engine.State
import ModuleHooks.Package.Targets
import ModuleHooks.Path.FileUrl
import ModuleHooks.Specifier

/-!
A strict host over a file system. It takes paths exactly as they are written, looks packages up in
the dependency directories above the importer, and honours what they export; it tries no extensions
and loads sources as they are.
-/
namespace ModuleHooks.FileHost

/-- The modules that the runtime itself provides. -/
def builtins : List Text :=
  ["assert", "buffer", "child_process", "crypto", "events", "fs", "http", "https", "module", "net",
    "os", "path", "process", "stream", "url", "util", "worker_threads", "zlib"].map String.toList

def builtinScheme : Text := "node:".toList

/-- The name of a provided module, if a specifier names one: by its address, or by a name whose
first segment is one. -/
def builtinName? (specifier : Text) : Option Text :=
  match Text.after? builtinScheme specifier with
  | some name => some name
  | none => if builtins.contains (Text.upTo '/' specifier) then some specifier else none

def fileModule (path : Path) : ResolvedModule := { id := .file path }

/-- The name of a package and the subpath in it. A scope belongs to the name. -/
def splitPackage (specifier : Text) : Text × Option Text :=
  match Text.cutAt? '/' specifier with
  | none => (specifier, none)
  | some (first, rest) =>
    if specifier.head? = some '@' then
      match Text.cutAt? '/' rest with
      | none => (specifier, none)
      | some (second, sub) => (first ++ '/' :: second, some sub)
    else (first, some rest)

variable (fs : FileSystem) (workingDirectory : Path)

def baseDirectory (ctx : ResolveContext) : Path := ctx.importerDirectory.getD workingDirectory

/-- The file at a path, which has to be there as it is. -/
def atPath (specifier : Text) (path : Path) (ctx : ResolveContext) :
    Except HookError ResolvedModule :=
  let path := path.normalize
  if fs.isFile path then .ok (fileModule path)
  else if fs.isDirectory path then .error (.directoryImport specifier ctx.importer)
  else .error (.moduleNotFound specifier ctx.importer)

/-- The manifest at a path, which may be missing. -/
def readManifest (path : Path) : Hooked Unit (Option Manifest) := do
  Hooked.note (.read path)
  liftExcept (Manifest.read fs path)

/-- Resolves a private name by the nearest manifest in directories going up. -/
def privateName (specifier : Text) (ctx : ResolveContext) :
    List Path → Hooked Unit ResolvedModule
  | [] => throw (.moduleNotFound specifier ctx.importer)
  | directory :: above => do
    match ← readManifest fs (Manifest.pathIn directory) with
    | none => privateName specifier ctx above
    | some manifest =>
      match manifest.imports.bind fun i => Package.imported? i ctx.conditions specifier with
      | none => throw (.moduleNotFound specifier ctx.importer)
      | some target => liftExcept (atPath fs specifier (directory.child target) ctx)

/-- The files that may be the main one of a package, in order. -/
def mainCandidates (directory : Path) (manifest : Manifest) : List Path :=
  let declared := (manifest.main.map fun main =>
    let path := directory.child main
    [path, ⟨path.text ++ ".js".toList⟩, ⟨path.text ++ ".json".toList⟩,
      path.child "index.js".toList]).getD []
  (declared ++ [directory.child "index.js".toList, directory.child "index.json".toList]).map
    Path.normalize

/-- The main file of a package without exports. -/
def mainFile (specifier : Text) (directory : Path) (manifest : Manifest) (ctx : ResolveContext) :
    Except HookError ResolvedModule :=
  match (mainCandidates directory manifest).find? fs.isFile with
  | some path => .ok (fileModule path)
  | none => .error (.moduleNotFound specifier ctx.importer)

/-- The file that a package has for a subpath: by its exports, if it has any, and else by the path
in it or its main file. -/
def inPackage (specifier : Text) (directory : Path) (subpath : Option Text) (manifest : Manifest)
    (ctx : ResolveContext) : Except HookError ResolvedModule :=
  match manifest.exports with
  | some exports =>
    let exported := (subpath.map fun s => '.' :: '/' :: s).getD ['.']
    match Package.exported? exports ctx.conditions exported with
    | none => .error (.exportNotDefined exported (Manifest.pathIn directory))
    | some target =>
      let path := (directory.child target).normalize
      if fs.isFile path then .ok (fileModule path)
      else .error (.moduleNotFound specifier ctx.importer)
  | none =>
    match subpath with
    | some sub => atPath fs specifier (directory.child sub) ctx
    | none => mainFile fs specifier directory manifest ctx

/-- Resolves the name of a package by the nearest installation in directories going up. -/
def package (specifier : Text) (ctx : ResolveContext) : List Path → Hooked Unit ResolvedModule
  | [] => throw (.moduleNotFound specifier ctx.importer)
  | directory :: above => do
    let (name, subpath) := splitPackage specifier
    let installed := (directory.child Path.dependencyDirectory).child name
    if directory.fileName? = some Path.dependencyDirectory ∨ ¬fs.isDirectory installed then
      package specifier ctx above
    else
      let manifest := (← readManifest fs (Manifest.pathIn installed)).getD {}
      liftExcept (inPackage fs specifier installed subpath manifest ctx)

def fileScheme : Text := "file:".toList

/-- Resolves a specifier. -/
def resolveSpecifier (specifier : Text) (ctx : ResolveContext) : Hooked Unit ResolvedModule := do
  let base := baseDirectory workingDirectory ctx
  if specifier.isEmpty then throw (.moduleNotFound specifier ctx.importer)
  else
    match builtinName? specifier with
    | some name => return { id := .url (builtinScheme ++ name), format := some .builtin }
    | none =>
      if specifier.startsWith fileScheme then
        match FileUrl.lookupPath? specifier with
        | some path => liftExcept (atPath fs specifier path ctx)
        | none => throw (.host (.invalidFileUrl specifier))
      else if specifier.head? = some '#' then privateName fs specifier ctx base.ancestors
      else if Specifier.isRelative specifier then
        liftExcept (atPath fs specifier (base.child specifier) ctx)
      else if Specifier.isAbsolute specifier then liftExcept (atPath fs specifier ⟨specifier⟩ ctx)
      else if specifier.contains ':' then throw (.host (.unsupportedScheme specifier))
      else package fs specifier ctx base.ancestors

/-- Loads a module: the text of a file, nothing for a provided module. -/
def loadModule (id : ModuleId) (ctx : LoadContext) : Hooked Unit LoadedSource := do
  match id with
  | .file path =>
    match ← Hooked.readText fs path with
    | .error failure => throw (.ofRead path failure)
    | .ok source =>
      let asked := if ctx.asksForJson then some ModuleFormat.json else none
      return ⟨(ctx.format.or asked).or (ModuleFormat.ofExtension? path), some source⟩
  | .url address =>
    if address.startsWith builtinScheme then return ⟨some .builtin, none⟩
    else throw (.host (.unloadableUrl address))
  | .virtual m => throw (.host (.virtualModule m.pattern))

/-- The answer of a computation of the host. -/
def answer {α : Type} (x : Hooked Unit α) : HostAnswer α :=
  let (result, left) := x.outcome ()
  { reads := left.trace.filterMap Event.readPath?, result }

/-- The host over a file system. -/
def host : Host where
  resolve specifier ctx := answer (resolveSpecifier fs workingDirectory specifier ctx)
  load id ctx := answer (loadModule fs id ctx)

end ModuleHooks.FileHost
