import ModuleHooks.Engine.FormatDetection
import ModuleHooks.Package.Targets
import ModuleHooks.Path.FileUrl
import ModuleHooks.Specifier

/-!
Resolving a specifier. The rules are tried in a fixed order, and some of them turn a specifier into
others that are resolved in turn: a file URL into its path, an alias into what it stands for, a
specifier that names nothing into candidates with an extension or an index behind it. The rules are
given as one step that is told how to resolve those; the steps nest to a fixed depth only, which
`resolve` provides.
-/
namespace ModuleHooks

/-- What trying a specifier comes to. A failure that is not of the not-found class is no attempt but
ends the resolution. -/
inductive Attempt
  | found (m : ResolvedModule)
  | missing (e : HookError)
deriving DecidableEq, Repr

namespace Attempt

/-- The resolved module, or the failure that is left. -/
def toExcept : Attempt → Except HookError ResolvedModule
  | found m => .ok m
  | missing e => .error e

end Attempt

namespace Engine

/-- How a specifier is resolved. -/
abbrev Resolver := Text → ResolveContext → Hooked Caches Attempt

/-- The extensions that are tried, in order, when a specifier names no file. -/
def fallbackExtensions : List Text := [".js", ".json", ".ts", ".tsx", ".jsx"].map String.toList

/-- The extensions of importers that prefer typed files. -/
def typedExtensions : List Text := [".ts", ".tsx", ".mts", ".cts"].map String.toList

/-- The extensions of the typed files that stand for a script, in order of preference. -/
def typedCounterparts (ext : Text) : List Text :=
  if ext = ".js".toList then [".ts".toList, ".tsx".toList]
  else if ext = ".jsx".toList then [".tsx".toList]
  else if ext = ".mjs".toList then [".mts".toList]
  else if ext = ".cjs".toList then [".cts".toList]
  else []

def hasTypedImporter (ctx : ResolveContext) : Bool :=
  (ctx.importer.map fun p => typedExtensions.contains (Path.extension p.text)).getD false

/-- The specifiers of the typed files that stand for a specifier. -/
def typedSpecifiers (specifier : Text) (ctx : ResolveContext) : List Text :=
  if hasTypedImporter ctx then
    (typedCounterparts (Path.extension specifier)).map (Path.stem specifier ++ ·)
  else []

/-- The answer of the host as an attempt. -/
def attemptHost (host : Host) : Resolver := fun specifier ctx => do
  match ← (Hooked.askResolve host specifier ctx).attempt with
  | .ok m => return .found m
  | .error e => if e.isNotFound then return .missing e else throw e

/-- Tries specifiers in order up to the first that is found; also the failure of the first one
tried. -/
def tryEach (step : Resolver) (ctx : ResolveContext) :
    List Text → Hooked Caches (Option ResolvedModule × Option HookError)
  | [] => return (none, none)
  | specifier :: rest => do
    match ← step specifier ctx with
    | .found m => return (some m, none)
    | .missing e =>
      let (found, _) ← tryEach step ctx rest
      return (found, some e)

/-- Tries the fallback extensions. When none is found, the failure of the first is reported without
its extension. -/
def tryExtensions (step : Resolver) (specifier : Text) (ctx : ResolveContext) :
    Hooked Caches Attempt := do
  match ← tryEach step ctx.probe (fallbackExtensions.map (specifier ++ ·)) with
  | (some m, _) => return .found m
  | (none, e) =>
    let e := e.getD (.moduleNotFound specifier ctx.importer)
    return .missing (e.dropSuffix (fallbackExtensions.head?.getD []))

/-- Tries the index of a directory; where no slash at the end asks for it, the extensions too. -/
def tryDirectory (step : Resolver) (specifier : Text) (ctx : ResolveContext) :
    Hooked Caches Attempt := do
  let explicit := specifier.endsWith ['/']
  let index := if explicit then "index".toList else "/index".toList
  match ← tryExtensions step (specifier ++ index) ctx with
  | .found m => return .found m
  | .missing e =>
    if explicit then return .missing (e.dropSuffix index)
    else
      match ← tryExtensions step specifier ctx with
      | .found m => return .found m
      | .missing _ => return .missing (e.dropSuffix index)

/-- A module with its format filled in, if the host left that open. -/
def withFormat (fs : FileSystem) (m : ResolvedModule) : Hooked Caches ResolvedModule :=
  match m.format, m.id with
  | none, .file path => return { m with format := ← detectFormat fs path }
  | _, _ => return m

/-- Asks the host, and falls back on the directory's index or the extensions where it finds
nothing and no fallback is under way. -/
def resolveByHost (fs : FileSystem) (host : Host) (step : Resolver) : Resolver :=
  fun specifier ctx => do
    match ← attemptHost host specifier ctx with
    | .found m => return .found (← withFormat fs m)
    | .missing e =>
      if ctx.isProbe then return .missing e
      else
        match e with
        | .directoryImport .. => tryDirectory step specifier ctx
        | .moduleNotFound .. =>
          match ← tryExtensions step specifier ctx with
          | .found m => return .found m
          | .missing _ => return .missing e
        | _ => return .missing e

/-- The candidates of the paths mapping: none behind an alias or from inside a dependency. -/
def mappedSpecifiers (engine : Engine) (specifier : Text) (ctx : ResolveContext) : List Text :=
  if ctx.aliasHops = 0 && !ctx.importerInDependency then
    ((engine.paths.map (·.candidates specifier)).getD []).map Path.toSlash
  else []

/-- Resolves a path or the name of a package: a slash at the end asks for a directory; a package may
be mapped; a script may have a typed file; and the host decides. -/
def resolvePlain (engine : Engine) (fs : FileSystem) (host : Host) (step : Resolver)
    (kind : SpecifierKind) : Resolver := fun specifier ctx => do
  if specifier.endsWith ['/'] then tryDirectory step specifier ctx
  else
    let mapped := if kind = .bare then mappedSpecifiers engine specifier ctx else []
    match ← tryEach step ctx.aliased mapped with
    | (some m, _) => return .found m
    | (none, _) =>
      match ← tryEach step ctx.probe (typedSpecifiers specifier ctx) with
      | (some m, _) => return .found m
      | (none, _) => resolveByHost fs host step specifier ctx

/-- What an alias for the root stands for. -/
def expandTilde (root : Path) (specifier : Text) : Except HookError Text :=
  let root := Text.trimEndOf '/' root.toSlash
  match specifier.tail with
  | [] => .ok root
  | '/' :: rest => .ok (root ++ '/' :: rest)
  | _ => .error (.unresolvedAlias specifier .tildeGrammar)

/-- The aggregate that a glob stands for. -/
def resolveGlob (specifier : Text) (ctx : ResolveContext) : Except HookError ResolvedModule :=
  match ctx.importerDirectory with
  | none => .error (.unresolvedAlias specifier .globWithoutImporter)
  | some directory =>
    .ok { id := .virtual ⟨specifier, directory, ctx.kind⟩
          format := some .module
          shortCircuit := true }

/-- The slug and the subpath of a workspace specifier, given what follows its namespace. -/
def splitSlug (rest : Text) : Text × Text :=
  match Text.cutAt? '/' rest with
  | some (slug, sub) => (slug, '.' :: '/' :: sub)
  | none => (rest, ['.'])

/-- The directory of the package with a slug. -/
def packageDirectory (engine : Engine) (specifier slug : Text) : Except HookError Path :=
  if slug.isEmpty then .error (.unresolvedAlias specifier .missingSlug)
  else
    match engine.workspace with
    | none => .error (.unresolvedAlias specifier .noPackages)
    | some table =>
      match table.directory? slug with
      | none =>
        .error (.unresolvedAlias specifier
          (.unknownPackage engine.config.workspaceNamespace slug))
      | some directory => .ok directory

/-- Resolves a workspace specifier through what its package exports. Whether the file exists is not
looked at. -/
def resolveWorkspace (engine : Engine) (fs : FileSystem) (specifier : Text) (ctx : ResolveContext) :
    Hooked Caches ResolvedModule := do
  let rest := (Specifier.afterNamespace? engine.config.workspaceNamespace specifier).getD []
  let (slug, subpath) := splitSlug rest
  let directory ← liftExcept (packageDirectory engine specifier slug)
  let manifestPath := Manifest.pathIn directory
  match ← manifestAt fs manifestPath with
  | none => throw (.unreadable manifestPath .absent)
  | some manifest =>
    match manifest.exports.bind fun e => Package.exported? e ctx.conditions subpath with
    | none => throw (.exportNotDefined subpath manifestPath)
    | some target =>
      let path := (directory.child target).normalize
      return { id := .file path, format := ← detectFormat fs path, shortCircuit := true }

/-- One step of resolution: what lies among installed dependencies is the host's; all else goes by
the kind of the specifier. -/
def resolveStep (engine : Engine) (fs : FileSystem) (host : Host) (step : Resolver) : Resolver :=
  fun specifier ctx => do
    if Path.crossesDependency specifier then attemptHost host specifier ctx
    else
      match Specifier.classify engine.config.workspaceNamespace specifier with
      | .url =>
        match FileUrl.path? specifier with
        | some path => step path.text ctx
        | none => attemptHost host specifier ctx
      | .tildeAlias => do
        let expanded ← liftExcept (expandTilde engine.config.root specifier)
        step expanded ctx.aliased
      | .glob => return .found (← liftExcept (resolveGlob specifier ctx))
      | .workspaceAlias => return .found (← resolveWorkspace engine fs specifier ctx)
      | kind => resolvePlain engine fs host step kind specifier ctx

/-- Resolution with steps nested at most to a depth; deeper, nothing is found. -/
def resolveWithin (engine : Engine) (fs : FileSystem) (host : Host) : Nat → Resolver
  | 0 => fun specifier ctx => return .missing (.moduleNotFound specifier ctx.importer)
  | depth + 1 => resolveStep engine fs host (resolveWithin engine fs host depth)

/-- A depth that no chain of steps exceeds when the root is an absolute path: an alias or a URL
leads to a path, a path only to probes, and a probe to typed files and to what the paths mapping
has. -/
def nesting : Nat := 16

/-- Resolves a specifier. -/
def resolve (engine : Engine) (fs : FileSystem) (host : Host) (specifier : Text)
    (ctx : ResolveContext) : Hooked Caches ResolvedModule := do
  liftExcept (← resolveWithin engine fs host nesting specifier ctx).toExcept

end Engine
end ModuleHooks
