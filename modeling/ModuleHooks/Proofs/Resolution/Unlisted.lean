import ModuleHooks.Proofs.Resolution.Unmapped

/-!
Names of packages that the paths mapping has nothing for. The fallbacks make other names from such a name,
and those are looked up in the mapping again. They can be listed beforehand: what is probed for the name,
and the typed files that stand for these probes. If the mapping has nothing for them either, it makes no
difference; if it has something, a name is mapped that no entry lists.
-/
namespace ModuleHooks.Engine

open Specifier

variable {engine : Engine} {specifier : Text} {ctx : ResolveContext}

/-- The mapping, if there is one, has nothing for a specifier. -/
def IsUnlisted (engine : Engine) (specifier : Text) : Prop :=
  ∀ mappings, engine.paths = some mappings → mappings.candidates specifier = []

/-- All specifiers that are made from one by the fallbacks and by the promotion to typed files. -/
def derivedSpecifiers (specifier : Text) (ctx : ResolveContext) : List Text :=
  probedSpecifiers specifier ctx ++
    (probedSpecifiers specifier ctx).flatMap fun probe => typedSpecifiers probe ctx

/-- Without an entry, the mapping is as good as none. -/
theorem IsUnlisted.mapsAlike (unlisted : engine.IsUnlisted specifier) (ctx : ResolveContext) :
    engine.MapsAlike none specifier ctx := by
  have nothing : (engine.paths.map (·.candidates specifier)).getD [] = [] := by
    cases declared : engine.paths with
    | none => rfl
    | some mappings => exact unlisted mappings declared
  unfold MapsAlike mappedSpecifiers
  rw [nothing]
  rfl

/-- The name of a package is neither a URL nor an alias for the root. -/
theorem isPlain_of_bare {ns : Text} (bare : classify ns specifier = .bare) : isPlain specifier = true := by
  have located : classify ns specifier ≠ .url := by simp [bare]
  have unaliased : classify ns specifier ≠ .tildeAlias := by simp [bare]
  exact isPlain_of_classify located unaliased

/-- What is probed for a probe are typed files that stand for it. -/
theorem probedSpecifiers_probe {probe : Text} (member : probe ∈ probedSpecifiers specifier ctx) :
    probedSpecifiers probe ctx.probe = typedSpecifiers probe ctx := by
  have file := endsWith_of_mem_probedSpecifiers member
  unfold probedSpecifiers
  rw [file, if_neg Bool.false_ne_true]
  exact List.append_nil _

/-- A visit on the way from the name of a package: the name, what is made from it, and all that is behind
an alias or asked for by a dependency. -/
inductive Unlisted (specifier : Text) (ctx : ResolveContext) : Visit → Prop
  | start : Unlisted specifier ctx ⟨specifier, ctx⟩
  | probe {probe : Text} (member : probe ∈ probedSpecifiers specifier ctx) :
      Unlisted specifier ctx ⟨probe, ctx.probe⟩
  | typed {probe typed : Text} (member : probe ∈ probedSpecifiers specifier ctx)
      (stands : typed ∈ typedSpecifiers probe ctx) : Unlisted specifier ctx ⟨typed, ctx.probe⟩
  | shut {v : Visit} (behind : v.ctx.aliasHops ≠ 0 ∨ v.ctx.importerInDependency = true) :
      Unlisted specifier ctx v

namespace Unlisted

variable {v next : Visit} {turn : Turn}

/-- What is visited in the open is no URL. -/
theorem shut_of_hasScheme (plain : isPlain specifier = true) (unlisted : Unlisted specifier ctx v)
    (address : hasScheme v.specifier = true) :
    v.ctx.aliasHops ≠ 0 ∨ v.ctx.importerInDependency = true := by
  have schemeless {s : Text} (plain : isPlain s = true) : hasScheme s = false := by
    cases scheme : hasScheme s with
    | false => rfl
    | true => simp [isPlain, scheme] at plain
  cases unlisted with
  | start => exact absurd address (by simp [schemeless plain])
  | probe member =>
    have further := (varies_of_mem_probedSpecifiers member).isPlain plain
    exact absurd address (by simp [schemeless further])
  | @typed probe typed member stands =>
    have further := (varies_of_mem_probedSpecifiers member).isPlain plain
    have furthest := (varies_of_mem_probedSpecifiers
      (by rwa [probedSpecifiers_probe member] : typed ∈ probedSpecifiers probe ctx.probe)).isPlain further
    exact absurd address (by simp [schemeless furthest])
  | shut behind => exact behind

/-- A step from there turns only to such visits. -/
theorem step (plain : isPlain specifier = true) (unlisted : Unlisted specifier ctx v)
    (member : (turn, next) ∈ engine.turns v) : Unlisted specifier ctx next := by
  cases turnsTo_of_mem_turns member with
  | expanded tilde stands => exact .shut (.inl (Nat.succ_ne_zero _))
  | mapped consulted candidate => exact .shut (.inl (Nat.succ_ne_zero _))
  | converted address named =>
    have behind := unlisted.shut_of_hasScheme plain address
    exact .shut behind
  | probed _ derived =>
    cases unlisted with
    | start => exact .probe derived
    | probe first =>
      rw [probedSpecifiers_probe first] at derived
      exact .typed first derived
    | typed first stands =>
      -- A typed file is not stood for by others, and it has no fallbacks.
      obtain ⟨ext, known, rfl, -⟩ := exists_of_mem_typedSpecifiers stands
      obtain ⟨flat, -, some⟩ :=
        flat_of_mem_extensions (List.mem_append_left fallbackExtensions known)
      unfold probedSpecifiers at derived
      rw [Path.endsWith_slash_append some flat, typedSpecifiers_typed stands] at derived
      exact nomatch derived
    | shut behind => exact .shut behind

/-- Where the mapping is consulted on the way, it has nothing. -/
theorem mapsAlike (named : engine.IsUnlisted specifier)
    (derived : ∀ probe ∈ derivedSpecifiers specifier ctx,
      engine.consults ⟨probe, ctx.probe⟩ = true → engine.IsUnlisted probe)
    (unlisted : Unlisted specifier ctx v) (consulted : engine.consults v = true) :
    engine.MapsAlike none v.specifier v.ctx := by
  cases unlisted with
  | start => exact named.mapsAlike ctx
  | probe member =>
    have listed := derived _ (List.mem_append_left _ member) consulted
    exact listed.mapsAlike ctx.probe
  | typed member stands =>
    have listed :=
      derived _ (List.mem_append_right _ (List.mem_flatMap.2 ⟨_, member, stands⟩)) consulted
    exact listed.mapsAlike ctx.probe
  | shut behind =>
    obtain ⟨-, -, unaliased, outside⟩ := bare_of_consults consulted
    exact absurd behind (by simp [unaliased, outside])

end Unlisted

/-- A package that the paths mapping has nothing for is resolved as if there were no mapping: the same
calls of the host, the same result and the same caches. For this the mapping must have nothing for the
specifiers that are made from it either, where it is consulted for them. -/
theorem resolve_unlisted (engine : Engine) (fs : FileSystem) (host : Host) (caches : Caches)
    (specifier : Text) (ctx : ResolveContext)
    (bare : classify engine.config.workspaceNamespace specifier = .bare)
    (named : engine.IsUnlisted specifier)
    (derived : ∀ probe ∈ derivedSpecifiers specifier ctx,
      engine.consults ⟨probe, ctx.probe⟩ = true → engine.IsUnlisted probe) :
    (resolve { engine with paths := none } fs host specifier ctx).outcome caches =
      (engine.resolve fs host specifier ctx).outcome caches := by
  have plain := isPlain_of_bare bare
  have within : resolveWithin { engine with paths := none } fs host nesting specifier ctx =
      engine.resolveWithin fs host nesting specifier ctx :=
    resolveWithin_paths (fun _ _ _ => Unlisted.step plain) (fun _ => Unlisted.mapsAlike named derived)
      fs host nesting ⟨specifier, ctx⟩ .start
  unfold resolve
  rw [within]

/-- An engine that maps a script, and by that a name that has no entry. -/
def extendedEngine : Engine :=
  withMappings ⟨"/repo".toList⟩ [⟨"pkg.js".toList, ["found.ts".toList]⟩]

/-- A script that asks for a package. -/
def extendedContext : ResolveContext := .fresh (some ⟨"/repo/a.js".toList⟩) .module

/-- The file that the script is mapped to, and nothing else. -/
def extendedTree : FileTree := ⟨[(["repo".toList, "found.ts".toList], .text [])], []⟩

theorem isUnlisted_extendedEngine {specifier : Text}
    (nothing : (PathMappings.candidates ⟨⟨"/repo".toList⟩, false, [⟨"pkg.js".toList, ["found.ts".toList]⟩]⟩
      specifier) = []) : extendedEngine.IsUnlisted specifier := by
  intro mappings declared
  obtain rfl := Option.some.inj declared
  exact nothing

theorem resolve_unlisted_other :
    let fs := extendedTree.lexical
    let host := FileHost.host fs Path.rootDirectory
    classify extendedEngine.config.workspaceNamespace "other".toList = .bare ∧
      extendedEngine.IsUnlisted "other".toList ∧
      (∀ probe ∈ derivedSpecifiers "other".toList extendedContext,
        extendedEngine.consults ⟨probe, extendedContext.probe⟩ = true → extendedEngine.IsUnlisted probe) ∧
      (resolve { extendedEngine with paths := none } fs host "other".toList extendedContext).outcome {} =
        (extendedEngine.resolve fs host "other".toList extendedContext).outcome {} := by
  intro fs host
  have bare : classify extendedEngine.config.workspaceNamespace "other".toList = .bare := by decide
  have named : extendedEngine.IsUnlisted "other".toList := isUnlisted_extendedEngine (by decide)
  have derived : ∀ probe ∈ derivedSpecifiers "other".toList extendedContext,
      extendedEngine.consults ⟨probe, extendedContext.probe⟩ = true → extendedEngine.IsUnlisted probe := by
    have nothing : ∀ probe ∈ derivedSpecifiers "other".toList extendedContext,
        PathMappings.candidates ⟨⟨"/repo".toList⟩, false, [⟨"pkg.js".toList, ["found.ts".toList]⟩]⟩
          probe = [] := by decide +kernel
    exact fun probe member _ => isUnlisted_extendedEngine (nothing probe member)
  exact ⟨bare, named, derived,
    resolve_unlisted extendedEngine fs host {} "other".toList extendedContext bare named derived⟩

/-- A name without an entry is mapped by the entry of a script: with an extension behind it, it is that. -/
theorem resolve_unlisted_mapped :
    let fs := extendedTree.lexical
    let host := FileHost.host fs Path.rootDirectory
    classify extendedEngine.config.workspaceNamespace "pkg".toList = .bare ∧
      extendedEngine.paths.map (·.candidates "pkg".toList) = some [] ∧
      ((extendedEngine.resolve fs host "pkg".toList extendedContext).outcome {}).1.toOption =
        some { id := .file ⟨"/repo/found.ts".toList⟩, format := some .commonJs } ∧
      ((resolve { extendedEngine with paths := none } fs host "pkg".toList
          extendedContext).outcome {}).1.toOption = none := by
  intro fs host
  exact ⟨by decide, by decide, by decide +kernel, by decide +kernel⟩

end ModuleHooks.Engine
