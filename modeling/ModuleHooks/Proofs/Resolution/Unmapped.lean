import ModuleHooks.FileSystem.Tree
import ModuleHooks.Proofs.Resolution.Turns

/-!
The paths mapping and what is read as a path. A specifier that begins as a path does is never mapped, and
neither is any probe made from it. A dot or two alone are read as a path too, but with an extension behind
them they are read as the name of a package, and that is mapped.
-/
namespace ModuleHooks.Engine

open Specifier

variable {engine : Engine} {paths : Option PathMappings}

/-- The candidates of the mapping are those of another mapping. -/
def MapsAlike (engine : Engine) (paths : Option PathMappings) (specifier : Text) (ctx : ResolveContext) :
    Prop :=
  mappedSpecifiers { engine with paths } specifier ctx = engine.mappedSpecifiers specifier ctx

/-- Mappings that agree wherever they are consulted on the way lead to the same. -/
theorem resolveWithin_paths {P : Visit → Prop}
    (kept : ∀ v turn next, P v → (turn, next) ∈ engine.turns v → P next)
    (alike : ∀ v, P v → engine.consults v = true → engine.MapsAlike paths v.specifier v.ctx)
    (fs : FileSystem) (host : Host) (depth : Nat) (v : Visit) (holds : P v) :
    resolveWithin { engine with paths } fs host depth v.specifier v.ctx =
      engine.resolveWithin fs host depth v.specifier v.ctx := by
  induction depth generalizing v with
  | zero => rfl
  | succ depth ih =>
    calc
      resolveStep { engine with paths } fs host (resolveWithin { engine with paths } fs host depth)
          v.specifier v.ctx
        = engine.resolveStep fs host (resolveWithin { engine with paths } fs host depth)
            v.specifier v.ctx := resolveStep_paths (alike v holds)
      _ = engine.resolveStep fs host (engine.resolveWithin fs host depth) v.specifier v.ctx :=
          resolveStep_congr fun turn next member => ih next (kept v turn next holds member)

/-! ## What a path turns to -/

/-- The specifiers that are read as a path but do not go on as one. -/
def dots : List Text := [".".toList, "..".toList]

/-- A visit on the way from a path, where two mappings make no difference: what begins as a path does;
what is behind an alias or asked for by a dependency; a dot or two; and those with an extension behind
them, if the mappings have the same for them. -/
inductive Indifferent (engine : Engine) (paths : Option PathMappings) : Visit → Prop
  | anchored {v : Visit} (start : Anchored v.specifier) : Indifferent engine paths v
  | shut {v : Visit} (behind : v.ctx.aliasHops ≠ 0 ∨ v.ctx.importerInDependency = true) :
      Indifferent engine paths v
  | dotted {specifier : Text} {ctx : ResolveContext} (bare : specifier ∈ dots)
      (alike : ∀ ext ∈ fallbackExtensions, engine.MapsAlike paths (specifier ++ ext) ctx) :
      Indifferent engine paths ⟨specifier, ctx⟩
  | extended {specifier ext : Text} {ctx : ResolveContext} (bare : specifier ∈ dots)
      (known : ext ∈ fallbackExtensions) (probes : ctx.isProbe = true)
      (alike : ∀ ext ∈ fallbackExtensions, engine.MapsAlike paths (specifier ++ ext) ctx) :
      Indifferent engine paths ⟨specifier ++ ext, ctx⟩

/-- A dot or two, with an extension behind them or not, are neither a URL nor an alias. -/
theorem isPlain_of_dots {specifier : Text} (bare : specifier ∈ dots) :
    isPlain specifier = true ∧ ∀ ext ∈ fallbackExtensions, isPlain (specifier ++ ext) = true := by
  revert specifier
  decide

/-- What is probed for a dot or two begins as a path does, or has an extension behind them. -/
theorem exists_of_mem_probedSpecifiers_dots {specifier probe : Text} {ctx : ResolveContext}
    (bare : specifier ∈ dots) (member : probe ∈ probedSpecifiers specifier ctx) :
    Anchored probe ∨ ∃ ext ∈ fallbackExtensions, probe = specifier ++ ext := by
  have named : ∀ specifier ∈ dots, specifier.endsWith ['/'] = false ∧
      typedCounterparts (Path.extension specifier) = [] ∧
      (specifier = [] ∨ specifier = ['.'] ∨ specifier = ['.', '.']) := by decide
  obtain ⟨file, untyped, lead⟩ := named specifier bare
  obtain tried | ⟨typed, -⟩ := fallback_or_typed member
  · simp only [fallbackSpecifiers, file, Bool.false_eq_true, if_false] at tried
    obtain indexed | extended := List.mem_append.1 tried
    · obtain ⟨ext, known, rfl⟩ := List.mem_map.1 indexed
      exact .inl ⟨specifier, lead, "index".toList ++ ext, by simp⟩
    · obtain ⟨ext, known, rfl⟩ := List.mem_map.1 extended
      exact .inr ⟨ext, known, rfl⟩
  · obtain ⟨-, other, counterpart, -⟩ := counterpart_of_mem_typedSpecifiers typed
    rw [untyped] at counterpart
    exact absurd counterpart List.not_mem_nil

/-- What is probed for them with an extension has another extension. -/
theorem exists_of_mem_probedSpecifiers_extended {specifier ext probe : Text} {ctx : ResolveContext}
    (bare : specifier ∈ dots) (known : ext ∈ fallbackExtensions) (probes : ctx.isProbe = true)
    (member : probe ∈ probedSpecifiers (specifier ++ ext) ctx) :
    ∃ other ∈ fallbackExtensions, probe = specifier ++ other := by
  have others : ∀ specifier ∈ dots, ∀ ext ∈ fallbackExtensions,
      ∀ other ∈ typedCounterparts (Path.extension (specifier ++ ext)),
        other ∈ fallbackExtensions ∧ Path.stem (specifier ++ ext) = specifier := by decide
  have file : (specifier ++ ext).endsWith ['/'] = false := by
    obtain ⟨flat, -, some⟩ := flat_of_mem_fallback known
    exact Path.endsWith_slash_append some flat
  simp only [probedSpecifiers, file, probes, Bool.false_eq_true, if_false, if_true,
    List.append_nil] at member
  obtain ⟨-, other, counterpart, rfl⟩ := counterpart_of_mem_typedSpecifiers member
  obtain ⟨knownToo, stem⟩ := others specifier bare ext known other counterpart
  exact ⟨other, knownToo, by rw [stem]⟩

namespace Indifferent

variable {v next : Visit} {turn : Turn}

/-- Where the mapping is consulted on the way, the mappings have the same. -/
theorem alike (indifferent : Indifferent engine paths v) (consulted : engine.consults v = true) :
    engine.MapsAlike paths v.specifier v.ctx := by
  obtain ⟨kind, -, unaliased, outside⟩ := bare_of_consults consulted
  cases indifferent with
  | anchored start => exact absurd kind (start.classify_ne_bare _)
  | shut behind => exact absurd behind (by simp [unaliased, outside])
  | dotted bare alike =>
    have path : ∀ specifier ∈ dots, (pathKind? specifier).isSome = true := by decide
    have named := path _ bare
    rw [pathKind?_of_bare kind] at named
    exact nomatch named
  | extended bare known probes alike => exact alike _ known

/-- A step from there turns only to such visits. -/
theorem step (indifferent : Indifferent engine paths v) (member : (turn, next) ∈ engine.turns v) :
    Indifferent engine paths next := by
  cases turnsTo_of_mem_turns member with
  | expanded tilde stands => exact .shut (.inl (Nat.succ_ne_zero _))
  | mapped consulted candidate => exact .shut (.inl (Nat.succ_ne_zero _))
  | converted address named =>
    have schemed {s : Text} (plain : isPlain s = true) (address : hasScheme s = true) : False := by
      simp [isPlain, address] at plain
    cases indifferent with
    | anchored start => exact absurd address (by simp [start.hasScheme])
    | shut behind => exact .shut behind
    | dotted bare alike => exact (schemed (isPlain_of_dots bare).1 address).elim
    | extended bare known probes alike =>
      exact (schemed ((isPlain_of_dots bare).2 _ known) address).elim
  | probed plain probe =>
    cases indifferent with
    | anchored start => exact .anchored ((varies_of_mem_probedSpecifiers probe).anchored start)
    | shut behind => exact .shut behind
    | dotted bare alike =>
      obtain start | ⟨ext, known, rfl⟩ := exists_of_mem_probedSpecifiers_dots bare probe
      · exact .anchored start
      · exact .extended bare known rfl alike
    | extended bare known probes alike =>
      obtain ⟨other, knownToo, rfl⟩ := exists_of_mem_probedSpecifiers_extended bare known probes probe
      exact .extended bare knownToo rfl alike

end Indifferent

/-- The paths mapping makes no difference to what is read as a path: the same calls of the host, the same
result and the same caches. For a dot or two alone this holds if the mappings have the same for them with
an extension behind them. -/
theorem resolve_unmapped (engine : Engine) (paths : Option PathMappings) (fs : FileSystem) (host : Host)
    (caches : Caches) (specifier : Text) (ctx : ResolveContext)
    (path : classify engine.config.workspaceNamespace specifier = .relative ∨
      classify engine.config.workspaceNamespace specifier = .absolute)
    (alike : specifier ∈ dots →
      ∀ ext ∈ fallbackExtensions, engine.MapsAlike paths (specifier ++ ext) ctx) :
    (resolve { engine with paths } fs host specifier ctx).outcome caches =
      (engine.resolve fs host specifier ctx).outcome caches := by
  have indifferent : Indifferent engine paths ⟨specifier, ctx⟩ := by
    by_cases bare : specifier ∈ dots
    · exact .dotted bare (alike bare)
    · have more : specifier ≠ ['.'] ∧ specifier ≠ ['.', '.'] := by simpa [dots] using bare
      exact .anchored (anchored_of_classify path more)
  have within : resolveWithin { engine with paths } fs host nesting specifier ctx =
      engine.resolveWithin fs host nesting specifier ctx :=
    resolveWithin_paths (fun _ _ _ => Indifferent.step) (fun _ => Indifferent.alike) fs host nesting
      ⟨specifier, ctx⟩ indifferent
  unfold resolve
  rw [within]

/-- A script in a directory, and a file outside of it. -/
def dottedTree : FileTree :=
  ⟨[(["repo".toList, "src".toList, "a.js".toList], .text []),
    (["repo".toList, "found.ts".toList], .text [])], []⟩

/-- An engine that maps a dot with an extension. -/
def dottedEngine : Engine :=
  withMappings ⟨"/repo".toList⟩ [⟨"..js".toList, ["found.ts".toList]⟩]

/-- The script asks. -/
def dottedContext : ResolveContext := .fresh (some ⟨"/repo/src/a.js".toList⟩) .module

theorem resolve_unmapped_script :
    (classify dottedEngine.config.workspaceNamespace "./a".toList = .relative ∨
      classify dottedEngine.config.workspaceNamespace "./a".toList = .absolute) ∧
      "./a".toList ∉ dots ∧
      (resolve { dottedEngine with paths := none } dottedTree.lexical
          (FileHost.host dottedTree.lexical Path.rootDirectory) "./a".toList dottedContext).outcome {} =
        (dottedEngine.resolve dottedTree.lexical
          (FileHost.host dottedTree.lexical Path.rootDirectory) "./a".toList dottedContext).outcome {} :=
  ⟨.inl (by decide), by decide,
    resolve_unmapped dottedEngine none _ _ {} "./a".toList dottedContext (.inl (by decide))
      fun bare => absurd bare (by decide)⟩

/-- A dot alone is mapped: with an extension behind it, it is the name of a package. -/
theorem resolve_dot_mapped :
    let fs := dottedTree.lexical
    let host := FileHost.host fs Path.rootDirectory
    classify dottedEngine.config.workspaceNamespace ".".toList = .relative ∧
      ((dottedEngine.resolve fs host ".".toList dottedContext).outcome {}).1.toOption =
        some { id := .file ⟨"/repo/found.ts".toList⟩, format := some .commonJs } ∧
      ((resolve { dottedEngine with paths := none } fs host ".".toList
          dottedContext).outcome {}).1.toOption = none := by
  intro fs host
  exact ⟨by decide, by decide +kernel, by decide +kernel⟩

end ModuleHooks.Engine
