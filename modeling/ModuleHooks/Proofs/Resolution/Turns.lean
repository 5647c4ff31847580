import ModuleHooks.Proofs.Resolution.Probes

/-!
The specifiers that a step turns to. Which ones it may resolve in turn is settled by the specifier, its
circumstances and the settings of the engine; the files, the caches and the host only decide how far it
goes through them. `resolveStep_congr` says that a step turns to no others, and `resolveStep_paths` that
the paths mapping matters to a step only where it is consulted.
-/
namespace ModuleHooks

open Specifier

/-- A specifier that is resolved, and the circumstances in which it is. -/
structure Visit where
  specifier : Text
  ctx : ResolveContext
deriving DecidableEq

/-- How a step comes to resolve another specifier. -/
inductive Turn
  /-- A file URL was converted into its path. -/
  | converted
  /-- An alias for the root was expanded. -/
  | expanded
  /-- A candidate of the paths mapping is tried. -/
  | mapped
  /-- A typed file, an index or an extension is tried. -/
  | probed
deriving DecidableEq

namespace Engine

/-- Whether a step consults the paths mapping, if there is one. -/
def consults (engine : Engine) (v : Visit) : Bool :=
  !Path.crossesDependency v.specifier &&
    decide (classify engine.config.workspaceNamespace v.specifier = .bare) &&
    !v.specifier.endsWith ['/'] && decide (v.ctx.aliasHops = 0) && !v.ctx.importerInDependency

/-- What a path or the name of a package turns to: candidates of the mapping, and then probes. -/
def plainTurns (engine : Engine) (v : Visit) : List (Turn × Visit) :=
  (if engine.consults v then engine.mappedSpecifiers v.specifier v.ctx else []).map
      (fun s => (.mapped, ⟨s, v.ctx.aliased⟩)) ++
    (probedSpecifiers v.specifier v.ctx).map fun s => (.probed, ⟨s, v.ctx.probe⟩)

/-- What a step may turn to, in the order in which it does. -/
def turns (engine : Engine) (v : Visit) : List (Turn × Visit) :=
  if Path.crossesDependency v.specifier then []
  else
    match classify engine.config.workspaceNamespace v.specifier with
    | .url => (FileUrl.path? v.specifier).toList.map fun path => (.converted, ⟨path.text, v.ctx⟩)
    | .tildeAlias =>
      match expandTilde engine.config.root v.specifier with
      | .ok expanded => [(.expanded, ⟨expanded, v.ctx.aliased⟩)]
      | .error _ => []
    | .glob | .workspaceAlias => []
    | .relative | .absolute | .bare => engine.plainTurns v

/-- The ways in which a step turns to another specifier. -/
inductive TurnsTo (engine : Engine) (v : Visit) : Turn → Visit → Prop
  | converted {path : Path} (address : hasScheme v.specifier = true)
      (named : FileUrl.path? v.specifier = some path) :
      TurnsTo engine v .converted ⟨path.text, v.ctx⟩
  | expanded {specifier : Text} (tilde : v.specifier.head? = some '~')
      (stands : expandTilde engine.config.root v.specifier = .ok specifier) :
      TurnsTo engine v .expanded ⟨specifier, v.ctx.aliased⟩
  | mapped {specifier : Text} (consulted : engine.consults v = true)
      (candidate : specifier ∈ engine.mappedSpecifiers v.specifier v.ctx) :
      TurnsTo engine v .mapped ⟨specifier, v.ctx.aliased⟩
  | probed {specifier : Text} (plain : isPlain v.specifier = true)
      (probe : specifier ∈ probedSpecifiers v.specifier v.ctx) :
      TurnsTo engine v .probed ⟨specifier, v.ctx.probe⟩

section

variable {engine : Engine} {v next : Visit} {turn : Turn}

theorem turnsTo_of_mem_plainTurns (plain : isPlain v.specifier = true)
    (member : (turn, next) ∈ engine.plainTurns v) : engine.TurnsTo v turn next := by
  obtain mapped | probed := List.mem_append.1 member
  · obtain ⟨specifier, candidate, same⟩ := List.mem_map.1 mapped
    cases same
    cases consulted : engine.consults v with
    | true => exact .mapped consulted (by simpa [consulted] using candidate)
    | false => simp [consulted] at candidate
  · obtain ⟨specifier, probe, same⟩ := List.mem_map.1 probed
    cases same
    exact .probed plain probe

theorem turnsTo_of_mem_turns (member : (turn, next) ∈ engine.turns v) : engine.TurnsTo v turn next := by
  unfold turns at member
  split at member
  case isTrue => exact nomatch member
  case isFalse =>
    split at member
    case h_1 kind =>
      obtain ⟨path, named, same⟩ := List.mem_map.1 member
      cases same
      exact .converted (hasScheme_of_classify kind) (by simpa using named)
    case h_2 kind =>
      cases stands : expandTilde engine.config.root v.specifier with
      | ok expanded =>
        simp only [stands, List.mem_singleton] at member
        cases member
        exact .expanded (head?_of_classify kind) stands
      | error e =>
        simp only [stands] at member
        exact nomatch member
    case h_3 => exact nomatch member
    case h_4 => exact nomatch member
    case h_5 kind | h_6 kind | h_7 kind =>
      have located : classify engine.config.workspaceNamespace v.specifier ≠ .url := by simp [kind]
      have unaliased : classify engine.config.workspaceNamespace v.specifier ≠ .tildeAlias := by
        simp [kind]
      exact turnsTo_of_mem_plainTurns (isPlain_of_classify located unaliased) member

/-- The mapping is consulted only for the name of a package, behind no alias. -/
theorem bare_of_consults (consulted : engine.consults v = true) :
    classify engine.config.workspaceNamespace v.specifier = .bare ∧
      v.specifier.endsWith ['/'] = false ∧ v.ctx.aliasHops = 0 ∧ v.ctx.importerInDependency = false := by
  simp only [consults, Bool.and_eq_true, decide_eq_true_eq, Bool.not_eq_true'] at consulted
  obtain ⟨⟨⟨⟨-, bare⟩, file⟩, unaliased⟩, outside⟩ := consulted
  exact ⟨bare, file, unaliased, outside⟩

/-- Only where the mapping is consulted it has candidates. -/
theorem consults_of_mem_mappedSpecifiers {s : Text}
    (clear : Path.crossesDependency v.specifier = false)
    (bare : classify engine.config.workspaceNamespace v.specifier = .bare)
    (file : v.specifier.endsWith ['/'] = false)
    (candidate : s ∈ engine.mappedSpecifiers v.specifier v.ctx) : engine.consults v = true := by
  unfold mappedSpecifiers at candidate
  split at candidate
  case isTrue unaliased =>
    simp only [Bool.and_eq_true, decide_eq_true_eq, Bool.not_eq_true'] at unaliased
    simp [consults, clear, bare, file, unaliased]
  case isFalse => exact nomatch candidate

end

/-! ## A step turns to nothing else -/

section Congruence

variable {engine : Engine} {fs : FileSystem} {host : Host} {step step' : Resolver} {specifier : Text}
  {ctx : ResolveContext}

theorem tryEach_congr {specifiers : List Text} (agree : ∀ s ∈ specifiers, step s ctx = step' s ctx) :
    tryEach step ctx specifiers = tryEach step' ctx specifiers := by
  induction specifiers with
  | nil => rfl
  | cons s rest ih =>
    obtain ⟨first, others⟩ := List.forall_mem_cons.1 agree
    rw [tryEach, tryEach, first, ih others]

theorem tryExtensions_congr
    (agree : ∀ ext ∈ fallbackExtensions, step (specifier ++ ext) ctx.probe = step' (specifier ++ ext) ctx.probe) :
    tryExtensions step specifier ctx = tryExtensions step' specifier ctx := by
  unfold tryExtensions
  rw [tryEach_congr]
  intro s member
  obtain ⟨ext, known, rfl⟩ := List.mem_map.1 member
  exact agree ext known

theorem tryDirectory_congr
    (agree : ∀ s ∈ fallbackSpecifiers specifier, step s ctx.probe = step' s ctx.probe) :
    tryDirectory step specifier ctx = tryDirectory step' specifier ctx := by
  unfold tryDirectory
  by_cases slashed : specifier.endsWith ['/'] = true
  · simp only [fallbackSpecifiers, slashed, if_true] at agree ⊢
    rw [tryExtensions_congr fun ext known => agree _ (List.mem_map_of_mem known)]
  · have file : specifier.endsWith ['/'] = false := by simpa using slashed
    simp only [fallbackSpecifiers, file, Bool.false_eq_true, if_false] at agree ⊢
    have index : tryExtensions step (specifier ++ "/index".toList) ctx =
        tryExtensions step' (specifier ++ "/index".toList) ctx :=
      tryExtensions_congr fun ext known =>
        agree _ (List.mem_append_left _ (List.mem_map_of_mem known))
    have extended : tryExtensions step specifier ctx = tryExtensions step' specifier ctx :=
      tryExtensions_congr fun ext known =>
        agree _ (List.mem_append_right _ (List.mem_map_of_mem known))
    rw [index, extended]

theorem resolveByHost_congr (file : specifier.endsWith ['/'] = false)
    (agree : ctx.isProbe = false → ∀ s ∈ fallbackSpecifiers specifier, step s ctx.probe = step' s ctx.probe) :
    resolveByHost fs host step specifier ctx = resolveByHost fs host step' specifier ctx := by
  unfold resolveByHost
  refine bind_congr fun attempt => ?_
  cases attempt with
  | found m => rfl
  | missing e =>
    cases fresh : ctx.isProbe with
    | true => simp only [if_true]
    | false =>
      have directory := tryDirectory_congr (agree fresh)
      have extensions : tryExtensions step specifier ctx = tryExtensions step' specifier ctx := by
        refine tryExtensions_congr fun ext known => agree fresh _ ?_
        simp only [fallbackSpecifiers, file, Bool.false_eq_true, if_false]
        exact List.mem_append_right _ (List.mem_map_of_mem known)
      simp only [directory, extensions]

theorem resolvePlain_congr {kind : SpecifierKind}
    (mapped : kind = .bare → specifier.endsWith ['/'] = false →
      ∀ s ∈ engine.mappedSpecifiers specifier ctx, step s ctx.aliased = step' s ctx.aliased)
    (probed : ∀ s ∈ probedSpecifiers specifier ctx, step s ctx.probe = step' s ctx.probe) :
    resolvePlain engine fs host step kind specifier ctx =
      resolvePlain engine fs host step' kind specifier ctx := by
  unfold resolvePlain
  by_cases slashed : specifier.endsWith ['/'] = true
  · simp only [probedSpecifiers, slashed, if_true] at probed ⊢
    exact tryDirectory_congr probed
  · have file : specifier.endsWith ['/'] = false := by simpa using slashed
    simp only [probedSpecifiers, file, Bool.false_eq_true, if_false] at probed ⊢
    have first : ∀ s ∈ if kind = .bare then engine.mappedSpecifiers specifier ctx else [],
        step s ctx.aliased = step' s ctx.aliased := by
      intro s member
      split at member
      case isTrue bare => exact mapped bare file s member
      case isFalse => exact nomatch member
    have second : ∀ s ∈ typedSpecifiers specifier ctx, step s ctx.probe = step' s ctx.probe :=
      fun s member => probed s (List.mem_append_left _ member)
    have third : resolveByHost fs host step specifier ctx =
        resolveByHost fs host step' specifier ctx := by
      refine resolveByHost_congr file fun fresh s member => probed s (List.mem_append_right _ ?_)
      simpa [fresh] using member
    rw [tryEach_congr first, tryEach_congr second, third]

/-- Two ways of resolving what a step turns to make the same step if they agree on all of it. -/
theorem resolveStep_congr
    (agree : ∀ turn next, (turn, next) ∈ engine.turns ⟨specifier, ctx⟩ →
      step next.specifier next.ctx = step' next.specifier next.ctx) :
    engine.resolveStep fs host step specifier ctx =
      engine.resolveStep fs host step' specifier ctx := by
  unfold resolveStep
  unfold turns at agree
  cases clear : Path.crossesDependency specifier with
  | true => rfl
  | false =>
    simp only [clear, Bool.false_eq_true, if_false] at agree ⊢
    cases kind : classify engine.config.workspaceNamespace specifier with
    | url =>
      simp only [kind] at agree
      cases named : FileUrl.path? specifier with
      | none => rfl
      | some path => exact agree .converted ⟨path.text, ctx⟩ (by simp [named])
    | tildeAlias =>
      simp only [kind] at agree
      cases stands : expandTilde engine.config.root specifier with
      | error e => rfl
      | ok expanded => exact agree .expanded ⟨expanded, ctx.aliased⟩ (by simp [stands])
    | glob => rfl
    | workspaceAlias => rfl
    | _ =>
      simp only [kind, plainTurns] at agree
      refine resolvePlain_congr (fun bare file s candidate => ?_) fun s probe => ?_
      · have consulted := consults_of_mem_mappedSpecifiers (v := ⟨specifier, ctx⟩) clear
          (kind.trans bare) file candidate
        rw [consulted, if_pos rfl] at agree
        exact agree .mapped ⟨s, ctx.aliased⟩ (List.mem_append_left _ (List.mem_map_of_mem candidate))
      · exact agree .probed ⟨s, ctx.probe⟩ (List.mem_append_right _ (List.mem_map_of_mem probe))

/-- A step is the same with another mapping that has the same candidates, if it consults it at all. -/
theorem resolveStep_paths {paths : Option PathMappings}
    (alike : engine.consults ⟨specifier, ctx⟩ = true →
      mappedSpecifiers { engine with paths } specifier ctx =
        engine.mappedSpecifiers specifier ctx) :
    resolveStep { engine with paths } fs host step specifier ctx =
      engine.resolveStep fs host step specifier ctx := by
  unfold resolveStep
  cases clear : Path.crossesDependency specifier with
  | true => rfl
  | false =>
    simp only [Bool.false_eq_true, if_false]
    cases kind : classify engine.config.workspaceNamespace specifier with
    | bare =>
      unfold resolvePlain
      by_cases slashed : specifier.endsWith ['/'] = true
      · simp only [slashed, if_true]
      · have file : specifier.endsWith ['/'] = false := by simpa using slashed
        have same : mappedSpecifiers { engine with paths } specifier ctx =
            engine.mappedSpecifiers specifier ctx := by
          cases unaliased : decide (ctx.aliasHops = 0) && !ctx.importerInDependency with
          | true => exact alike (by simpa [consults, clear, kind, file] using unaliased)
          | false => simp only [mappedSpecifiers, unaliased, Bool.false_eq_true, if_false]
        simp only [same]
    | _ => rfl

end Congruence

/-- An engine at a root without a workspace or a configuration, with a mapping seen from the root. -/
def withMappings (root : Path) (mappings : List PathMapping) : Engine :=
  ⟨{ root }, none, some ⟨root, false, mappings⟩, none, Transformer.passthrough⟩

end Engine

end ModuleHooks
