import ModuleHooks.Engine.Resolution
import ModuleHooks.Proofs.Computation

/-!
The plan of a resolution. Which specifiers the host is asked for, and in which order, is settled by the
settings of the engine alone; a plan says it as a tree that goes on as long as the host finds nothing.
`run_within` shows that resolving follows the plan, and `runFrom_run` that a plan is followed in two parts:
a dialogue with the host, which the caches have no say in, and one conclusion behind it. What a plan may
conclude with is what the specifier there is read as (`leads_within`).
-/
namespace ModuleHooks

/-- What a resolution comes to without the host. -/
inductive Leaf
  /-- The specifier is a glob. -/
  | aggregate (specifier : Text) (ctx : ResolveContext)
  /-- The specifier names a package of the workspace. -/
  | workspace (specifier : Text) (ctx : ResolveContext)
  /-- The specifier stands for nothing. -/
  | failed (e : HookError)
  /-- Nothing was found. -/
  | missing (e : HookError)

/-- What is asked of the host as long as it finds nothing; `completes` says whether the format of a
module that it finds is filled in. -/
inductive Plan
  | ask (specifier : Text) (ctx : ResolveContext) (completes : Bool) (next : HookError → Plan)
  | stop (leaf : Leaf)

/-- Where the dialogue with the host ends. -/
inductive Ending
  /-- The host found a module. -/
  | answered (m : ResolvedModule) (completes : Bool)
  /-- The host failed otherwise than by finding nothing. -/
  | refused (e : HookError)
  /-- The host was asked all there is to ask, and found nothing. -/
  | exhausted (leaf : Leaf)

/-- Carries out what is left to do. -/
def Leaf.conclude (engine : Engine) (fs : FileSystem) : Leaf → Hooked Caches Attempt
  | aggregate specifier ctx => return .found (← liftExcept (Engine.resolveGlob specifier ctx))
  | workspace specifier ctx => return .found (← engine.resolveWorkspace fs specifier ctx)
  | failed e => throw e
  | missing e => return .missing e

/-- Concludes a dialogue. -/
def Ending.conclude (engine : Engine) (fs : FileSystem) : Ending → Hooked Caches Attempt
  | answered m completes => return .found (← if completes then Engine.withFormat fs m else pure m)
  | refused e => throw e
  | exhausted leaf => leaf.conclude engine fs

namespace Plan

/-- How plans are made for the specifiers that a step turns to. -/
abbrev Planner := Text → ResolveContext → Plan

/-- Goes on with another plan where nothing was found. -/
def orElse : Plan → (HookError → Plan) → Plan
  | ask specifier ctx completes next, other =>
    ask specifier ctx completes fun e => (next e).orElse other
  | stop (.missing e), other => other e
  | stop leaf, _ => stop leaf

/-- Tries specifiers in order; `next` is told the failure of the first. -/
def each (planner : Planner) (ctx : ResolveContext) : List Text → (Option HookError → Plan) → Plan
  | [], next => next none
  | specifier :: rest, next =>
    (planner specifier ctx).orElse fun e => each planner ctx rest fun _ => next (some e)

/-- Tries the fallback extensions; `next` is told the failure that is reported for them. -/
def extensions (planner : Planner) (specifier : Text) (ctx : ResolveContext)
    (next : HookError → Plan) : Plan :=
  each planner ctx.probe (Engine.fallbackExtensions.map (specifier ++ ·)) fun e =>
    next ((e.getD (.moduleNotFound specifier ctx.importer)).dropSuffix
      (Engine.fallbackExtensions.head?.getD []))

/-- Tries the index of a directory. -/
def directory (planner : Planner) (specifier : Text) (ctx : ResolveContext) : Plan :=
  let explicit := specifier.endsWith ['/']
  let index := if explicit then "index".toList else "/index".toList
  extensions planner (specifier ++ index) ctx fun e =>
    if explicit then stop (.missing (e.dropSuffix index))
    else extensions planner specifier ctx fun _ => stop (.missing (e.dropSuffix index))

/-- Asks the host and falls back where it finds nothing. -/
def byHost (planner : Planner) : Planner := fun specifier ctx =>
  ask specifier ctx true fun e =>
    if ctx.isProbe then stop (.missing e)
    else
      match e with
      | .directoryImport .. => directory planner specifier ctx
      | .moduleNotFound .. => extensions planner specifier ctx fun _ => stop (.missing e)
      | _ => stop (.missing e)

/-- The plan for a path or the name of a package. -/
def plain (engine : Engine) (planner : Planner) (kind : SpecifierKind) : Planner :=
  fun specifier ctx =>
    if specifier.endsWith ['/'] then directory planner specifier ctx
    else
      each planner ctx.aliased
        (if kind = .bare then engine.mappedSpecifiers specifier ctx else []) fun _ =>
        each planner ctx.probe (Engine.typedSpecifiers specifier ctx) fun _ =>
          byHost planner specifier ctx

/-- One step of a plan. -/
def step (engine : Engine) (planner : Planner) : Planner := fun specifier ctx =>
  if Path.crossesDependency specifier then ask specifier ctx false (stop <| .missing ·)
  else
    match Specifier.classify engine.config.workspaceNamespace specifier with
    | .url =>
      match FileUrl.path? specifier with
      | some path => planner path.text ctx
      | none => ask specifier ctx false (stop <| .missing ·)
    | .tildeAlias =>
      match Engine.expandTilde engine.config.root specifier with
      | .ok expanded => planner expanded ctx.aliased
      | .error e => stop (.failed e)
    | .glob => stop (.aggregate specifier ctx)
    | .workspaceAlias => stop (.workspace specifier ctx)
    | kind => plain engine planner kind specifier ctx

/-- The plan of a resolution with steps nested at most to a depth. -/
def within (engine : Engine) : Nat → Planner
  | 0 => fun specifier ctx => stop (.missing (.moduleNotFound specifier ctx.importer))
  | depth + 1 => step engine (within engine depth)

/-- Follows a plan. -/
def run (engine : Engine) (fs : FileSystem) (host : Host) : Plan → Hooked Caches Attempt
  | ask specifier ctx completes next => do
    match ← (Hooked.askResolve host specifier ctx).attempt with
    | .ok m => (Ending.answered m completes).conclude engine fs
    | .error e => if e.isNotFound then (next e).run engine fs host else throw e
  | stop leaf => leaf.conclude engine fs

/-! ## Resolving follows the plan -/

section Following

variable {engine : Engine} {fs : FileSystem} {host : Host} {planner : Planner}
  {resolver : Engine.Resolver}

private theorem answered_bind (m : ResolvedModule) (completes : Bool)
    (other : HookError → Hooked Caches Attempt) :
    (do
      match ← (Ending.answered m completes).conclude engine fs with
      | .found m => return .found m
      | .missing e => other e) = (Ending.answered m completes).conclude engine fs := by
  cases completes <;> simp [Ending.conclude]

/-- Following one plan and then the other where nothing was found. -/
theorem run_orElse (p : Plan) (other : HookError → Plan) :
    (p.orElse other).run engine fs host = (do
      match ← p.run engine fs host with
      | .found m => return .found m
      | .missing e => (other e).run engine fs host) := by
  induction p with
  | ask specifier ctx completes next ih =>
    simp only [orElse, run, bind_assoc]
    refine bind_congr fun answer => ?_
    cases answer with
    | ok m => exact (answered_bind m completes _).symm
    | error e =>
      by_cases refused : e.isNotFound
      · simpa [refused] using ih e
      · simp [refused]
  | stop leaf =>
    cases leaf with
    | missing e => simp [orElse, run, Leaf.conclude]
    | failed e => rfl
    | aggregate specifier ctx => simp [orElse, run, Leaf.conclude]
    | workspace specifier ctx => simp [orElse, run, Leaf.conclude]

/-- Trying specifiers by plan is trying them one by one. -/
theorem run_each (follows : ∀ s c, (planner s c).run engine fs host = resolver s c)
    (ctx : ResolveContext) (specifiers : List Text) (next : Option HookError → Plan) :
    (each planner ctx specifiers next).run engine fs host = (do
      match ← Engine.tryEach resolver ctx specifiers with
      | (some m, _) => return .found m
      | (none, e) => (next e).run engine fs host) := by
  induction specifiers generalizing next with
  | nil => simp [each, Engine.tryEach]
  | cons specifier rest ih =>
    simp only [each, Engine.tryEach, run_orElse, follows, bind_assoc]
    refine bind_congr fun attempt => ?_
    cases attempt with
    | found m => simp
    | missing e =>
      simp only [ih, bind_assoc, pure_bind]
      refine bind_congr fun tried => ?_
      rcases tried with ⟨m | m, e'⟩ <;> rfl

theorem run_extensions (follows : ∀ s c, (planner s c).run engine fs host = resolver s c)
    (specifier : Text) (ctx : ResolveContext) (next : HookError → Plan) :
    (extensions planner specifier ctx next).run engine fs host = (do
      match ← Engine.tryExtensions resolver specifier ctx with
      | .found m => return .found m
      | .missing e => (next e).run engine fs host) := by
  simp only [extensions, Engine.tryExtensions, run_each follows, bind_assoc]
  refine bind_congr fun tried => ?_
  rcases tried with ⟨m | m, e⟩ <;> simp

theorem run_directory (follows : ∀ s c, (planner s c).run engine fs host = resolver s c)
    (specifier : Text) (ctx : ResolveContext) :
    (directory planner specifier ctx).run engine fs host =
      Engine.tryDirectory resolver specifier ctx := by
  simp only [directory, Engine.tryDirectory, run_extensions follows]
  refine bind_congr fun attempt => ?_
  cases attempt with
  | found m => rfl
  | missing e =>
    by_cases explicit : specifier.endsWith ['/'] = true
    · simp [explicit, run, Leaf.conclude]
    · simp only [if_neg explicit, run_extensions follows]
      refine bind_congr fun attempt => ?_
      cases attempt <;> rfl

theorem run_byHost (follows : ∀ s c, (planner s c).run engine fs host = resolver s c)
    (specifier : Text) (ctx : ResolveContext) :
    (byHost planner specifier ctx).run engine fs host =
      Engine.resolveByHost fs host resolver specifier ctx := by
  simp only [byHost, run, Engine.resolveByHost, Engine.attemptHost, bind_assoc]
  refine bind_congr fun answer => ?_
  cases answer with
  | ok m => simp [Ending.conclude]
  | error e =>
    by_cases refused : e.isNotFound
    · by_cases probes : ctx.isProbe
      · simp [refused, probes, run, Leaf.conclude]
      · simp only [refused, probes]
        cases e with
        | directoryImport s i => simpa [probes] using run_directory follows specifier ctx
        | moduleNotFound s i =>
          simp only [if_true, Bool.false_eq_true, if_false, pure_bind, run_extensions follows]
          refine bind_congr fun attempt => ?_
          cases attempt <;> rfl
        | _ => rfl
    · simp [refused]

theorem run_plain (follows : ∀ s c, (planner s c).run engine fs host = resolver s c)
    (kind : SpecifierKind) (specifier : Text) (ctx : ResolveContext) :
    (plain engine planner kind specifier ctx).run engine fs host =
      Engine.resolvePlain engine fs host resolver kind specifier ctx := by
  unfold plain Engine.resolvePlain
  by_cases slashed : specifier.endsWith ['/'] = true
  · simpa [slashed] using run_directory follows specifier ctx
  · simp only [if_neg slashed, run_each follows]
    refine bind_congr fun mapped => ?_
    rcases mapped with ⟨m | m, e⟩
    · refine bind_congr fun typed => ?_
      rcases typed with ⟨m | m, e⟩
      · exact run_byHost follows specifier ctx
      · rfl
    · rfl

theorem run_step (follows : ∀ s c, (planner s c).run engine fs host = resolver s c)
    (specifier : Text) (ctx : ResolveContext) :
    (step engine planner specifier ctx).run engine fs host =
      Engine.resolveStep engine fs host resolver specifier ctx := by
  have asked (s : Text) (c : ResolveContext) :
      (ask s c false (stop <| .missing ·)).run engine fs host = Engine.attemptHost host s c := by
    simp only [run, Engine.attemptHost]
    refine bind_congr fun answer => ?_
    cases answer <;> simp [Ending.conclude, Leaf.conclude]
  unfold step Engine.resolveStep
  split
  · exact asked specifier ctx
  · cases Specifier.classify engine.config.workspaceNamespace specifier with
    | url =>
      cases FileUrl.path? specifier with
      | some path => exact follows path.text ctx
      | none => exact asked specifier ctx
    | tildeAlias =>
      cases Engine.expandTilde engine.config.root specifier with
      | ok expanded => simpa [liftExcept] using follows expanded ctx.aliased
      | error e => rfl
    | glob => rfl
    | workspaceAlias => rfl
    | relative => exact run_plain follows _ specifier ctx
    | absolute => exact run_plain follows _ specifier ctx
    | bare => exact run_plain follows _ specifier ctx

/-- Resolving follows the plan, whatever files and host there are. -/
theorem run_within (depth : Nat) (specifier : Text) (ctx : ResolveContext) :
    (within engine depth specifier ctx).run engine fs host =
      engine.resolveWithin fs host depth specifier ctx := by
  induction depth generalizing specifier ctx with
  | zero => rfl
  | succ depth ih => exact run_step ih specifier ctx

end Following

/-! ## A dialogue and a conclusion -/

/-- What the host is asked for. -/
def calls (host : Host) : Plan → List (Text × ResolveContext)
  | ask specifier ctx _ next =>
    (specifier, ctx) ::
      match (host.resolve specifier ctx).result with
      | .ok _ => []
      | .error e => if e.isNotFound then (next e).calls host else []
  | stop _ => []

/-- Where the dialogue with the host ends. -/
def ending (host : Host) : Plan → Ending
  | ask specifier ctx completes next =>
    match (host.resolve specifier ctx).result with
    | .ok m => .answered m completes
    | .error e => if e.isNotFound then (next e).ending host else .refused e
  | stop leaf => .exhausted leaf

/-- The trace that asking the host leaves. -/
def asking (host : Host) : Text × ResolveContext → List Event
  | (specifier, ctx) => .resolve specifier ctx :: (host.resolve specifier ctx).reads.map .hostRead

/-- Following a plan is a dialogue with the host and a conclusion behind it. -/
theorem runFrom_run (engine : Engine) (fs : FileSystem) (host : Host) (p : Plan)
    (t : Traced Caches) :
    (p.run engine fs host).runFrom t =
      ((p.ending host).conclude engine fs).runFrom
        ⟨t.state, t.trace ++ (p.calls host).flatMap (asking host)⟩ := by
  induction p generalizing t with
  | stop leaf => simp [run, calls, ending, Ending.conclude]
  | ask specifier ctx completes next ih =>
    simp only [run, Hooked.runFrom_bind, Hooked.runFrom_attempt, Hooked.askResolve,
      Hooked.runFrom_note, Hooked.runFrom_takeAnswer, calls, ending]
    cases answer : (host.resolve specifier ctx).result with
    | ok m => simp [asking]
    | error e =>
      by_cases refused : e.isNotFound
      · simp [refused, ih, asking]
      · simp [refused, asking, Ending.conclude]

/-! ## Where a plan leads -/

/-- Wherever the plan leads without the host, a property holds. -/
inductive Leads (P : Leaf → Prop) : Plan → Prop
  | ask {specifier : Text} {ctx : ResolveContext} {completes : Bool} {next : HookError → Plan}
      (further : ∀ e, Leads P (next e)) : Leads P (ask specifier ctx completes next)
  | stop {leaf : Leaf} (holds : P leaf) : Leads P (stop leaf)

section

variable {P : Leaf → Prop} {planner : Planner} {p : Plan}

/-- It holds where a dialogue has found nothing. -/
theorem Leads.of_ending (leads : Leads P p) {host : Host} {leaf : Leaf}
    (ended : p.ending host = .exhausted leaf) : P leaf := by
  induction leads with
  | stop holds =>
    cases ended
    exact holds
  | @ask specifier ctx completes next further ih =>
    unfold ending at ended
    split at ended
    case h_1 => exact nomatch ended
    case h_2 e _ =>
      split at ended
      case isTrue => exact ih e ended
      case isFalse => exact nomatch ended

theorem Leads.orElse {other : HookError → Plan} (leads : Leads P p) (others : ∀ e, Leads P (other e)) :
    Leads P (p.orElse other) := by
  induction leads with
  | ask further ih => exact .ask ih
  | @stop leaf holds =>
    cases leaf with
    | missing e => exact others e
    | _ => exact .stop holds

variable (steps : ∀ s c, Leads P (planner s c))
include steps

theorem Leads.each (ctx : ResolveContext) (specifiers : List Text) {next : Option HookError → Plan}
    (nexts : ∀ e, Leads P (next e)) : Leads P (each planner ctx specifiers next) := by
  induction specifiers generalizing next with
  | nil => exact nexts none
  | cons specifier rest ih => exact (steps specifier ctx).orElse fun e => ih fun _ => nexts (some e)

theorem Leads.extensions (specifier : Text) (ctx : ResolveContext) {next : HookError → Plan}
    (nexts : ∀ e, Leads P (next e)) : Leads P (extensions planner specifier ctx next) :=
  .each steps _ _ fun _ => nexts _

variable (missing : ∀ e, P (.missing e))
include missing

theorem Leads.directory (specifier : Text) (ctx : ResolveContext) :
    Leads P (directory planner specifier ctx) := by
  unfold Plan.directory
  extract_lets explicit index
  refine .extensions steps _ _ fun e => ?_
  split
  case isTrue => exact .stop (missing _)
  case isFalse => exact .extensions steps _ _ fun _ => .stop (missing _)

theorem Leads.byHost (specifier : Text) (ctx : ResolveContext) :
    Leads P (byHost planner specifier ctx) := by
  refine .ask fun e => ?_
  split
  case isTrue => exact .stop (missing _)
  case isFalse =>
    split
    case h_1 => exact .directory steps missing specifier ctx
    case h_2 => exact .extensions steps _ _ fun _ => .stop (missing _)
    case h_3 => exact .stop (missing _)

theorem Leads.plain (engine : Engine) (kind : SpecifierKind) (specifier : Text) (ctx : ResolveContext) :
    Leads P (plain engine planner kind specifier ctx) := by
  unfold Plan.plain
  split
  case isTrue => exact .directory steps missing specifier ctx
  case isFalse =>
    exact .each steps _ _ fun _ => .each steps _ _ fun _ => .byHost steps missing specifier ctx

end

section

variable {P : Leaf → Prop} {engine : Engine} (missing : ∀ e, P (.missing e))
  (failed : ∀ specifier e, Engine.expandTilde engine.config.root specifier = .error e → P (.failed e))
  (aggregate : ∀ specifier ctx,
    Specifier.classify engine.config.workspaceNamespace specifier = .glob →
    Path.crossesDependency specifier = false → P (.aggregate specifier ctx))
  (workspace : ∀ specifier ctx,
    Specifier.classify engine.config.workspaceNamespace specifier = .workspaceAlias →
    Path.crossesDependency specifier = false → P (.workspace specifier ctx))
include missing failed aggregate workspace

theorem Leads.step {planner : Planner} (steps : ∀ s c, Leads P (planner s c)) (specifier : Text)
    (ctx : ResolveContext) : Leads P (step engine planner specifier ctx) := by
  have asked : Leads P (.ask specifier ctx false (Plan.stop <| .missing ·)) :=
    .ask fun _ => .stop (missing _)
  unfold Plan.step
  cases clear : Path.crossesDependency specifier with
  | true => exact asked
  | false =>
    rw [if_neg Bool.false_ne_true]
    cases kind : Specifier.classify engine.config.workspaceNamespace specifier with
    | url =>
      cases FileUrl.path? specifier with
      | some path => exact steps path.text ctx
      | none => exact asked
    | tildeAlias =>
      cases stands : Engine.expandTilde engine.config.root specifier with
      | ok expanded => exact steps expanded ctx.aliased
      | error e => exact .stop (failed specifier e stands)
    | glob => exact .stop (aggregate specifier ctx kind clear)
    | workspaceAlias => exact .stop (workspace specifier ctx kind clear)
    | relative => exact .plain steps missing engine _ specifier ctx
    | absolute => exact .plain steps missing engine _ specifier ctx
    | bare => exact .plain steps missing engine _ specifier ctx

/-- A property of all that a step may stop with holds of all that a resolution may stop with. -/
theorem Leads.within (depth : Nat) (specifier : Text) (ctx : ResolveContext) :
    Leads P (within engine depth specifier ctx) := by
  induction depth generalizing specifier ctx with
  | zero => exact .stop (missing _)
  | succ depth ih => exact .step missing failed aggregate workspace ih specifier ctx

end

/-- The leaf of a plan is what the specifier there is read as. -/
def IsRead (engine : Engine) : Leaf → Prop
  | .aggregate specifier _ =>
    Specifier.classify engine.config.workspaceNamespace specifier = .glob ∧
      Path.crossesDependency specifier = false
  | .workspace specifier _ =>
    Specifier.classify engine.config.workspaceNamespace specifier = .workspaceAlias ∧
      Path.crossesDependency specifier = false
  | .failed _ | .missing _ => True

theorem leads_within (engine : Engine) (depth : Nat) (specifier : Text) (ctx : ResolveContext) :
    Leads (IsRead engine) (within engine depth specifier ctx) :=
  .within (fun _ => trivial) (fun _ _ _ => trivial) (fun _ _ kind clear => ⟨kind, clear⟩)
    (fun _ _ kind clear => ⟨kind, clear⟩) depth specifier ctx

end Plan

/-- What a resolution answers without the host. -/
def Leaf.answer (engine : Engine) (fs : FileSystem) : Leaf → Hooked Caches ResolvedModule
  | aggregate specifier ctx => liftExcept (Engine.resolveGlob specifier ctx)
  | workspace specifier ctx => engine.resolveWorkspace fs specifier ctx
  | failed e | missing e => throw e

/-- What a resolution answers when its dialogue has ended. -/
def Ending.answer (engine : Engine) (fs : FileSystem) : Ending → Hooked Caches ResolvedModule
  | answered m completes => if completes then Engine.withFormat fs m else pure m
  | refused e => throw e
  | exhausted leaf => leaf.answer engine fs

theorem Ending.conclude_toExcept (engine : Engine) (fs : FileSystem) (ending : Ending) :
    (do liftExcept (← ending.conclude engine fs).toExcept) = ending.answer engine fs := by
  cases ending with
  | answered m completes => cases completes <;> simp [conclude, answer, Attempt.toExcept, liftExcept]
  | refused e => rfl
  | exhausted leaf =>
    cases leaf <;>
      simp [conclude, answer, Leaf.conclude, Leaf.answer, Attempt.toExcept, liftExcept]

namespace Engine

/-- The plan of a resolution. -/
def plan (engine : Engine) : Plan.Planner := Plan.within engine nesting

/-- A resolution is the dialogue that its plan leads to, and the answer behind it. -/
theorem runFrom_resolve (engine : Engine) (fs : FileSystem) (host : Host) (specifier : Text)
    (ctx : ResolveContext) (t : Traced Caches) :
    (engine.resolve fs host specifier ctx).runFrom t =
      (((engine.plan specifier ctx).ending host).answer engine fs).runFrom
        ⟨t.state, t.trace ++ ((engine.plan specifier ctx).calls host).flatMap (Plan.asking host)⟩ := by
  rw [← Ending.conclude_toExcept, resolve, ← Plan.run_within, Hooked.runFrom_bind, Plan.runFrom_run,
    Hooked.runFrom_bind, plan]

end Engine
end ModuleHooks
