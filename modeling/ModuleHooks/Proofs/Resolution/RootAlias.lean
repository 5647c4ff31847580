import ModuleHooks.FileSystem.Tree
import ModuleHooks.Host.FileHost
import ModuleHooks.Proofs.Caches.Effect
import ModuleHooks.Proofs.Resolution.Nesting

/-!
The alias for the root. What begins with it is resolved as the path that it stands for, with one alias more in
the circumstances (`resolve_rootAlias`). A path does not depend on how many aliases led to it: the plan for it
is the same up to that number (`within_aliased`), and following it comes to the same with a host that does not
look at the number.
-/
namespace ModuleHooks

open Specifier

/-- The host answers alike however many aliases led to the question: their number is not shown to it. -/
def Host.IgnoresAliases (host : Host) : Prop := ∀ s c, host.resolve s c.aliased = host.resolve s c

/-- The question with one alias more. -/
def Event.aliased : Event → Event
  | resolve specifier ctx => resolve specifier ctx.aliased
  | e => e

/-- What is concluded behind one alias more. -/
def Leaf.aliased : Leaf → Leaf
  | aggregate specifier ctx => aggregate specifier ctx.aliased
  | workspace specifier ctx => workspace specifier ctx.aliased
  | failed e => failed e
  | missing e => missing e

/-- Where a dialogue ends behind one alias more. -/
def Ending.aliased : Ending → Ending
  | answered m completes => answered m completes
  | refused e => refused e
  | exhausted leaf => exhausted leaf.aliased

namespace Plan

/-- The plan with one alias more in all circumstances. -/
def aliased : Plan → Plan
  | ask specifier ctx completes next => ask specifier ctx.aliased completes fun e => (next e).aliased
  | stop leaf => stop leaf.aliased

/-! ## Plans behind an alias -/

theorem aliased_orElse (p : Plan) (other : HookError → Plan) :
    (p.orElse other).aliased = p.aliased.orElse fun e => (other e).aliased := by
  induction p with
  | ask specifier ctx completes next ih =>
    simp only [orElse, aliased]
    exact congrArg _ (funext ih)
  | stop leaf => cases leaf <;> rfl

section

variable {engine : Engine} {planner : Planner}

/-- The plan for a path behind one alias more is that for the path, with one alias more. -/
def Carries (planner : Planner) : Prop :=
  ∀ s c, s.head? = some '/' → planner s c.aliased = (planner s c).aliased

theorem aliased_each (carries : Carries planner) (ctx : ResolveContext) {specifiers : List Text}
    (rooted : ∀ s ∈ specifiers, s.head? = some '/') {next next' : Option HookError → Plan}
    (nexts : ∀ e, next' e = (next e).aliased) :
    each planner ctx.aliased specifiers next' = (each planner ctx specifiers next).aliased := by
  induction specifiers generalizing next next' with
  | nil => exact nexts none
  | cons specifier rest ih =>
    obtain ⟨first, others⟩ := List.forall_mem_cons.1 rooted
    rw [each, each, aliased_orElse, carries specifier ctx first]
    congr 1
    funext e
    exact ih others fun _ => nexts (some e)

theorem head?_append {s : Text} (rooted : s.head? = some '/') (t : Text) : (s ++ t).head? = some '/' := by
  rw [List.head?_append, rooted]
  rfl

theorem aliased_extensions (carries : Carries planner) {specifier : Text} (rooted : specifier.head? = some '/')
    (ctx : ResolveContext) {next next' : HookError → Plan} (nexts : ∀ e, next' e = (next e).aliased) :
    extensions planner specifier ctx.aliased next' = (extensions planner specifier ctx next).aliased := by
  refine aliased_each carries ctx.probe (fun s member => ?_) fun e => nexts _
  obtain ⟨ext, -, rfl⟩ := List.mem_map.1 member
  exact head?_append rooted ext

theorem aliased_directory (carries : Carries planner) {specifier : Text} (rooted : specifier.head? = some '/')
    (ctx : ResolveContext) :
    directory planner specifier ctx.aliased = (directory planner specifier ctx).aliased := by
  unfold directory
  extract_lets explicit index
  refine aliased_extensions carries (head?_append rooted index) ctx fun e => ?_
  split
  case isTrue => rfl
  case isFalse => exact aliased_extensions carries rooted ctx fun _ => rfl

theorem aliased_byHost (carries : Carries planner) {specifier : Text} (rooted : specifier.head? = some '/')
    (ctx : ResolveContext) :
    byHost planner specifier ctx.aliased = (byHost planner specifier ctx).aliased := by
  simp only [byHost, aliased]
  congr 1
  funext e
  have probes : ctx.aliased.isProbe = ctx.isProbe := rfl
  rw [probes]
  split
  case isTrue => rfl
  case isFalse =>
    cases e with
    | directoryImport s i => exact aliased_directory carries rooted ctx
    | moduleNotFound s i => exact aliased_extensions carries rooted ctx fun _ => rfl
    | _ => rfl

/-- A path has no candidates of the paths mapping, which would count the aliases. -/
theorem aliased_plain (carries : Carries planner) {kind : SpecifierKind} (path : kind ≠ .bare)
    {specifier : Text} (rooted : specifier.head? = some '/') (ctx : ResolveContext) :
    plain engine planner kind specifier ctx.aliased = (plain engine planner kind specifier ctx).aliased := by
  unfold plain
  split
  case isTrue => exact aliased_directory carries rooted ctx
  case isFalse file =>
    have typed : ∀ s ∈ Engine.typedSpecifiers specifier ctx, s.head? = some '/' := by
      intro s member
      have probed : s ∈ Engine.probedSpecifiers specifier ctx := by
        rw [Engine.probedSpecifiers, if_neg file]
        exact List.mem_append_left _ member
      exact (Engine.varies_of_mem_probedSpecifiers probed).head?_slash rooted
    exact aliased_each carries ctx.probe typed fun _ => aliased_byHost carries rooted ctx

theorem carries_step (carries : Carries planner) : Carries (step engine planner) := by
  intro specifier ctx rooted
  have anchored : Anchored specifier := by
    obtain ⟨r, rfl⟩ := List.head?_eq_some_iff.1 rooted
    exact .of_slash r
  unfold step
  cases Path.crossesDependency specifier with
  | true => rfl
  | false =>
    rw [if_neg Bool.false_ne_true, if_neg Bool.false_ne_true]
    cases kind : classify engine.config.workspaceNamespace specifier with
    | url => exact absurd (hasScheme_of_classify kind) (by simp [anchored.hasScheme])
    | tildeAlias => exact absurd (head?_of_classify kind) anchored.head?_ne
    | bare => exact absurd kind (anchored.classify_ne_bare _)
    | glob => rfl
    | workspaceAlias => rfl
    | relative => exact aliased_plain carries (by simp) rooted ctx
    | absolute => exact aliased_plain carries (by simp) rooted ctx

/-- The plan for a path is the same behind one alias more, up to that alias. -/
theorem within_aliased (engine : Engine) (depth : Nat) : Carries (within engine depth) := by
  induction depth with
  | zero => exact fun _ _ _ => rfl
  | succ depth ih => exact carries_step ih

end

/-! ## Dialogues behind an alias -/

section

variable {host : Host} (blind : host.IgnoresAliases)
include blind

theorem calls_aliased (p : Plan) :
    p.aliased.calls host = (p.calls host).map fun call => (call.1, call.2.aliased) := by
  induction p with
  | stop leaf => rfl
  | ask specifier ctx completes next ih =>
    simp only [aliased, calls, blind specifier ctx, List.map_cons]
    cases (host.resolve specifier ctx).result with
    | ok m => rfl
    | error e => cases refused : e.isNotFound <;> simp [refused, ih]

theorem ending_aliased (p : Plan) : p.aliased.ending host = (p.ending host).aliased := by
  induction p with
  | stop leaf => rfl
  | ask specifier ctx completes next ih =>
    simp only [aliased, ending, blind specifier ctx]
    cases (host.resolve specifier ctx).result with
    | ok m => rfl
    | error e => cases refused : e.isNotFound <;> simp [refused, ih, Ending.aliased]

theorem flatMap_asking_aliased (calls : List (Text × ResolveContext)) :
    (calls.map fun call => (call.1, call.2.aliased)).flatMap (asking host) =
      (calls.flatMap (asking host)).map Event.aliased := by
  have each (call : Text × ResolveContext) :
      asking host (call.1, call.2.aliased) = (asking host call).map Event.aliased := by
    simp only [asking, blind call.1 call.2, List.map_cons, List.map_map]
    rfl
  rw [List.flatMap_map, List.map_flatMap]
  exact congrArg (calls.flatMap ·) (funext each)

end

end Plan

/-- What is answered does not depend on the number of aliases. -/
theorem Ending.answer_aliased (engine : Engine) (fs : FileSystem) (ending : Ending) :
    ending.aliased.answer engine fs = ending.answer engine fs := by
  cases ending with
  | answered m completes => rfl
  | refused e => rfl
  | exhausted leaf => cases leaf <;> rfl

/-- What begins with the alias is read as one: a scheme begins with a letter. -/
theorem Specifier.classify_tilde {s : Text} (tilde : s.head? = some '~') (ns : Text) :
    classify ns s = .tildeAlias := by
  obtain ⟨r, rfl⟩ := List.head?_eq_some_iff.1 tilde
  have schemeless : hasScheme ('~' :: r) = false := by
    unfold hasScheme
    rw [Text.cutAt?, if_neg (by decide)]
    cases Text.cutAt? ':' r with
    | none => rfl
    | some pieces =>
      have letterless : Char.isAlpha '~' = false := by decide
      simp [letterless]
  rw [classify, schemeless, if_neg Bool.false_ne_true, if_pos tilde]

namespace Engine

/-- In some circumstances a specifier is resolved as a path is: to the same result with the same caches, and by
the same questions with one alias more. -/
def StandsFor (engine : Engine) (fs : FileSystem) (host : Host) (ctx : ResolveContext) (specifier path : Text) :
    Prop :=
  ∀ caches, (engine.resolve fs host specifier ctx).outcome caches =
    let direct := (engine.resolve fs host path ctx).outcome caches
    (direct.1, ⟨direct.2.state, direct.2.trace.map Event.aliased⟩)

section

variable {engine : Engine} {fs : FileSystem} {host : Host} {ctx : ResolveContext} {specifier expanded : Text}

/-- Resolving a path behind one alias more. -/
theorem resolve_aliased (blind : host.IgnoresAliases) {path : Text} (rooted : path.head? = some '/')
    (caches : Caches) :
    (engine.resolve fs host path ctx.aliased).outcome caches =
      let direct := (engine.resolve fs host path ctx).outcome caches
      (direct.1, ⟨direct.2.state, direct.2.trace.map Event.aliased⟩) := by
  have carried : engine.plan path ctx.aliased = (engine.plan path ctx).aliased :=
    Plan.within_aliased engine nesting path ctx rooted
  have answers := (Settles.only fs).answer engine ((engine.plan path ctx).ending host)
  -- What is read from the file system is not asked in any circumstances.
  have kept : ∀ asked : List Event, (∀ e ∈ asked, e.IsManifestRead) → asked.map Event.aliased = asked := by
    intro asked only
    have alone : ∀ e ∈ asked, e.aliased = id e := by
      intro e member
      obtain ⟨path, rfl⟩ := only e member
      rfl
    exact (List.map_congr_left alone).trans (List.map_id asked)
  dsimp only
  rw [Hooked.outcome_eq_runFrom, Hooked.outcome_eq_runFrom, runFrom_resolve, runFrom_resolve, carried,
    Plan.ending_aliased blind, Ending.answer_aliased, Plan.calls_aliased blind,
    Plan.flatMap_asking_aliased blind, answers.runFrom_eq, answers.runFrom_eq]
  dsimp only
  rw [List.nil_append, List.nil_append, List.map_append, kept _ (answers.outcome caches)]

/-- An alias is resolved by resolving what it stands for, behind it. -/
theorem resolve_expanded (absolute : engine.config.root.isAbsolute = true) (tilde : specifier.head? = some '~')
    (clear : Path.crossesDependency specifier = false)
    (stands : expandTilde engine.config.root specifier = .ok expanded) :
    engine.resolve fs host specifier ctx = engine.resolve fs host expanded ctx.aliased := by
  have step : engine.resolveWithin fs host nesting specifier ctx =
      engine.resolveWithin fs host (nesting - 1) expanded ctx.aliased := by
    show engine.resolveStep fs host (engine.resolveWithin fs host (nesting - 1)) specifier ctx = _
    rw [resolveStep, clear, if_neg Bool.false_ne_true, classify_tilde tilde]
    simp only [stands, liftExcept]
    rfl
  have deep (n : Nat) (enough : 6 < n) : depthBound ⟨expanded, ctx.aliased⟩ < n :=
    Nat.lt_of_le_of_lt (depthBound_le _) enough
  have shallower := resolveWithin_eq absolute fs host (deep (nesting - 1) (by decide)) (deep nesting (by decide))
  rw [resolve, step, shallower, resolve]

theorem standsFor_of_expandTilde (absolute : engine.config.root.isAbsolute = true)
    (blind : host.IgnoresAliases) (tilde : specifier.head? = some '~')
    (clear : Path.crossesDependency specifier = false)
    (stands : expandTilde engine.config.root specifier = .ok expanded) (some : expanded ≠ []) :
    engine.StandsFor fs host ctx specifier expanded := by
  intro caches
  rw [resolve_expanded absolute tilde clear stands]
  exact resolve_aliased blind ((head?_of_expandTilde absolute stands).resolve_left some) caches

/-- Anything else that begins with the alias does not stand for a path. -/
theorem expandTilde_of_unslashed (root : Path) (tilde : specifier.head? = some '~')
    (other : specifier ≠ "~".toList) (closed : ¬"~/".toList <+: specifier) :
    expandTilde root specifier = .error (.unresolvedAlias specifier .tildeGrammar) := by
  obtain ⟨r, rfl⟩ := List.head?_eq_some_iff.1 tilde
  cases r with
  | nil => exact absurd rfl other
  | cons c r =>
    have unslashed : c ≠ '/' := by
      rintro rfl
      exact closed ⟨r, rfl⟩
    unfold expandTilde
    split
    case h_1 nothing => exact nomatch nothing
    case h_2 rest same => exact absurd (List.cons.inj same).1 unslashed
    case h_3 => rfl

/-- An alias that does not stand for a path fails before anything is asked. -/
theorem resolve_unexpanded {e : HookError} (tilde : specifier.head? = some '~')
    (clear : Path.crossesDependency specifier = false)
    (fails : expandTilde engine.config.root specifier = .error e) (caches : Caches) :
    (engine.resolve fs host specifier ctx).outcome caches = (.error e, ⟨caches, []⟩) := by
  have planned : engine.plan specifier ctx = .stop (.failed e) := by
    show Plan.step engine _ _ _ = _
    rw [Plan.step, clear, if_neg Bool.false_ne_true, classify_tilde tilde]
    simp only [fails]
  rw [Hooked.outcome_eq_runFrom, runFrom_resolve, planned]
  rfl

/-- What goes through a dependency is the host's as it is written. -/
theorem resolve_ofDependency (crosses : Path.crossesDependency specifier = true) (caches : Caches) :
    (engine.resolve fs host specifier ctx).outcome caches =
      ((host.resolve specifier ctx).result, ⟨caches, Plan.asking host (specifier, ctx)⟩) := by
  have planned : engine.plan specifier ctx = .ask specifier ctx false (Plan.stop <| .missing ·) := by
    show Plan.step engine _ _ _ = _
    rw [Plan.step, crosses, if_pos rfl]
  rw [Hooked.outcome_eq_runFrom, runFrom_resolve, planned]
  simp only [Plan.ending, Plan.calls]
  cases (host.resolve specifier ctx).result with
  | ok m => simp [Ending.answer]
  | error e => cases refused : e.isNotFound <;> simp [refused, Ending.answer, Leaf.answer]

end

/-- The alias alone stands for the root, and with a slash behind it for the root with what follows; the root is
taken with forward slashes and without those at its end. Anything else that begins with the alias fails before
the host is asked, unless it goes through a dependency: such a specifier is the host's as it is written. -/
theorem resolve_rootAlias {engine : Engine} {host : Host} (absolute : engine.config.root.isAbsolute = true)
    (blind : host.IgnoresAliases) {root : Text} {n : Nat}
    (written : engine.config.root.toSlash = root ++ List.replicate n '/') (ends : root.getLast? ≠ some '/')
    (fs : FileSystem) (ctx : ResolveContext) :
    (root ≠ [] → engine.StandsFor fs host ctx "~".toList root) ∧
    (∀ p, Path.crossesDependency ("~/".toList ++ p) = false →
      engine.StandsFor fs host ctx ("~/".toList ++ p) (root ++ '/' :: p)) ∧
    (∀ s, s.head? = some '~' → s ≠ "~".toList → ¬"~/".toList <+: s → Path.crossesDependency s = false →
      ∀ caches, (engine.resolve fs host s ctx).outcome caches =
        (.error (.unresolvedAlias s .tildeGrammar), ⟨caches, []⟩)) ∧
    ∀ s, s.head? = some '~' → Path.crossesDependency s = true →
      ∀ caches, (engine.resolve fs host s ctx).outcome caches =
        ((host.resolve s ctx).result, ⟨caches, Plan.asking host (s, ctx)⟩) := by
  have trimmed : Text.trimEndOf '/' engine.config.root.toSlash = root := by
    rw [written, Text.trimEndOf_append n ends]
  refine ⟨?_, ?_, ?_, ?_⟩
  · intro some
    apply standsFor_of_expandTilde absolute blind rfl (by decide +kernel) ?_ some
    exact congrArg Except.ok trimmed
  · intro p clear
    apply standsFor_of_expandTilde absolute blind rfl clear ?_ (by simp)
    exact congrArg (fun r => Except.ok (r ++ '/' :: p)) trimmed
  · intro s tilde other closed clear
    exact resolve_unexpanded tilde clear (expandTilde_of_unslashed engine.config.root tilde other closed)
  · intro s _ crosses
    exact resolve_ofDependency crosses

/-- A script in a directory, one that is installed, and one in a directory with a backslash in its name. -/
def aliasedTree : FileTree :=
  ⟨[(["repo".toList, "src".toList, "a.js".toList], .text []),
    (["repo".toList, "node_modules".toList, "x.js".toList], .text []),
    (["re\\po".toList, "x.js".toList], .text [])], []⟩

/-- The script asks. -/
def aliasedContext : ResolveContext := .fresh (some ⟨"/repo/src/a.js".toList⟩) .module

end Engine

/-- The host over files does not look at the number of aliases. -/
theorem FileHost.host_ignoresAliases (fs : FileSystem) (workingDirectory : Path) :
    (FileHost.host fs workingDirectory).IgnoresAliases := by
  intro s ctx
  have privately (directories : List Path) :
      FileHost.privateName fs s ctx.aliased directories = FileHost.privateName fs s ctx directories := by
    induction directories with
    | nil => rfl
    | cons directory above ih =>
      rw [FileHost.privateName, ih]
      rfl
  have packaged (directories : List Path) :
      FileHost.package fs s ctx.aliased directories = FileHost.package fs s ctx directories := by
    induction directories with
    | nil => rfl
    | cons directory above ih =>
      rw [FileHost.package, ih]
      rfl
  have same : FileHost.resolveSpecifier fs workingDirectory s ctx.aliased =
      FileHost.resolveSpecifier fs workingDirectory s ctx := by
    simp only [FileHost.resolveSpecifier, privately, packaged]
    rfl
  exact congrArg FileHost.answer same

namespace Engine

theorem resolve_rootAlias_script :
    let fs := aliasedTree.lexical
    let host := FileHost.host fs Path.rootDirectory
    let engine := withMappings ⟨"/repo/".toList⟩ []
    engine.config.root.isAbsolute = true ∧ host.IgnoresAliases ∧
      engine.config.root.toSlash = "/repo".toList ++ List.replicate 1 '/' ∧
      "/repo".toList.getLast? ≠ some '/' ∧
      engine.StandsFor fs host aliasedContext "~".toList "/repo".toList ∧
      engine.StandsFor fs host aliasedContext "~/src/a".toList "/repo/src/a".toList ∧
      ((engine.resolve fs host "~/src/a".toList aliasedContext).outcome {}).1.toOption =
        some { id := .file ⟨"/repo/src/a.js".toList⟩, format := some .commonJs } := by
  intro fs host engine
  have absolute : engine.config.root.isAbsolute = true := by decide
  have blind : host.IgnoresAliases := FileHost.host_ignoresAliases fs Path.rootDirectory
  have written : engine.config.root.toSlash = "/repo".toList ++ List.replicate 1 '/' := by decide
  have ends : "/repo".toList.getLast? ≠ some '/' := by decide
  obtain ⟨alone, behind, -⟩ := resolve_rootAlias absolute blind written ends fs aliasedContext
  exact ⟨absolute, blind, written, ends, alone (by decide), behind "src/a".toList (by decide +kernel),
    by decide +kernel⟩

/-- What goes through a dependency is not expanded, and a root with a backslash is not taken as it is: a file is
found by its path, but not by the alias. -/
theorem resolve_rootAlias_asWritten :
    let fs := aliasedTree.lexical
    let host := FileHost.host fs Path.rootDirectory
    ∀ rs ∈ [("/repo", "/node_modules/x.js"), ("/re\\po", "/x.js")],
      let engine := withMappings ⟨rs.1.toList⟩ []
      ((engine.resolve fs host ('~' :: rs.2.toList) aliasedContext).outcome {}).1.toOption = none ∧
        (((engine.resolve fs host (rs.1.toList ++ rs.2.toList) aliasedContext).outcome {}).1.toOption.map
          (·.id)) = some (.file ⟨rs.1.toList ++ rs.2.toList⟩) := by
  intro fs host
  simp only [List.forall_mem_cons, List.not_mem_nil, false_imp_iff, implies_true, and_true]
  exact ⟨⟨by decide +kernel, by decide +kernel⟩, by decide +kernel, by decide +kernel⟩

end Engine
end ModuleHooks
