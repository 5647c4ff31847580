import ModuleHooks.Proofs.Host.Absence
import ModuleHooks.Proofs.Resolution.Unlisted

/-!
What is reported when nothing is found. The failure of a resolution is the host's for one specifier: for
the one that was asked for, or for the index in it, which is told without the text that was put behind.
Taking that text off again gives the specifier back, but a subpath that is not exported keeps it.
-/
namespace ModuleHooks

open Hooked Specifier Engine

namespace Plan

/-! ## Plans that find nothing -/

/-- The dialogue of the plan ends with a failure that is told because nothing was found. -/
def Fails (host : Host) (p : Plan) (e : HookError) : Prop := p.ending host = .exhausted (.missing e)

namespace Fails

variable {host : Host} {planner : Planner} {engine : Engine} {p q : Plan} {e : HookError} {specifier : Text}
  {ctx : ResolveContext}

theorem of_orElse {other : HookError → Plan} (fails : Fails host (p.orElse other) e) :
    ∃ e', Fails host p e' ∧ Fails host (other e') e := by
  unfold Fails at fails ⊢
  rw [ending_orElse] at fails
  split at fails
  case h_1 e' ended => exact ⟨e', ended, fails⟩
  case h_2 other => exact absurd fails (other e)

theorem of_ask {completes : Bool} {next : HookError → Plan}
    (fails : Fails host (ask specifier ctx completes next) e) :
    ∃ e', (host.resolve specifier ctx).result = .error e' ∧ e'.isNotFound = true ∧ Fails host (next e') e := by
  unfold Fails ending at fails
  split at fails
  case h_1 => cases fails
  case h_2 e' answer =>
    split at fails
    case isTrue notFound => exact ⟨e', answer, notFound, fails⟩
    case isFalse => cases fails

/-- What was tried before has no part in the failure. -/
theorem of_each {specifiers : List Text} (fails : Fails host (each planner ctx specifiers fun _ => q) e) :
    Fails host q e := by
  induction specifiers with
  | nil => exact fails
  | cons s rest ih =>
    obtain ⟨e', -, others⟩ := fails.of_orElse
    exact ih others

/-- The failure of the first extension is handed on without it. -/
theorem of_extensions {next : HookError → Plan} (fails : Fails host (extensions planner specifier ctx next) e) :
    ∃ e', Fails host (planner (specifier ++ ".js".toList) ctx.probe) e' ∧
      Fails host (next (e'.dropSuffix ".js".toList)) e := by
  obtain ⟨e', first, further⟩ := of_orElse fails
  exact ⟨e', first, of_each further⟩

/-- What is put behind a specifier to name its index. -/
def indexSuffix (specifier : Text) : Text :=
  if specifier.endsWith ['/'] then "index".toList else "/index".toList

/-- The failure of a directory is that of its index. -/
theorem of_directory (fails : Fails host (directory planner specifier ctx) e) :
    ∃ e', Fails host (planner (specifier ++ indexSuffix specifier ++ ".js".toList) ctx.probe) e' ∧
      e = (e'.dropSuffix ".js".toList).dropSuffix (indexSuffix specifier) := by
  unfold directory at fails
  extract_lets explicit index at fails
  obtain ⟨e', first, further⟩ := fails.of_extensions
  refine ⟨e', first, ?_⟩
  split at further
  case isTrue =>
    cases further
    rfl
  case isFalse =>
    obtain ⟨-, -, last⟩ := further.of_extensions
    cases last
    rfl

/-- A specifier that is no directory fails as it does with the host. -/
theorem of_plain {kind : SpecifierKind} (file : specifier.endsWith ['/'] = false)
    (fails : Fails host (plain engine planner kind specifier ctx) e) :
    Fails host (byHost planner specifier ctx) e := by
  unfold plain at fails
  rw [file, if_neg Bool.false_ne_true] at fails
  exact of_each (of_each fails)

/-- A specifier that is neither a URL nor an alias fails where it is read as a path or a package, unless
the host has it all. -/
theorem of_step (isPlain : isPlain specifier = true)
    (fails : Fails host (step engine planner specifier ctx) e) :
    (host.resolve specifier ctx).result = .error e ∧ e.isNotFound = true ∧
        Path.crossesDependency specifier = true ∨
      Path.crossesDependency specifier = false ∧
        ∃ kind, Fails host (plain engine planner kind specifier ctx) e := by
  unfold step at fails
  cases clear : Path.crossesDependency specifier with
  | true =>
    rw [if_pos clear] at fails
    obtain ⟨e', answer, notFound, told⟩ := fails.of_ask
    cases told
    exact .inl ⟨answer, notFound, rfl⟩
  | false =>
    rw [clear, if_neg Bool.false_ne_true] at fails
    refine .inr ⟨rfl, ?_⟩
    cases kind : classify engine.config.workspaceNamespace specifier with
    | url => simp [Specifier.isPlain, hasScheme_of_classify kind] at isPlain
    | tildeAlias => simp [Specifier.isPlain, head?_of_classify kind] at isPlain
    | glob =>
      rw [kind] at fails
      cases fails
    | workspaceAlias =>
      rw [kind] at fails
      cases fails
    | relative | absolute | bare =>
      rw [kind] at fails
      exact ⟨_, fails⟩

/-- A probe fails as it does with the host. -/
theorem of_probe {depth : Nat} (isPlain : isPlain specifier = true) (file : specifier.endsWith ['/'] = false)
    (fails : Fails host (within engine (depth + 1) specifier ctx.probe) e) :
    (host.resolve specifier ctx.probe).result = .error e ∧ e.isNotFound = true := by
  obtain ⟨answer, notFound, -⟩ | ⟨-, kind, fails⟩ := of_step isPlain fails
  · exact ⟨answer, notFound⟩
  · obtain ⟨e', answer, notFound, told⟩ := (of_plain file fails).of_ask
    cases told
    exact ⟨answer, notFound⟩

/-- The index of a specifier is one of its probes. -/
theorem index_mem_probedSpecifiers (specifier : Text) (fresh : ctx.isProbe = false) :
    specifier ++ indexSuffix specifier ++ ".js".toList ∈ probedSpecifiers specifier ctx := by
  have script : ".js".toList ∈ fallbackExtensions := List.mem_cons_self
  unfold probedSpecifiers fallbackSpecifiers indexSuffix
  cases specifier.endsWith ['/'] with
  | true => exact List.mem_map_of_mem script
  | false =>
    rw [fresh]
    exact List.mem_append_right _ (List.mem_append_left _ (List.mem_map_of_mem script))

/-- A resolution fails as the host does for the specifier, or for the index of what it takes to be a
directory. -/
theorem of_plan (fresh : ctx.isProbe = false) (isPlain : isPlain specifier = true)
    (fails : Fails host (engine.plan specifier ctx) e) :
    ((specifier.endsWith ['/'] = false ∨ Path.crossesDependency specifier = true) ∧
        (host.resolve specifier ctx).result = .error e ∧ e.isNotFound = true) ∨
      ∃ e', (host.resolve (specifier ++ indexSuffix specifier ++ ".js".toList) ctx.probe).result = .error e' ∧
        e'.isNotFound = true ∧ e = (e'.dropSuffix ".js".toList).dropSuffix (indexSuffix specifier) ∧
        (specifier.endsWith ['/'] = true ∧ Path.crossesDependency specifier = false ∨
          specifier.endsWith ['/'] = false ∧
          ∃ s importer, (host.resolve specifier ctx).result = .error (.directoryImport s importer)) := by
  have probe := index_mem_probedSpecifiers specifier fresh
  have probePlain := (varies_of_mem_probedSpecifiers probe).isPlain isPlain
  have probeFile := endsWith_of_mem_probedSpecifiers probe
  obtain ⟨answer, notFound, crosses⟩ | ⟨clear, kind, fails⟩ := of_step isPlain fails
  · exact .inl ⟨.inr crosses, answer, notFound⟩
  cases explicit : specifier.endsWith ['/'] with
  | true =>
    unfold plain at fails
    rw [explicit, if_pos rfl] at fails
    obtain ⟨e', index, told⟩ := fails.of_directory
    obtain ⟨answer, notFound⟩ := of_probe probePlain probeFile index
    exact .inr ⟨e', answer, notFound, told, .inl ⟨rfl, clear⟩⟩
  | false =>
    obtain ⟨e₁, answer, notFound, told⟩ := (of_plain explicit fails).of_ask
    rw [fresh, if_neg Bool.false_ne_true] at told
    cases e₁ with
    | directoryImport s importer =>
      obtain ⟨e', index, told⟩ := of_directory told
      obtain ⟨answer', notFound'⟩ := of_probe probePlain probeFile index
      exact .inr ⟨e', answer', notFound', told, .inr ⟨rfl, s, importer, answer⟩⟩
    | moduleNotFound s importer =>
      obtain ⟨-, -, last⟩ := of_extensions told
      cases last
      exact .inl ⟨.inl rfl, answer, notFound⟩
    | exportNotDefined subpath manifest =>
      cases told
      exact .inl ⟨.inl rfl, answer, notFound⟩
    | _ => exact nomatch notFound

end Fails

end Plan

namespace Engine

/-! ## Failures of another kind -/

section

variable {engine : Engine} {fs : FileSystem} {host : Host}

theorem manifestAt_failsWith (path : Path) :
    FailsWith (fun e => e.isNotFound = false) (manifestAt fs path) := by
  intro t e failed
  rw [manifestAt_runFrom] at failed
  split at failed
  case h_1 => cases failed
  case h_2 => exact FileHost.isNotFound_of_read failed

theorem searchType_failsWith (directories : List Path) :
    FailsWith (fun e => e.isNotFound = false) (searchType fs directories) := by
  induction directories with
  | nil => exact .pure _
  | cons directory above ih =>
    unfold searchType
    split
    case isTrue => exact .pure _
    case isFalse =>
      refine .bind (.of_succeeds .state) fun caches => ?_
      split
      case h_1 => exact .pure _
      case h_2 =>
        refine .bind (manifestAt_failsWith _) fun found => ?_
        split
        case h_1 => exact .pure _
        case h_2 => exact .bind ih fun _ => .pure _

/-- To find out a format, only manifests are looked at. -/
theorem detectFormat_failsWith (path : Path) :
    FailsWith (fun e => e.isNotFound = false) (detectFormat fs path) := by
  have type (directory : Path) :
      FailsWith (fun e => e.isNotFound = false) (typeOfDirectory fs directory) :=
    .bind (searchType_failsWith _) fun _ => .bind (.of_succeeds (.update _)) fun _ => .pure _
  unfold detectFormat
  split
  case h_1 => exact .pure _
  case h_2 =>
    split
    case isTrue =>
      split
      case h_1 => exact .pure _
      case h_2 directory _ => exact .bind (type directory) fun _ => .pure _
    case isFalse => exact .pure _

theorem withFormat_failsWith (m : ResolvedModule) :
    FailsWith (fun e => e.isNotFound = false) (withFormat fs m) := by
  unfold withFormat
  split
  case h_1 => exact .bind (detectFormat_failsWith _) fun _ => .pure _
  case h_2 => exact .pure _

/-- A member of the workspace is not found only if its package does not export it. -/
theorem resolveWorkspace_failsWith (specifier : Text) (ctx : ResolveContext) :
    FailsWith (fun e => e.isNotFound = true → ∃ subpath manifest, e = .exportNotDefined subpath manifest)
      (engine.resolveWorkspace fs specifier ctx) := by
  have hard {e : HookError} (other : e.isNotFound = false) (notFound : e.isNotFound = true) :
      ∃ subpath manifest, e = .exportNotDefined subpath manifest :=
    nomatch other.symm.trans notFound
  have unlocated (slug : Text) (e : HookError)
      (unknown : packageDirectory engine specifier slug = .error e) : e.isNotFound = false := by
    unfold packageDirectory at unknown
    split at unknown
    case isTrue =>
      cases unknown
      rfl
    case isFalse =>
      split at unknown
      case h_1 =>
        cases unknown
        rfl
      case h_2 =>
        split at unknown
        case h_1 =>
          cases unknown
          rfl
        case h_2 => cases unknown
  unfold resolveWorkspace
  extract_lets rest
  split
  refine .bind (.ofExcept fun e unknown => hard (unlocated _ e unknown)) fun directory => ?_
  extract_lets manifestPath
  refine .bind ((manifestAt_failsWith _).mono fun e => hard) fun found => ?_
  split
  case h_1 => exact .throw nofun
  case h_2 =>
    split
    case h_1 => exact .throw fun _ => ⟨_, _, rfl⟩
    case h_2 => exact .bind ((detectFormat_failsWith _).mono fun e => hard) fun _ => .pure _

/-- An alias that cannot be expanded is no matter of finding nothing. -/
theorem isNotFound_of_expandTilde {root : Path} {specifier : Text} {e : HookError}
    (failed : expandTilde root specifier = .error e) : e.isNotFound = false := by
  unfold expandTilde at failed
  extract_lets root at failed
  split at failed
  case h_1 => cases failed
  case h_2 => cases failed
  case h_3 =>
    cases failed
    rfl

/-- A leaf that fails does so otherwise than by finding nothing. -/
def FailsHard : Leaf → Prop
  | .failed e => e.isNotFound = false
  | .aggregate .. | .workspace .. | .missing _ => True

/-- A resolution that finds nothing has come to a package of the workspace, or its plan fails. -/
theorem fails_of_resolve {caches : Caches} {specifier : Text} {ctx : ResolveContext} {e : HookError}
    (failed : ((engine.resolve fs host specifier ctx).outcome caches).1 = .error e)
    (notFound : e.isNotFound = true) :
    (∃ s c, (engine.plan specifier ctx).ending host = .exhausted (.workspace s c)) ∧
        (∃ subpath manifest, e = .exportNotDefined subpath manifest) ∨
      Plan.Fails host (engine.plan specifier ctx) e := by
  have decided := (engine.plan specifier ctx).decidedBy_calls host
  have leads : Plan.Leads FailsHard (engine.plan specifier ctx) :=
    .within (fun _ => trivial) (fun _ _ => isNotFound_of_expandTilde) (fun _ _ _ _ => trivial)
      (fun _ _ _ _ => trivial) nesting specifier ctx
  rw [resolve_answer, outcome_eq_runFrom] at failed
  cases ended : (engine.plan specifier ctx).ending host with
  | answered m completes =>
    rw [ended] at failed
    cases completes with
    | true => exact nomatch (withFormat_failsWith m _ e failed).symm.trans notFound
    | false => cases failed
  | refused e' =>
    rw [ended] at failed decided
    cases failed
    obtain ⟨-, -, -, -, -, other⟩ := decided
    exact nomatch other.symm.trans notFound
  | exhausted leaf =>
    rw [ended] at failed
    cases leaf with
    | aggregate s c =>
      rw [Ending.answer, Leaf.answer, runFrom_liftExcept] at failed
      dsimp only at failed
      unfold resolveGlob at failed
      split at failed
      case h_1 =>
        cases failed
        cases notFound
      case h_2 => cases failed
    | workspace s c =>
      exact .inl ⟨⟨s, c, rfl⟩, resolveWorkspace_failsWith s c _ e failed notFound⟩
    | failed e' =>
      cases failed
      exact nomatch (leads.of_ending ended : e.isNotFound = false).symm.trans notFound
    | missing e' =>
      cases failed
      exact .inr ended

end

open FileHost

/-- The failure for the index of a specifier, as it is handed on. -/
theorem reports_index {fs : FileSystem} {workingDirectory : Path} {specifier index : Text}
    {ctx : ResolveContext} {e : HookError}
    (reports : e.Misses (specifier ++ index ++ ".js".toList) ctx.importer ∨
      HidesExport fs workingDirectory (specifier ++ index ++ ".js".toList) ctx.probe e) :
    ((e.dropSuffix ".js".toList).dropSuffix index).Misses specifier ctx.importer ∨
      ∃ manifest, (e.dropSuffix ".js".toList).dropSuffix index =
        .exportNotDefined (askedSubpath (specifier ++ index ++ ".js".toList)) manifest := by
  obtain misses | ⟨-, installed, -, -, -, -, -, rfl⟩ := reports
  · exact .inl misses.dropSuffix.dropSuffix
  · exact .inr ⟨_, rfl⟩

/-- A plan that fails over files fails with the specifier, or with a subpath that it asks for. -/
theorem fails_reports {engine : Engine} {fs : FileSystem} {workingDirectory : Path} {specifier : Text}
    {ctx : ResolveContext} {e : HookError} (fresh : ctx.isProbe = false) (plain : isPlain specifier = true)
    (fails : Plan.Fails (host fs workingDirectory) (engine.plan specifier ctx) e) :
    e.Misses specifier ctx.importer ∨
      ∃ manifest, e = .exportNotDefined
        (askedSubpath (if specifier.endsWith ['/'] ∧ Path.crossesDependency specifier = false then
          specifier ++ "index.js".toList else specifier)) manifest := by
  obtain ⟨whole, answer, notFound⟩ | ⟨e', answer, notFound, rfl, index⟩ := fails.of_plan fresh plain
  · have asIs : ¬(specifier.endsWith ['/'] ∧ Path.crossesDependency specifier = false) := by
      rintro ⟨slashed, clear⟩
      simp [slashed, clear] at whole
    obtain misses | ⟨-, installed, -, -, -, -, -, rfl⟩ := reports_of_resolve answer notFound
    · exact .inl misses
    · exact .inr ⟨_, by rw [if_neg asIs]⟩
  obtain ⟨slashed, clear⟩ | ⟨file, s, importer, directory⟩ := index
  · have suffix : Plan.Fails.indexSuffix specifier = "index".toList := if_pos slashed
    rw [suffix] at answer ⊢
    have told := reports_of_resolve answer notFound
    have reports := reports_index told
    rw [List.append_assoc] at reports
    rw [if_pos ⟨slashed, clear⟩]
    exact reports
  · have suffix : Plan.Fails.indexSuffix specifier = "/index".toList := if_neg (by simp [file])
    rw [suffix] at answer ⊢
    refine .inl ?_
    have misses : e'.Misses (specifier ++ "/index".toList ++ ".js".toList) ctx.importer := by
      rw [List.append_assoc] at answer ⊢
      exact misses_of_directory directory answer notFound
    exact misses.dropSuffix.dropSuffix

/-- Over files, what is told when a path or a package is not found names what was asked for, with its
importer. A subpath that is not exported is told as it was written, unless a slash at its end asks for the
index, which is told with it; a package of the workspace that a resolution came to tells its own. -/
theorem resolve_reports (engine : Engine) (fs : FileSystem) (workingDirectory : Path) (caches : Caches)
    (specifier : Text) (ctx : ResolveContext) (e : HookError) (fresh : ctx.isProbe = false)
    (kind : classify engine.config.workspaceNamespace specifier = .relative ∨
      classify engine.config.workspaceNamespace specifier = .absolute ∨
      classify engine.config.workspaceNamespace specifier = .bare)
    (failed : ((engine.resolve fs (host fs workingDirectory) specifier ctx).outcome caches).1 = .error e) :
    (∀ named importer, e = .moduleNotFound named importer ∨ e = .directoryImport named importer →
      named = specifier ∧ importer = ctx.importer) ∧
    ∀ subpath manifest, e = .exportNotDefined subpath manifest →
      (∃ s c, (engine.plan specifier ctx).ending (host fs workingDirectory) =
        .exhausted (.workspace s c)) ∨
      ∀ package sub, splitPackage specifier = (package, some sub) →
        subpath = '.' :: '/' ::
          if specifier.endsWith ['/'] ∧ Path.crossesDependency specifier = false then
            sub ++ "index.js".toList
          else sub := by
  have located : classify engine.config.workspaceNamespace specifier ≠ .url := by
    obtain kind | kind | kind := kind <;> simp [kind]
  have unaliased : classify engine.config.workspaceNamespace specifier ≠ .tildeAlias := by
    obtain kind | kind | kind := kind <;> simp [kind]
  have plain := isPlain_of_classify located unaliased
  refine ⟨fun named importer told => ?_, fun subpath manifest told => ?_⟩
  · have notFound : e.isNotFound = true := by obtain rfl | rfl := told <;> rfl
    obtain ⟨-, subpath, manifest, rfl⟩ | fails := fails_of_resolve failed notFound
    · obtain other | other := told <;> cases other
    obtain (rfl | rfl) | ⟨manifest, rfl⟩ := fails_reports fresh plain fails <;>
      obtain same | same := told <;> cases same <;> exact ⟨rfl, rfl⟩
  · subst told
    obtain ⟨workspace, -⟩ | fails := fails_of_resolve failed rfl
    · exact .inl workspace
    refine .inr fun package sub split => ?_
    obtain (other | other) | ⟨manifest', same⟩ := fails_reports fresh plain fails
    · cases other
    · cases other
    obtain ⟨rfl, -⟩ := HookError.exportNotDefined.inj same
    split
    case isTrue => rw [askedSubpath, splitPackage_append split]; rfl
    case isFalse => rw [askedSubpath, split]; rfl

/-- A package that exports nothing. -/
def closedTree : FileTree :=
  ⟨[(["node_modules".toList, "pkg".toList, "package.json".toList],
    .text "\x7b\"exports\": \x7b\x7d\x7d".toList)], []⟩

/-- A script at the root. -/
def rootContext : ResolveContext := .fresh (some ⟨"/a.js".toList⟩) .module

/-- What a subpath that is not exported is told as. -/
def unexported (subpath : Text) : HookError :=
  .exportNotDefined subpath ⟨"/node_modules/pkg/package.json".toList⟩

theorem resolve_reports_subpath :
    let fs := closedTree.lexical
    let host := FileHost.host fs Path.rootDirectory
    rootContext.isProbe = false ∧
      classify bareEngine.config.workspaceNamespace "pkg/sub".toList = .bare ∧
      ((bareEngine.resolve fs host "pkg/sub".toList rootContext).outcome {}).1 =
        .error (unexported "./sub".toList) ∧
      ((∃ s c, (bareEngine.plan "pkg/sub".toList rootContext).ending host =
          .exhausted (.workspace s c)) ∨
        "./sub".toList = '.' :: '/' :: "sub".toList) := by
  intro fs host
  have failed : ((bareEngine.resolve fs host "pkg/sub".toList rootContext).outcome {}).1 =
      .error (unexported "./sub".toList) := eq_error_of_failure? (by decide +kernel)
  have bare : classify bareEngine.config.workspaceNamespace "pkg/sub".toList = .bare := by decide
  obtain ⟨-, told⟩ := resolve_reports bareEngine fs Path.rootDirectory {} "pkg/sub".toList rootContext _
    rfl (.inr (.inr bare)) failed
  obtain workspace | asWritten := told _ _ rfl
  · exact ⟨rfl, bare, failed, .inl workspace⟩
  · exact ⟨rfl, bare, failed, .inr (asWritten "pkg".toList "sub".toList (by decide))⟩

/-- A subpath with a slash at its end is told with the index that was tried for it. -/
theorem resolve_reports_index :
    let fs := closedTree.lexical
    let host := FileHost.host fs Path.rootDirectory
    rootContext.isProbe = false ∧
      classify bareEngine.config.workspaceNamespace "pkg/sub/".toList = .bare ∧
      splitPackage "pkg/sub/".toList = ("pkg".toList, some "sub/".toList) ∧
      ((bareEngine.resolve fs host "pkg/sub/".toList rootContext).outcome {}).1 =
        .error (unexported "./sub/index.js".toList) := by
  intro fs host
  exact ⟨rfl, by decide, by decide, eq_error_of_failure? (by decide +kernel)⟩

end Engine

end ModuleHooks
