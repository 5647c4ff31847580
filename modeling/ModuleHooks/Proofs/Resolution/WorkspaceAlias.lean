import ModuleHooks.FileSystem.Tree
import ModuleHooks.Host.FileHost
import ModuleHooks.Proofs.Caches.Growth
import ModuleHooks.Proofs.Resolution.PathSpecifier

/-!
Members of the workspace namespace. Such a specifier is resolved through what its package exports, and the
host has no part in it. All that is looked up on the way is remembered, so a member that was found once is
found again without a question, however the files have changed.
-/
namespace ModuleHooks.Engine

open Hooked Specifier

/-- A specifier in a namespace, the slug of the package that it names, and the subpath in that package. -/
inductive IsMember (ns : Text) : Text → Text → Text → Prop
  | package {slug : Text} (plain : '/' ∉ slug) : IsMember ns (ns ++ '/' :: slug) slug ['.']
  | inside {slug rest : Text} (plain : '/' ∉ slug) :
      IsMember ns (ns ++ '/' :: (slug ++ '/' :: rest)) slug ('.' :: '/' :: rest)

/-- What is read as a member of the workspace namespace is one. -/
theorem isMember_of_classify {ns specifier : Text} (kind : classify ns specifier = .workspaceAlias) :
    ∃ slug subpath, IsMember ns specifier slug subpath ∧
      splitSlug ((afterNamespace? ns specifier).getD []) = (slug, subpath) := by
  obtain ⟨rest, behind⟩ := afterNamespace?_of_classify kind
  have whole : specifier = ns ++ '/' :: rest := by
    unfold afterNamespace? at behind
    split at behind
    case isTrue => exact nomatch behind
    case isFalse => simpa using Text.append_of_after? behind
  subst whole
  rw [behind, Option.getD_some, splitSlug]
  cases cut : Text.cutAt? '/' rest with
  | none => exact ⟨rest, ['.'], .package (Text.notMem_of_cutAt? cut), rfl⟩
  | some pieces =>
    obtain ⟨slug, sub⟩ := pieces
    obtain ⟨rfl, plain⟩ := Text.cutAt?_eq_some cut
    exact ⟨slug, _, .inside plain, rfl⟩

section

variable {engine : Engine} {fs : FileSystem} {host : Host} {specifier slug subpath : Text}
  {ctx : ResolveContext} {m : ResolvedModule} {t u : Traced Caches}

/-- A member of the workspace namespace is resolved without the host. -/
theorem resolve_workspaceAlias
    (kind : classify engine.config.workspaceNamespace specifier = .workspaceAlias)
    (clear : Path.crossesDependency specifier = false) (ctx : ResolveContext) :
    engine.resolve fs host specifier ctx = engine.resolveWorkspace fs specifier ctx := by
  have step (step : Resolver) : engine.resolveStep fs host step specifier ctx =
      (do return .found (← engine.resolveWorkspace fs specifier ctx)) := by
    unfold resolveStep
    rw [clear, if_neg Bool.false_ne_true]
    simp only [kind]
  unfold resolve
  show (do liftExcept (← engine.resolveStep fs host _ specifier ctx).toExcept) = _
  rw [step]
  simp [Attempt.toExcept, liftExcept]

/-- A package that was found is in the table. -/
theorem packageDirectory_ok {directory : Path}
    (found : packageDirectory engine specifier slug = .ok directory) :
    ∃ table category, engine.workspace = some table ∧ table.category? slug = some category ∧
      directory = (table.root.child category).child slug := by
  unfold packageDirectory at found
  split at found
  case isTrue => exact nomatch found
  case isFalse =>
    cases declared : engine.workspace with
    | none => simp [declared] at found
    | some table =>
      cases known : table.category? slug with
      | none => simp [declared, WorkspaceTable.directory?, known] at found
      | some category =>
        simp only [declared, WorkspaceTable.directory?, known, Option.map_some] at found
        cases found
        exact ⟨table, category, rfl, known, rfl⟩

variable (parts : splitSlug ((afterNamespace? engine.config.workspaceNamespace specifier).getD []) =
  (slug, subpath))
include parts

/-- A member whose package is not there fails before anything is looked up. -/
theorem resolveWorkspace_error {e : HookError}
    (unknown : packageDirectory engine specifier slug = .error e) :
    (engine.resolveWorkspace fs specifier ctx).runFrom t = (.error e, t) := by
  unfold resolveWorkspace
  simp only [parts, unknown]
  rfl

/-- What a resolved member goes back to: its package, the manifest of that, what it exports for the
subpath, and the format of the file. -/
theorem resolveWorkspace_ok
    (ran : (engine.resolveWorkspace fs specifier ctx).runFrom t = (.ok m, u)) :
    ∃ directory manifest target format v,
      packageDirectory engine specifier slug = .ok directory ∧
      (manifestAt fs (Manifest.pathIn directory)).runFrom t = (.ok (some manifest), v) ∧
      (manifest.exports.bind fun e => Package.exported? e ctx.conditions subpath) = some target ∧
      (detectFormat fs (directory.child target).normalize).runFrom v = (.ok format, u) ∧
      m = { id := .file (directory.child target).normalize, format, shortCircuit := true } := by
  unfold resolveWorkspace at ran
  simp only [parts] at ran
  obtain ⟨directory, v, located, ran⟩ := exists_of_runFrom_bind ran
  rw [runFrom_liftExcept] at located
  obtain ⟨package, rfl⟩ := Prod.mk.inj located
  obtain ⟨found, v, manifest, ran⟩ := exists_of_runFrom_bind ran
  cases found with
  | none => exact nomatch congrArg Prod.fst ran
  | some found =>
    dsimp only at ran
    cases exported : found.exports.bind fun e => Package.exported? e ctx.conditions subpath with
    | none =>
      simp only [exported] at ran
      exact nomatch congrArg Prod.fst ran
    | some target =>
      simp only [exported] at ran
      obtain ⟨format, w, detected, ran⟩ := exists_of_runFrom_bind ran
      cases ran
      exact ⟨directory, found, target, format, v, package, manifest, exported, detected, rfl⟩

/-- A member that was resolved is resolved to the same again, without a question, whatever the files are
by then, in all circumstances with the same conditions. -/
theorem resolveWorkspace_again {ctx' : ResolveContext} {later : Caches}
    (ran : (engine.resolveWorkspace fs specifier ctx).runFrom t = (.ok m, u))
    (grown : ∃ files asked, Caches.Grows files u.state asked later)
    (conditions : ctx'.conditions = ctx.conditions) (files : FileSystem) :
    (engine.resolveWorkspace files specifier ctx').runFrom ⟨later, []⟩ = (.ok m, ⟨later, []⟩) := by
  obtain ⟨directory, manifest, target, format, v, package, found, exported, detected, rfl⟩ :=
    resolveWorkspace_ok parts ran
  obtain ⟨among, asked, grown⟩ := grown
  have settles : Settles fs fun _ => Within (Caches.Grows fun _ => True) := Caches.Grows.settles trivial
  obtain ⟨between, grownThere⟩ := (settles.detectFormat _).of_runFrom detected
  have manifestAgain := manifestAt_again found (grownThere.manifests.trans grown.manifests) files
  have formatAgain := detectFormat_again detected grown.moduleTypes files
  unfold resolveWorkspace
  simp only [parts, package]
  rw [runFrom_bind_ok _ (runFrom_liftExcept _ _), runFrom_bind_ok _ manifestAgain]
  simp only [conditions, exported]
  rw [runFrom_bind_ok _ formatAgain]
  rfl

end

/-- A member of the workspace namespace, whatever the host is. It is never asked; only manifests are read.
Without a slug, without a table, or for a slug that the table does not have, the answer is a failure that
says so, and nothing is read. A module is answered only if it is the file that the manifest of the package
exports for the subpath under the conditions; and whatever is resolved and loaded from then on, under
whatever files, the same is answered in all circumstances with these conditions, without a question. -/
theorem resolve_member (engine : Engine) (fs : FileSystem) (host : Host) (caches : Caches)
    (specifier : Text) (ctx : ResolveContext)
    (kind : classify engine.config.workspaceNamespace specifier = .workspaceAlias)
    (clear : Path.crossesDependency specifier = false) :
    let ran := (engine.resolve fs host specifier ctx).outcome caches
    let failsWith fault := ran = (.error (.unresolvedAlias specifier fault), ⟨caches, []⟩)
    (∀ e ∈ ran.2.trace, e.IsManifestRead) ∧
    ∃ slug subpath, IsMember engine.config.workspaceNamespace specifier slug subpath ∧
      (slug = [] → failsWith .missingSlug) ∧
      (slug ≠ [] → engine.workspace = none → failsWith .noPackages) ∧
      (∀ table, slug ≠ [] → engine.workspace = some table → table.category? slug = none →
        failsWith (.unknownPackage engine.config.workspaceNamespace slug)) ∧
      ∀ m, ran.1 = .ok m →
        (∃ table category manifest exports target format,
          engine.workspace = some table ∧ table.category? slug = some category ∧
          let directory := (table.root.child category).child slug
          (caches.manifests.get? (Manifest.pathIn directory) = some (some manifest) ∨
            caches.manifests.get? (Manifest.pathIn directory) = none ∧
              Manifest.read fs (Manifest.pathIn directory) = .ok (some manifest)) ∧
          manifest.exports = some exports ∧
          Package.exported? exports ctx.conditions subpath = some target ∧
          m = { id := .file (directory.child target).normalize, format, shortCircuit := true }) ∧
        ∀ occasions files host' ctx', ctx'.conditions = ctx.conditions →
          let later := (engine.session occasions ⟨ran.2.state, []⟩).state
          (engine.resolve files host' specifier ctx').outcome later = (.ok m, ⟨later, []⟩) := by
  intro ran failsWith
  obtain ⟨slug, subpath, member, parts⟩ := isMember_of_classify kind
  have same : ran = (engine.resolveWorkspace fs specifier ctx).runFrom ⟨caches, []⟩ := by
    rw [← outcome_eq_runFrom, ← resolve_workspaceAlias kind clear ctx]
  have fails {fault : AliasFault}
      (unknown : packageDirectory engine specifier slug = .error (.unresolvedAlias specifier fault)) :
      failsWith fault := same.trans (resolveWorkspace_error parts unknown)
  refine ⟨?_, slug, subpath, member, fun empty => fails ?_, fun some none => fails ?_,
    fun table some found none => fails ?_, fun m ok => ⟨?_, ?_⟩⟩
  · rw [same, ← outcome_eq_runFrom]
    exact ((Settles.only fs).resolveWorkspace engine specifier ctx).outcome caches
  · simp [packageDirectory, empty]
  · simp [packageDirectory, some, none]
  · simp [packageDirectory, some, found, WorkspaceTable.directory?, none]
  · rw [same] at ok
    obtain ⟨directory, manifest, target, format, v, package, found, exported, -, rfl⟩ :=
      resolveWorkspace_ok (m := m) parts (Prod.ext ok rfl)
    obtain ⟨table, category, declared, known, rfl⟩ := packageDirectory_ok package
    obtain ⟨exports, declares, target'⟩ := Option.bind_eq_some_iff.1 exported
    exact ⟨table, category, manifest, exports, target, format, declared, known, manifestAt_ok found,
      declares, target', rfl⟩
  · intro occasions files host' ctx' conditions later
    have first : (engine.resolveWorkspace fs specifier ctx).runFrom ⟨caches, []⟩ = (.ok m, ran.2) := by
      rw [← same, ← ok]
    have grown := engine.session_grows occasions ran.2.state
    rw [resolve_workspaceAlias kind clear ctx', outcome_eq_runFrom]
    exact resolveWorkspace_again parts first ⟨_, _, grown⟩ conditions files

/-- An engine whose workspace has a package. -/
def memberEngine : Engine :=
  ⟨{ root := ⟨"/repo".toList⟩ }, none, none,
    some ⟨⟨"/repo".toList⟩, [("a".toList, "packages".toList)]⟩, Transformer.passthrough⟩

/-- What the package exports is remembered. -/
def memberCaches : Caches where
  manifests := PathMemo.insert ⟨"/repo/packages/a/package.json".toList⟩
    (some { exports := some (.string "./index.ts".toList) }) []

theorem resolve_member_package :
    let fs := FileTree.empty.lexical
    let host := FileHost.host fs Path.rootDirectory
    let ctx := ResolveContext.fresh none .module
    let ran := (memberEngine.resolve fs host "@t/a".toList ctx).outcome memberCaches
    let m : ResolvedModule :=
      { id := .file ⟨"/repo/packages/a/index.ts".toList⟩, format := some .commonJs, shortCircuit := true }
    classify memberEngine.config.workspaceNamespace "@t/a".toList = .workspaceAlias ∧
      Path.crossesDependency "@t/a".toList = false ∧ ran.1 = .ok m ∧
      ∀ occasions files host' ctx', ctx'.conditions = ctx.conditions →
        let later := (memberEngine.session occasions ⟨ran.2.state, []⟩).state
        (memberEngine.resolve files host' "@t/a".toList ctx').outcome later = (.ok m, ⟨later, []⟩) := by
  intro fs host ctx ran m
  have ok : ran.1 = .ok m := eq_ok_of_toOption (by decide +kernel)
  obtain ⟨-, slug, subpath, -, -, -, -, answers⟩ :=
    resolve_member memberEngine fs host memberCaches "@t/a".toList ctx (by decide) (by decide)
  exact ⟨by decide, by decide, ok, (answers m ok).2⟩

end ModuleHooks.Engine
