import ModuleHooks.Proofs.Loading.Preparation
import ModuleHooks.Proofs.Resolution.Plan

/-!
What requests do to the caches. A request reaches the manifests and the module types through two
operations only: looking a directory's manifest up and looking its type up. What holds of these two, and
of the whole of what it holds of in part (`Settles`), holds of every answer; a relation that also holds of
asking (`Consults`) holds of every resolution; and one that does not look at the source maps (`Governs`)
holds of every load.
-/
namespace ModuleHooks

open Hooked

/-- A property of looking a manifest up and of looking a module type up, and of what is made of them. -/
structure Settles (fs : FileSystem) (P : ∀ α : Type, Hooked Caches α → Prop) : Prop
    extends Composes P where
  manifest : ∀ directory, P _ (Engine.manifestAt fs (Manifest.pathIn directory))
  moduleType : ∀ directory, P _ (Engine.typeOfDirectory fs directory)

/-- A relation that holds of all that a request does to find something out. Configurations are none of its
concern, and neither is any question but the one for a manifest. -/
structure Consults (fs : FileSystem) (R : Caches → List Event → Caches → Prop) : Prop
    extends Repeats R where
  settles : Settles fs fun _ => Within R
  asks : ∀ c e, (∀ path, e ≠ .readManifest path) → R c [e] c
  tsconfigs : ∀ c t, R c [] { c with tsconfigs := t }

/-- A relation that holds of all that a request does. Source maps are none of its concern either. -/
structure Governs (fs : FileSystem) (R : Caches → List Event → Caches → Prop) : Prop
    extends Consults fs R where
  sourceMaps : ∀ c m, R c [] { c with sourceMaps := m }

namespace Settles

variable {fs : FileSystem} {P : ∀ α : Type, Hooked Caches α → Prop} (settles : Settles fs P)
include settles

theorem detectFormat (path : Path) : P _ (Engine.detectFormat fs path) := by
  unfold Engine.detectFormat
  split
  · exact settles.pure _
  · split
    · split
      · exact settles.pure _
      · exact settles.bind (settles.moduleType _) fun _ => settles.pure _
    · exact settles.pure _

theorem withFormat (m : ResolvedModule) : P _ (Engine.withFormat fs m) := by
  unfold Engine.withFormat
  split
  · exact settles.bind (settles.detectFormat _) fun _ => settles.pure _
  · exact settles.pure _

theorem resolveWorkspace (engine : Engine) (specifier : Text) (ctx : ResolveContext) :
    P _ (Engine.resolveWorkspace engine fs specifier ctx) := by
  unfold Engine.resolveWorkspace
  refine settles.bind (settles.ofExcept _) fun directory =>
    settles.bind (settles.manifest _) fun found => ?_
  cases found with
  | none => exact settles.throw _
  | some manifest =>
    dsimp only
    split
    · exact settles.throw _
    · exact settles.bind (settles.detectFormat _) fun _ => settles.pure _

theorem leaf (engine : Engine) (leaf : Leaf) : P _ (leaf.conclude engine fs) := by
  cases leaf with
  | aggregate specifier ctx => exact settles.bind (settles.ofExcept _) fun _ => settles.pure _
  | workspace specifier ctx =>
    exact settles.bind (settles.resolveWorkspace engine specifier ctx) fun _ => settles.pure _
  | failed e => exact settles.throw e
  | missing e => exact settles.pure _

/-- The conclusion of a resolution. -/
theorem conclude (engine : Engine) (ending : Ending) : P _ (ending.conclude engine fs) := by
  cases ending with
  | answered m completes =>
    cases completes with
    | true => exact settles.bind (settles.withFormat m) fun _ => settles.pure _
    | false => exact settles.pure _
  | refused e => exact settles.throw e
  | exhausted leaf => exact settles.leaf engine leaf

/-- The answer of a resolution whose dialogue has ended. -/
theorem answer (engine : Engine) (ending : Ending) : P _ (ending.answer engine fs) := by
  rw [← Ending.conclude_toExcept]
  exact settles.bind (settles.conclude engine ending) fun _ => settles.ofExcept _

end Settles

/-! ## Looking up -/

section LookingUp

variable {fs : FileSystem} {R : Caches → List Event → Caches → Prop}

/-- A manifest that is not remembered is read, and remembered unless that fails. -/
theorem Engine.manifestAt_runFrom (fs : FileSystem) (path : Path) (t : Traced Caches) :
    (Engine.manifestAt fs path).runFrom t =
      match t.state.manifests.get? path with
      | some known => (.ok known, t)
      | none =>
        (Manifest.read fs path,
          { state :=
              match Manifest.read fs path with
              | .ok manifest =>
                { t.state with manifests := t.state.manifests.insertNew path manifest }
              | .error _ => t.state
            trace := t.trace ++ [.readManifest path] }) := by
  unfold Engine.manifestAt
  rw [runFrom_bind_ok _ (runFrom_state t)]
  cases t.state.manifests.get? path with
  | some known => rfl
  | none => cases Manifest.read fs path <;> rfl

theorem Engine.manifestAt_known {path : Path} {t : Traced Caches} {manifest : Option Manifest}
    (known : t.state.manifests.get? path = some manifest) :
    (Engine.manifestAt fs path).runFrom t = (.ok manifest, t) := by
  rw [manifestAt_runFrom, known]

theorem Engine.manifestAt_missed_error {path : Path} {t : Traced Caches} {e : HookError}
    (unknown : t.state.manifests.get? path = none) (read : Manifest.read fs path = .error e) :
    (Engine.manifestAt fs path).runFrom t = (.error e, { t with trace := t.trace ++ [.readManifest path] }) := by
  rw [manifestAt_runFrom, unknown, read]

theorem Engine.manifestAt_missed_ok {path : Path} {t : Traced Caches} {manifest : Option Manifest}
    (unknown : t.state.manifests.get? path = none) (read : Manifest.read fs path = .ok manifest) :
    (Engine.manifestAt fs path).runFrom t =
      (.ok manifest,
        { state := { t.state with manifests := t.state.manifests.insertNew path manifest }
          trace := t.trace ++ [.readManifest path] }) := by
  rw [manifestAt_runFrom, unknown, read]

theorem Engine.isBoundary_congr {directory other : Path}
    (same : directory.components = other.components) :
    Engine.isBoundary directory = Engine.isBoundary other := by
  rw [Engine.isBoundary, Path.fileName?, same, Engine.isBoundary, Path.fileName?]

/-- Every directory that a walk upwards had to look at remembers what the walk came to, unless it
failed. -/
theorem Engine.typeOfDirectory_runFrom (fs : FileSystem) (directory : Path) (t : Traced Caches) :
    (Engine.typeOfDirectory fs directory).runFrom t =
      match (Engine.searchType fs directory.ancestors).runFrom t with
      | (.error e, u) => (.error e, u)
      | (.ok (type, looked), u) =>
        (.ok type,
          { u with
            state :=
              { u.state with
                moduleTypes := looked.foldl (fun m d => m.insertNew d type) u.state.moduleTypes } }) := by
  unfold Engine.typeOfDirectory
  rw [runFrom_bind]
  rcases (Engine.searchType fs directory.ancestors).runFrom t with ⟨e | ⟨type, looked⟩, u⟩ <;> rfl

/-- Going up through directories changes what looking manifests up changes. -/
theorem Engine.searchType_within (repeats : Repeats R)
    (manifest : ∀ directory, Within R (Engine.manifestAt fs (Manifest.pathIn directory)))
    (directories : List Path) :
    Within R (Engine.searchType fs directories) := by
  induction directories with
  | nil => exact .pure repeats _
  | cons directory above ih =>
    unfold Engine.searchType
    split
    · exact .pure repeats _
    · refine .bind repeats (.state repeats) fun caches => ?_
      split
      · exact .pure repeats _
      · refine .bind repeats (manifest _) fun found => ?_
        split
        · exact .pure repeats _
        · exact .bind repeats ih fun _ => .pure repeats _

/-- A manifest is read that was not remembered. -/
def Event.IsManifestRead (e : Event) : Prop := ∃ path, e = .readManifest path

/-- Looking up reads nothing but manifests. -/
theorem Settles.only (fs : FileSystem) : Settles fs fun _ => Within (Only Event.IsManifestRead) := by
  have repeats : Repeats (Only Event.IsManifestRead : Caches → _) := Only.repeats _
  have manifest (directory : Path) :
      Within (Only Event.IsManifestRead) (Engine.manifestAt fs (Manifest.pathIn directory)) := by
    refine .bind repeats (.state repeats) fun caches => ?_
    split
    · exact .pure repeats _
    · exact .bind repeats (.note fun _ => by simp [Only, Event.IsManifestRead]) fun _ =>
        .bind repeats (.ofExcept repeats _) fun _ =>
          .bind repeats (.update fun _ => by simp [Only]) fun _ => .pure repeats _
  refine { toComposes := Within.composes repeats, manifest, moduleType := fun directory => ?_ }
  exact .bind repeats (Engine.searchType_within repeats manifest _) fun _ =>
    .bind repeats (.update fun _ => by simp [Only]) fun _ => .pure repeats _

end LookingUp

namespace Consults

variable {fs : FileSystem} {R : Caches → List Event → Caches → Prop} (consults : Consults fs R)
include consults

theorem takeAnswer {α : Type} (answer : HostAnswer α) :
    Within R (Hooked.takeAnswer answer : Hooked Caches α) := by
  intro c
  refine ⟨answer.result, answer.reads.map .hostRead, c, ?_, fun trace => runFrom_takeAnswer _ _⟩
  induction answer.reads with
  | nil => exact consults.refl c
  | cons path rest ih => exact consults.trans (consults.asks _ _ (by simp)) ih

theorem askResolve (host : Host) (specifier : Text) (ctx : ResolveContext) :
    Within R (Hooked.askResolve host specifier ctx : Hooked Caches _) :=
  .bind consults.toRepeats (.note fun c => consults.asks c _ (by simp)) fun _ => consults.takeAnswer _

theorem askLoad (host : Host) (id : ModuleId) (ctx : LoadContext) :
    Within R (Hooked.askLoad host id ctx : Hooked Caches _) :=
  .bind consults.toRepeats (.note fun c => consults.asks c _ (by simp)) fun _ => consults.takeAnswer _

/-- Following a plan. -/
theorem run (engine : Engine) (host : Host) (p : Plan) : Within R (p.run engine fs host) := by
  have repeats := consults.toRepeats
  induction p with
  | stop leaf => exact consults.settles.leaf engine leaf
  | ask specifier ctx completes next ih =>
    unfold Plan.run
    refine .bind repeats (consults.askResolve host specifier ctx).attempt fun answer => ?_
    cases answer with
    | ok m => exact consults.settles.conclude engine (.answered m completes)
    | error e =>
      dsimp only
      split
      · exact ih e
      · exact .throw repeats e

/-- Every resolution. -/
theorem resolve (engine : Engine) (host : Host) (specifier : Text) (ctx : ResolveContext) :
    Within R (engine.resolve fs host specifier ctx) := by
  have repeats := consults.toRepeats
  refine .bind repeats ?_ fun attempt => .ofExcept repeats _
  rw [← Plan.run_within]
  exact consults.run engine host _

end Consults

/-! ## Configurations -/

/-- What a computation does to the configurations it does to the caches. -/
theorem Hooked.Within.onTsconfigs {S : TsconfigCache → List Event → TsconfigCache → Prop}
    {R : Caches → List Event → Caches → Prop} {α : Type} {x : Hooked TsconfigCache α}
    (within : Within S x)
    (lifted : ∀ c asked u, S c.tsconfigs asked u → R c asked { c with tsconfigs := u }) :
    Within R (Hooked.onTsconfigs x) := by
  intro c
  obtain ⟨r, asked, u, held, ran⟩ := within c.tsconfigs
  exact ⟨r, asked, _, lifted c asked u held, fun trace => by simp [Hooked.onTsconfigs, ran]⟩

/-- A file is read that is no manifest to be remembered. -/
def Event.IsRead (e : Event) : Prop := ∃ path, e = .read path

section Configurations

variable {σ : Type} {fs : FileSystem}

theorem Tsconfig.readText_onlyReads (path : Path) :
    Within (Only Event.IsRead) (Hooked.readText fs path : Hooked σ _) :=
  .bind (Only.repeats _) (.note fun _ => by simp [Only, Event.IsRead]) fun _ =>
    .pure (Only.repeats _) _

/-- Loading a configuration with all that it extends. -/
theorem Tsconfig.loadBegun_onlyReads (begun : List Path) (path : Path) :
    Within (Only Event.IsRead) (Tsconfig.loadBegun fs begun path : Hooked σ _) := by
  have repeats : Repeats (Only Event.IsRead : σ → _) := Only.repeats _
  refine Tsconfig.loadBegun.induct fs
    (fun begun path => Within (Only Event.IsRead) (Tsconfig.loadBegun fs begun path : Hooked σ _))
    (fun begun path bases merged =>
      Within (Only Event.IsRead) (Tsconfig.loadBases fs begun path bases merged : Hooked σ _))
    ?config ?none ?missing ?cycle ?base begun path
  case config =>
    intro begun path bases
    rw [Tsconfig.loadBegun]
    refine .bind repeats (Tsconfig.readText_onlyReads path) fun source => ?_
    cases source with
    | error failure => exact .throw repeats _
    | ok source =>
      refine .bind repeats (.ofExcept repeats _) fun config =>
        .bind repeats (bases config) fun merged => ?_
      cases merged <;> exact .pure repeats _
  case none =>
    intro begun path merged
    rw [Tsconfig.loadBases]
    exact .pure repeats merged
  case missing =>
    intro begun path base bases merged absent
    rw [Tsconfig.loadBases]
    split
    case h_1 => exact .throw repeats _
    case h_2 found present => exact absurd (absent.symm.trans present) (by simp)
  case cycle =>
    intro begun path base bases merged found present again
    rw [Tsconfig.loadBases]
    split
    case h_1 => exact .throw repeats _
    case h_2 found' present' =>
      obtain rfl : found = found' := Option.some.inj (present.symm.trans present')
      rw [dif_pos again]
      exact .throw repeats _
  case base =>
    intro begun path base bases merged found present new loaded rest
    rw [Tsconfig.loadBases]
    split
    case h_1 => exact .throw repeats _
    case h_2 found' present' =>
      obtain rfl : found = found' := Option.some.inj (present.symm.trans present')
      rw [dif_neg new]
      exact .bind repeats loaded fun config => rest config

theorem Tsconfig.load_onlyReads (path : Path) :
    Within (Only Event.IsRead) (Tsconfig.load fs path : Hooked σ _) :=
  .bind (Only.repeats _) (Tsconfig.loadBegun_onlyReads _ path) fun _ => .pure (Only.repeats _) _

theorem TsconfigCache.load_onlyReads (path : Path) :
    Within (Only Event.IsRead) (TsconfigCache.load fs path) := by
  have repeats : Repeats (Only Event.IsRead : TsconfigCache → _) := Only.repeats _
  refine .bind repeats (.state repeats) fun cache => ?_
  cases cache.byPath.get? path with
  | some loaded => exact .pure repeats loaded
  | none =>
    refine .bind repeats (Tsconfig.load_onlyReads path) fun loaded =>
      .bind repeats (.update fun _ => by simp [Only]) fun _ => .pure repeats loaded

/-- Looking up the options that govern a file. -/
theorem TsconfigCache.optionsFor_onlyReads (fallback : Option LoadedTsconfig) (file : Path) :
    Within (Only Event.IsRead) (TsconfigCache.optionsFor fs fallback file) := by
  have repeats : Repeats (Only Event.IsRead : TsconfigCache → _) := Only.repeats _
  refine .bind repeats (.bind repeats (.state repeats) fun cache =>
    .bind repeats (.update fun _ => by simp [Only]) fun _ => ?_) fun governing => ?_
  · cases (TsconfigCache.search fs cache.nearestByDirectory
      (LoadedTsconfig.directoryOf file).ancestors).1 with
    | none => exact .pure repeats none
    | some path => exact .bind repeats (TsconfigCache.load_onlyReads path) fun _ => .pure repeats _
  · cases governing.filter (·.admits file) <;> exact .pure repeats _

end Configurations

/-! ## Loading -/

namespace Consults

variable {fs : FileSystem} {R : Caches → List Event → Caches → Prop} (consults : Consults fs R)
include consults

private theorem reads {c : Caches} {asked : List Event} (only : ∀ e ∈ asked, e.IsRead) :
    R c asked c := by
  induction asked with
  | nil => exact consults.refl c
  | cons e rest ih =>
    obtain ⟨path, rfl⟩ := only e (by simp)
    exact consults.trans (consults.asks c _ (by simp)) (ih fun e member => only e (by simp [member]))

/-- Asking the configurations. -/
theorem onTsconfigs {α : Type} {x : Hooked TsconfigCache α} (only : Within (Only Event.IsRead) x) :
    Within R (Hooked.onTsconfigs x) :=
  only.onTsconfigs fun c asked u reads => by
    rw [← List.append_nil asked]
    exact consults.trans (consults.reads reads) (consults.tsconfigs c u)

theorem readText (path : Path) : Within R (Hooked.readText fs path : Hooked Caches _) :=
  .bind consults.toRepeats (.note fun c => consults.asks c _ (by simp)) fun _ =>
    .pure consults.toRepeats _

theorem compiled (engine : Engine) (path : Path) (source : Text) (target : LoaderKind) :
    Within R (Engine.compiled engine fs path source target) :=
  .bind consults.toRepeats
    (consults.onTsconfigs (TsconfigCache.optionsFor_onlyReads engine.tsconfig path)) fun _ =>
    .pure consults.toRepeats _

theorem prepareDependency (engine : Engine) (host : Host) (path : Path) (ctx : LoadContext) :
    Within R (Engine.prepareDependency engine fs host path ctx) := by
  have repeats := consults.toRepeats
  unfold Engine.prepareDependency
  refine .bind repeats (consults.askLoad host _ ctx) fun loaded => ?_
  split
  · refine .bind repeats (.bind repeats (consults.settles.detectFormat path).attempt fun format => ?_)
      fun format => ?_
    · cases format <;> exact .pure repeats _
    · split <;> exact .pure repeats _
  · exact .pure repeats _

theorem prepareCommonJs (engine : Engine) (host : Host) (path : Path) (ext : Text)
    (ctx : LoadContext) : Within R (Engine.prepareCommonJs engine fs host path ext ctx) := by
  have repeats := consults.toRepeats
  unfold Engine.prepareCommonJs
  refine .bind repeats (consults.askLoad host _ ctx) fun loaded => ?_
  split
  · exact .pure repeats _
  · split
    · exact .pure repeats _
    · split
      · exact .pure repeats _
      · exact .bind repeats (consults.compiled engine path _ _) fun _ => .pure repeats _

theorem prepareModule (engine : Engine) (host : Host) (path : Path) (ext : Text)
    (ctx : LoadContext) : Within R (Engine.prepareModule engine fs host path ext ctx) := by
  have repeats := consults.toRepeats
  unfold Engine.prepareModule
  refine .bind repeats (consults.askLoad host _ _) fun loaded => ?_
  split
  · exact .pure repeats _
  · split
    · exact .bind repeats (consults.compiled engine path _ _) fun _ => .pure repeats _
    · extract_lets known finish
      have finished (format : Option ModuleFormat) : Within R (finish format) := by
        dsimp only [finish]
        split <;> exact .pure repeats _
      split
      · exact .bind repeats (.pure repeats _) finished
      · exact .bind repeats (consults.settles.detectFormat path) finished

/-- Every preparation. -/
theorem prepare (engine : Engine) (host : Host) (path : Path) (ctx : LoadContext) :
    Within R (Engine.prepare engine fs host path ctx) := by
  have repeats := consults.toRepeats
  unfold Engine.prepare
  extract_lets ext
  split
  · exact .bind repeats (consults.askLoad host _ ctx) fun _ => .pure repeats _
  · split
    · refine .bind repeats (consults.readText path) fun source => ?_
      cases source with
      | error failure => exact .throw repeats _
      | ok source => exact .pure repeats _
    · split
      · exact consults.prepareDependency engine host path ctx
      · split
        · exact consults.prepareCommonJs engine host path ext ctx
        · exact consults.prepareModule engine host path ext ctx

end Consults

namespace Governs

variable {fs : FileSystem} {R : Caches → List Event → Caches → Prop} (governs : Governs fs R)
include governs

theorem finish (path : Path) (p : Preparation) : Within R (p.finish path) :=
  fun c => ⟨p.result path, [], _, governs.sourceMaps c (p.remember path c.sourceMaps), fun trace => by
    simp [Preparation.runFrom_finish]⟩

/-- Every load. -/
theorem load (engine : Engine) (host : Host) (id : ModuleId) (ctx : LoadContext) :
    Within R (Engine.load engine fs host id ctx) := by
  have repeats := governs.toRepeats
  cases id with
  | virtual m => exact .ofExcept repeats _
  | url address => exact .bind repeats (governs.askLoad host _ ctx) fun _ => .pure repeats _
  | file path =>
    unfold Engine.load
    dsimp only
    rw [Engine.loadFile_eq]
    exact .bind repeats (governs.prepare engine host path ctx) (governs.finish path)

end Governs

/-! ## Source maps -/

/-- The source maps stay as they are. -/
def Caches.KeepsMaps (c : Caches) (_ : List Event) (later : Caches) : Prop :=
  later.sourceMaps = c.sourceMaps

theorem Caches.KeepsMaps.repeats : Repeats Caches.KeepsMaps :=
  ⟨fun _ => rfl, fun first second => Eq.trans second first⟩

/-- Finding something out changes no source map. -/
theorem Caches.KeepsMaps.consults (fs : FileSystem) : Consults fs Caches.KeepsMaps := by
  have repeats := Caches.KeepsMaps.repeats
  have manifest (directory : Path) :
      Within Caches.KeepsMaps (Engine.manifestAt fs (Manifest.pathIn directory)) := by
    refine .bind repeats (.state repeats) fun caches => ?_
    split
    · exact .pure repeats _
    · exact .bind repeats (.note fun _ => rfl) fun _ => .bind repeats (.ofExcept repeats _) fun _ =>
        .bind repeats (.update fun _ => rfl) fun _ => .pure repeats _
  refine { toRepeats := repeats, settles := ?_, asks := fun _ _ _ => rfl, tsconfigs := fun _ _ => rfl }
  refine { toComposes := Within.composes repeats, manifest, moduleType := fun directory => ?_ }
  exact .bind repeats (Engine.searchType_within repeats manifest _) fun _ =>
    .bind repeats (.update fun _ => rfl) fun _ => .pure repeats _

namespace Engine

variable (engine : Engine) (fs : FileSystem) (host : Host)

theorem prepare_sourceMaps (path : Path) (ctx : LoadContext) (t : Traced Caches) :
    ((prepare engine fs host path ctx).runFrom t).2.state.sourceMaps = t.state.sourceMaps :=
  let ⟨_, kept⟩ := ((Caches.KeepsMaps.consults fs).prepare engine host path ctx).of_runFrom (t := t) rfl
  kept

end Engine
end ModuleHooks
