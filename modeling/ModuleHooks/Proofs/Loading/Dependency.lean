import ModuleHooks.FileSystem.Tree
import ModuleHooks.Proofs.Caches.Effect

/-!
Loading a dependency. The host has the last word: a dependency is loaded if and only if the host loads it,
and it is given as the host has it unless everything that a conversion takes works out. What fails on the
way is passed over, and then no map is remembered either.
-/
namespace ModuleHooks.Engine

open Hooked

variable (engine : Engine) (fs : FileSystem) (host : Host) (path : Path) (ctx : LoadContext)

/-- A dependency is converted: a script asks for it, it has a source, it is a module, the transformer has an
output for it, and the map of the output can be pointed at the file. -/
structure Converts (c : Caches) (loaded : LoadedSource) (finished : FinishedSource) : Prop where
  kind : ctx.kind = .commonJs
  format : ((detectFormat fs path).outcome c).1 = .ok (some .module)
  output : ∃ source output, loaded.source = some source ∧
    engine.transformer source path { target := .commonJs } = .ok output ∧
    output.finish path = .ok finished

/-- What a dependency that the host loaded is prepared as. -/
def dependencyPreparation (c : Caches) (loaded : LoadedSource) : Preparation :=
  match ctx.kind, loaded.source, ((detectFormat fs path).outcome c).1 with
  | .commonJs, some source, .ok (some .module) =>
    .transformed .commonJs (engine.transformer source path { target := .commonJs }) (some loaded.result)
  | _, _, _ => .given loaded.result

theorem runFrom_askLoad (id : ModuleId) (t : Traced Caches) :
    (Hooked.askLoad host id ctx).runFrom t =
      ((host.load id ctx).result,
        { t with trace := t.trace ++ .load id ctx :: (host.load id ctx).reads.map .hostRead }) := by
  unfold Hooked.askLoad
  rw [runFrom_bind_ok _ (runFrom_note _ t), runFrom_takeAnswer, List.append_assoc]
  rfl

/-- The format of a dependency is the one that is detected; where that fails there is none. -/
theorem runFrom_dependencyFormat (t : Traced Caches) :
    ∃ u, (dependencyFormat fs path).runFrom t =
      (.ok (((detectFormat fs path).outcome t.state).1.toOption.join), u) := by
  unfold dependencyFormat
  have detected := ((Settles.only fs).detectFormat path).runFrom_eq t.state t.trace
  rw [runFrom_bind, runFrom_attempt, detected]
  cases ((detectFormat fs path).outcome t.state).1 <;> exact ⟨_, rfl⟩

/-- A dependency is prepared if the host loads it, and its failure is the host's. -/
theorem runFrom_prepareDependency (t : Traced Caches) :
    ((prepareDependency engine fs host path ctx).runFrom t).1 =
      (host.load (.file path) ctx).result.map (dependencyPreparation engine fs path ctx t.state) := by
  unfold prepareDependency
  rw [runFrom_bind, runFrom_askLoad]
  cases (host.load (.file path) ctx).result with
  | error e => rfl
  | ok loaded =>
    unfold dependencyPreparation
    dsimp only [Except.map]
    cases ctx.kind with
    | module => rfl
    | commonJs =>
      cases loaded.source with
      | none => rfl
      | some source =>
        obtain ⟨u, ran⟩ := runFrom_dependencyFormat fs path
          { t with trace := t.trace ++ .load (.file path) ctx ::
              (host.load (.file path) ctx).reads.map .hostRead }
        dsimp only at ran ⊢
        rw [runFrom_bind_ok _ ran]
        obtain _ | _ | _ | _ | _ | _ := ((detectFormat fs path).outcome t.state).1 <;> rfl

/-- A dependency is converted, or it is given as the host has it. -/
theorem dependencyPreparation_cases (c : Caches) (loaded : LoadedSource) (maps : PathMemo Text) :
    let prepared := dependencyPreparation engine fs path ctx c loaded
    (∃ finished, Converts engine fs path ctx c loaded finished ∧
      prepared.result path = .ok ⟨some .commonJs, some finished.source, false⟩ ∧
      prepared.remember path maps = finished.remember path maps) ∨
    (∀ finished, ¬Converts engine fs path ctx c loaded finished) ∧
      prepared.result path = .ok ⟨loaded.format, loaded.source, false⟩ ∧
      prepared.remember path maps = maps := by
  intro prepared
  by_cases asked : ctx.kind = .commonJs ∧
      ((detectFormat fs path).outcome c).1 = .ok (some .module) ∧ loaded.source.isSome = true
  · obtain ⟨kind, format, there⟩ := asked
    obtain ⟨source, has⟩ := Option.isSome_iff_exists.1 there
    have same : prepared = .transformed .commonJs
        (engine.transformer source path { target := .commonJs }) (some loaded.result) := by
      dsimp only [prepared, dependencyPreparation]
      rw [kind, has, format]
    rw [same]
    cases made : (engine.transformer source path { target := .commonJs }).bind (·.finish path) with
    | ok finished =>
      refine .inl ⟨finished, ⟨kind, format, ?_⟩, ?_, ?_⟩
      · cases run : engine.transformer source path { target := .commonJs } with
        | error fault =>
          rw [run] at made
          exact nomatch made
        | ok output =>
          rw [run] at made
          exact ⟨source, output, has, run, made⟩
      · dsimp only [Preparation.result]
        rw [made]
        rfl
      · dsimp only [Preparation.remember]
        rw [made]
    | error fault =>
      refine .inr ⟨?_, ?_, ?_⟩
      · rintro finished ⟨-, -, source', output, has', run, finishes⟩
        obtain rfl : source = source' := Option.some.inj (has.symm.trans has')
        rw [run] at made
        exact nomatch finishes.symm.trans made
      · dsimp only [Preparation.result]
        rw [made]
        rfl
      · dsimp only [Preparation.remember]
        rw [made]
  · have same : prepared = .given loaded.result := by
      dsimp only [prepared, dependencyPreparation]
      split
      case h_1 kind has format => exact absurd ⟨kind, format, has ▸ rfl⟩ asked
      case h_2 => rfl
    rw [same]
    refine .inr ⟨?_, rfl, rfl⟩
    rintro finished ⟨kind, format, source, output, has, -⟩
    exact asked ⟨kind, format, has ▸ rfl⟩

/-- Dependencies are loaded as well as they can be. A file inside an installed dependency, neither a style
sheet nor a module without an extension, is loaded if and only if the host loads it, and the failure is the
host's. The result has the format and the source that the host gives, unless the dependency is converted:
then it is a script, its source is the transformed one, and the map that belongs to it is remembered. In
every other case the maps are as they were. -/
theorem load_dependency (t : Traced Caches) (inside : path.isInsideDependency = true)
    (unstyled : Path.extension path.text ≠ ".css".toList)
    (extended : ctx.kind = .module → Path.extension path.text ≠ []) :
    let loading := (engine.load fs host (.file path) ctx).runFrom t
    match (host.load (.file path) ctx).result with
    | .error e => loading.1 = .error e ∧ loading.2.state.sourceMaps = t.state.sourceMaps
    | .ok loaded =>
      (∃ finished, Converts engine fs path ctx t.state loaded finished ∧
        loading.1 = .ok ⟨some .commonJs, some finished.source, false⟩ ∧
        loading.2.state.sourceMaps = finished.remember path t.state.sourceMaps) ∨
      (∀ finished, ¬Converts engine fs path ctx t.state loaded finished) ∧
        loading.1 = .ok ⟨loaded.format, loaded.source, false⟩ ∧
        loading.2.state.sourceMaps = t.state.sourceMaps := by
  intro loading
  have prepares : prepare engine fs host path ctx = prepareDependency engine fs host path ctx := by
    unfold prepare
    rw [if_neg unstyled, if_neg, if_pos inside]
    intro bare
    obtain ⟨empty, kind⟩ := Bool.and_eq_true_iff.1 bare
    exact extended (of_decide_eq_true kind) (List.isEmpty_iff.1 empty)
  have kept := prepare_sourceMaps engine fs host path ctx t
  have runs : loading = _ := congrArg (runFrom · t) (loadFile_eq engine fs host path ctx)
  rw [runs, runFrom_bind]
  rw [prepares] at kept ⊢
  have prepared := runFrom_prepareDependency engine fs host path ctx t
  rcases ran : (prepareDependency engine fs host path ctx).runFrom t with ⟨r, u⟩
  rw [ran] at kept prepared
  cases answer : (host.load (.file path) ctx).result with
  | error e =>
    obtain rfl : r = .error e := prepared.trans (by rw [answer]; rfl)
    exact ⟨rfl, kept⟩
  | ok loaded =>
    obtain rfl : r = .ok (dependencyPreparation engine fs path ctx t.state loaded) :=
      prepared.trans (by rw [answer]; rfl)
    dsimp only
    rw [Preparation.runFrom_finish, kept]
    exact dependencyPreparation_cases engine fs path ctx t.state loaded t.state.sourceMaps

/-- An installed module. -/
def installedModule : Path := ⟨"/repo/node_modules/dep/index.mjs".toList⟩

/-- The source of every module. -/
def exportingSource : LoadedSource := ⟨some .module, some "export const x = 1;".toList⟩

/-- A host that loads this source. -/
def exportingHost : Host where
  resolve specifier _ := { result := .error (.moduleNotFound specifier none) }
  load _ _ := { result := .ok exportingSource }

/-- An engine whose transformer has a script with a map for every source. -/
def convertingEngine : Engine where
  config := { root := ⟨"/repo".toList⟩ }
  tsconfig := none
  paths := none
  workspace := none
  transformer _ _ _ := .ok ⟨"exports.x = 1;".toList, some "\x7b\x7d".toList⟩

theorem load_dependency_module :
    let ctx : LoadContext := { kind := .commonJs }
    let fs := FileTree.lexical ⟨[], []⟩
    let loading := (convertingEngine.load fs exportingHost (.file installedModule) ctx).runFrom ⟨{}, []⟩
    installedModule.isInsideDependency = true ∧
      Path.extension installedModule.text ≠ ".css".toList ∧
      (ctx.kind = .module → Path.extension installedModule.text ≠ []) ∧
      ∃ finished, Converts convertingEngine fs installedModule ctx {} exportingSource finished ∧
        loading.1 = .ok ⟨some .commonJs, some finished.source, false⟩ ∧
        loading.2.state.sourceMaps = finished.remember installedModule [] := by
  intro ctx fs loading
  have inside : installedModule.isInsideDependency = true := by decide
  have unstyled : Path.extension installedModule.text ≠ ".css".toList := by decide
  have extended : ctx.kind = .module → Path.extension installedModule.text ≠ [] := nofun
  refine ⟨inside, unstyled, extended, ?_⟩
  obtain converted | ⟨unconverted, -⟩ :=
    load_dependency convertingEngine fs exportingHost installedModule ctx ⟨{}, []⟩ inside unstyled extended
  · exact converted
  · exact absurd ⟨rfl, rfl, _, _, rfl, rfl, by cbv⟩ (unconverted ⟨_, _⟩)

end ModuleHooks.Engine
