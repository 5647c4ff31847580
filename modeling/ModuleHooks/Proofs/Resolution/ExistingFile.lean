import ModuleHooks.FileSystem.Tree
import ModuleHooks.Host.FileHost
import ModuleHooks.Proofs.Path.Normal
import ModuleHooks.Proofs.Resolution.HostCalls
import ModuleHooks.Proofs.Resolution.WorkspaceAlias

/-!
Files that are there. Wherever the host over files looks, it answers with a path only after it saw a
regular file under that very path, in its normal form; and a resolution takes the identity of a file from
the host, unless a package of the workspace exports it.
-/
namespace ModuleHooks

open Hooked

namespace FileHost

/-- What the host may find: a regular file under its normal path, or a module that the runtime provides. -/
def IsFound (fs : FileSystem) (m : ResolvedModule) : Prop :=
  m.shortCircuit = false ∧
    ((∃ path, m.id = .file path ∧ fs.isFile path = true ∧ path.normalize = path) ∨
      ∃ address, m.id = .url address)

/-- The computation comes to nothing but what the host may find. -/
def Finds (fs : FileSystem) (x : Hooked Unit ResolvedModule) : Prop :=
  ∀ t m, (x.runFrom t).1 = .ok m → IsFound fs m

section

variable {fs : FileSystem} {specifier : Text} {ctx : ResolveContext} {m : ResolvedModule}

theorem isFound_fileModule {path : Path} (file : fs.isFile path.normalize = true) :
    IsFound fs (fileModule path.normalize) :=
  ⟨rfl, .inl ⟨path.normalize, rfl, file, path.normalize_normalize⟩⟩

theorem Finds.throw (e : HookError) : Finds fs (throw e) := by
  intro t m ok
  exact nomatch ok

theorem Finds.ofExcept {r : Except HookError ResolvedModule} (found : ∀ m, r = .ok m → IsFound fs m) :
    Finds fs (liftExcept r) := by
  intro t m ok
  rw [runFrom_liftExcept] at ok
  exact found m ok

theorem Finds.bind {α : Type} {x : Hooked Unit α} {f : α → Hooked Unit ResolvedModule}
    (rest : ∀ a, Finds fs (f a)) : Finds fs (x >>= f) := by
  intro t m ok
  obtain ⟨a, u, -, ran⟩ := exists_of_runFrom_bind (Prod.ext ok rfl)
  exact rest a u m (congrArg Prod.fst ran)

theorem isFound_of_atPath {path : Path} (ok : atPath fs specifier path ctx = .ok m) : IsFound fs m := by
  unfold atPath at ok
  extract_lets normal at ok
  split at ok
  case isTrue file =>
    cases ok
    exact isFound_fileModule file
  case isFalse => split at ok <;> exact nomatch ok

theorem isFound_of_mainFile {directory : Path} {manifest : Manifest}
    (ok : mainFile fs specifier directory manifest ctx = .ok m) : IsFound fs m := by
  unfold mainFile at ok
  cases found : (mainCandidates directory manifest).find? fs.isFile with
  | none =>
    rw [found] at ok
    exact nomatch ok
  | some path =>
    rw [found] at ok
    cases ok
    obtain ⟨candidate, -, rfl⟩ := List.mem_map.1 (List.mem_of_find?_eq_some found)
    exact isFound_fileModule (List.find?_some found)

theorem isFound_of_inPackage {directory : Path} {subpath : Option Text} {manifest : Manifest}
    (ok : inPackage fs specifier directory subpath manifest ctx = .ok m) : IsFound fs m := by
  unfold inPackage at ok
  split at ok
  case h_1 exports _ =>
    extract_lets exported at ok
    split at ok
    case h_1 => exact nomatch ok
    case h_2 target _ =>
      extract_lets path at ok
      split at ok
      case isTrue file =>
        cases ok
        exact isFound_fileModule file
      case isFalse => exact nomatch ok
  case h_2 =>
    split at ok
    case h_1 => exact isFound_of_atPath ok
    case h_2 => exact isFound_of_mainFile ok

/-- A private name, by the nearest manifest going up. -/
theorem Finds.privateName (directories : List Path) :
    Finds fs (FileHost.privateName fs specifier ctx directories) := by
  induction directories with
  | nil => exact .throw _
  | cons directory above ih =>
    unfold FileHost.privateName
    refine .bind fun manifest => ?_
    split
    case h_1 => exact ih
    case h_2 =>
      split
      case h_1 => exact .throw _
      case h_2 => exact .ofExcept fun m ok => isFound_of_atPath ok

/-- The name of a package, by the nearest installation going up. -/
theorem Finds.package (directories : List Path) :
    Finds fs (FileHost.package fs specifier ctx directories) := by
  induction directories with
  | nil => exact .throw _
  | cons directory above ih =>
    unfold FileHost.package
    split
    extract_lets installed
    split
    case isTrue => exact ih
    case isFalse => exact .bind fun manifest => .ofExcept fun m ok => isFound_of_inPackage ok

theorem Finds.resolveSpecifier (fs : FileSystem) (workingDirectory : Path) (specifier : Text)
    (ctx : ResolveContext) : Finds fs (FileHost.resolveSpecifier fs workingDirectory specifier ctx) := by
  have lookedAt (path : Path) : Finds fs (liftExcept (atPath fs specifier path ctx)) :=
    .ofExcept fun m ok => isFound_of_atPath ok
  have provided (name : Text) :
      Finds fs (pure { id := .url (builtinScheme ++ name), format := some .builtin }) := by
    intro t m ok
    cases ok
    exact ⟨rfl, .inr ⟨_, rfl⟩⟩
  unfold FileHost.resolveSpecifier
  extract_lets base
  split
  · exact .throw _
  split
  · exact provided _
  split
  · split
    · exact lookedAt _
    · exact .throw _
  split
  · exact .privateName _
  split
  · exact lookedAt _
  split
  · exact lookedAt _
  split
  · exact .throw _
  · exact .package _

/-- All that the host over files finds is there. -/
theorem isFound_of_resolve {workingDirectory : Path}
    (ok : ((host fs workingDirectory).resolve specifier ctx).result = .ok m) : IsFound fs m :=
  Finds.resolveSpecifier fs workingDirectory specifier ctx ⟨(), []⟩ m ok

end

end FileHost

namespace Engine

open FileHost Specifier

/-- Over files, a resolution that comes to a file comes to a regular file that is there, under its normal
path, unless it comes to a member of the workspace namespace after the host has found nothing. -/
theorem resolve_file (engine : Engine) (fs : FileSystem) (workingDirectory : Path) (caches : Caches)
    (specifier : Text) (ctx : ResolveContext) (m : ResolvedModule) (path : Path)
    (ok : ((engine.resolve fs (host fs workingDirectory) specifier ctx).outcome caches).1 = .ok m)
    (file : m.id = .file path) :
    path.normalize = path ∧
      (m.shortCircuit = false ∧ fs.isFile path = true ∨
        m.shortCircuit = true ∧
          (∀ call ∈ engine.dialogue fs (host fs workingDirectory) caches specifier ctx,
            (host fs workingDirectory).FindsNothing call) ∧
          ∃ s c, (engine.plan specifier ctx).ending (host fs workingDirectory) =
              .exhausted (.workspace s c) ∧
            classify engine.config.workspaceNamespace s = .workspaceAlias ∧
            Path.crossesDependency s = false ∧
            ((engine.resolveWorkspace fs s c).outcome caches).1 = .ok m) := by
  have decided := (engine.plan specifier ctx).decidedBy_calls (host fs workingDirectory)
  have leads := Plan.leads_within engine nesting specifier ctx
  rw [resolve_answer] at ok
  rw [dialogue_eq]
  cases ended : (engine.plan specifier ctx).ending (host fs workingDirectory) with
  | answered found completes =>
    rw [ended] at ok decided
    obtain ⟨before, call, -, -, answer⟩ := decided
    obtain ⟨_, _, same, completed⟩ | ⟨⟨leaf, other⟩, -⟩ := answer_ok ok
    · cases same
      obtain ⟨open_, ⟨there, id, isFile, normal⟩ | ⟨address, url⟩⟩ := isFound_of_resolve answer
      · obtain rfl : there = path :=
          ModuleId.file.inj (id.symm.trans (completed.1.symm.trans file))
        exact ⟨normal, .inl ⟨completed.2.1.trans open_, isFile⟩⟩
      · have both := url.symm.trans (completed.1.symm.trans file)
        cases both
    · cases other
  | refused e =>
    rw [ended] at ok
    cases ok
  | exhausted leaf =>
    rw [ended] at ok decided
    have read := leads.of_ending ended
    cases leaf with
    | aggregate s c =>
      have aggregate : resolveGlob s c = .ok m := by
        rwa [Ending.answer, Leaf.answer, outcome_eq_runFrom, runFrom_liftExcept] at ok
      unfold resolveGlob at aggregate
      split at aggregate
      case h_1 => cases aggregate
      case h_2 =>
        cases aggregate
        cases file
    | workspace s c =>
      have answered : ((engine.resolveWorkspace fs s c).outcome caches).1 = .ok m := ok
      obtain ⟨directory, manifest, target, format, v, -, -, -, -, rfl⟩ :=
        resolveWorkspace_ok (m := m) rfl (Prod.ext answered rfl)
      cases file
      exact ⟨Path.normalize_normalize _, .inr ⟨rfl, decided, s, c, rfl, read.1, read.2, answered⟩⟩
    | failed e => cases ok
    | missing e => cases ok

/-- A script, and nothing else. -/
def scriptTree : FileTree := ⟨[(["a.js".toList], .text [])], []⟩

/-- An engine at the root without any settings. -/
def scriptEngine : Engine :=
  ⟨{ root := Path.rootDirectory }, none, none, none, Transformer.passthrough⟩

theorem resolve_file_script :
    let fs := scriptTree.lexical
    let ctx := ResolveContext.fresh (some ⟨"/b.js".toList⟩) .module
    let m : ResolvedModule := { id := .file ⟨"/a.js".toList⟩, format := some .commonJs }
    ((scriptEngine.resolve fs (host fs Path.rootDirectory) "./x/../a".toList ctx).outcome {}).1 = .ok m ∧
      Path.normalize ⟨"/a.js".toList⟩ = ⟨"/a.js".toList⟩ ∧ fs.isFile ⟨"/a.js".toList⟩ = true := by
  intro fs ctx m
  have ok : ((scriptEngine.resolve fs (host fs Path.rootDirectory) "./x/../a".toList
      ctx).outcome {}).1 = .ok m := eq_ok_of_toOption (by decide +kernel)
  obtain ⟨normal, ⟨-, there⟩ | ⟨own, -⟩⟩ := resolve_file scriptEngine fs Path.rootDirectory {}
    "./x/../a".toList ctx m ⟨"/a.js".toList⟩ ok rfl
  · exact ⟨ok, normal, there⟩
  · cases own

end Engine
end ModuleHooks
