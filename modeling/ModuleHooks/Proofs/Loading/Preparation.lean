import ModuleHooks.Engine.Loading
import ModuleHooks.Proofs.Computation

/-!
Loads in two parts. What the host and the files have to say comes first and settles what is to be given:
a result as it is, or the output of a transformation (`prepare`). Then the output is finished, which is
where maps are remembered, and nowhere else (`loadFile_eq`). What a load gives and what it remembers are
functions of its preparation alone (`runFrom_finish`).
-/
namespace ModuleHooks

open Hooked

/-! ## Finishing an output -/

/-- What a transformation comes to: the source that is given, and the map that is remembered, if there is
one. -/
structure FinishedSource where
  source : Text
  map : Option Text
deriving DecidableEq

namespace FinishedSource

/-- The maps with the one of this source under its path. -/
def remember (path : Path) (finished : FinishedSource) (maps : PathMemo Text) : PathMemo Text :=
  match finished.map with
  | none => maps
  | some map => maps.insert path map

end FinishedSource

/-- The output with its map, if it has one, pointed at the file and carried in the source. -/
def TransformOutput.finish (path : Path) (output : TransformOutput) :
    Except TransformFault FinishedSource :=
  match output.map with
  | none => .ok ⟨output.code, none⟩
  | some original =>
    (SourceMap.relocate original path).map fun map => ⟨output.code ++ SourceMap.comment map, some map⟩

namespace Engine

theorem runFrom_attachMap (path : Path) (output : TransformOutput) (t : Traced Caches) :
    (attachMap path output).runFrom t =
      match output.finish path with
      | .error fault => (.error (.transform fault), t)
      | .ok finished =>
        (.ok finished.source,
          { t with
            state := { t.state with sourceMaps := finished.remember path t.state.sourceMaps } }) := by
  unfold attachMap TransformOutput.finish
  cases output.map with
  | none => rfl
  | some original =>
    dsimp only
    cases SourceMap.relocate original path <;> rfl

theorem runFrom_takeOutput (path : Path) (output : Except TransformFault TransformOutput)
    (t : Traced Caches) :
    (takeOutput path output).runFrom t =
      match output.bind (·.finish path) with
      | .error fault => (.error (.transform fault), t)
      | .ok finished =>
        (.ok finished.source,
          { t with
            state := { t.state with sourceMaps := finished.remember path t.state.sourceMaps } }) := by
  cases output with
  | error fault => rfl
  | ok output => exact runFrom_attachMap path output t

end Engine

/-! ## Preparing -/

/-- What is to be given for a file before anything is remembered of it. -/
inductive Preparation
  /-- A result that has no map. -/
  | given (result : LoadResult)
  /-- The output of a transformation, if it succeeded, and what is given where it cannot be had. -/
  | transformed (format : ModuleFormat) (output : Except TransformFault TransformOutput)
      (otherwise : Option LoadResult)

namespace Preparation

/-- Gives what was prepared. -/
def finish (path : Path) : Preparation → Hooked Caches LoadResult
  | .given result => return result
  | .transformed format output none => return Engine.made format (← Engine.takeOutput path output)
  | .transformed format output (some otherwise) => do
    match ← (Engine.takeOutput path output).attempt with
    | .ok code => return Engine.made format code
    | .error _ => return otherwise

/-- What a source with continuations behind its dynamic imports comes to, if it has any. -/
def continued (format : ModuleFormat) (source : Text) (otherwise : LoadResult) : Preparation :=
  match DynamicImport.continued? source with
  | none => .given otherwise
  | some output => .transformed format (.ok output) none

/-- The result of a preparation. -/
def result (path : Path) : Preparation → Except HookError LoadResult
  | .given result => .ok result
  | .transformed format output otherwise =>
    match output.bind (·.finish path), otherwise with
    | .ok finished, _ => .ok (Engine.made format finished.source)
    | .error _, some otherwise => .ok otherwise
    | .error fault, none => .error (.transform fault)

/-- The maps behind a preparation. -/
def remember (path : Path) (maps : PathMemo Text) : Preparation → PathMemo Text
  | .given _ => maps
  | .transformed _ output _ =>
    match output.bind (·.finish path) with
    | .ok finished => finished.remember path maps
    | .error _ => maps

theorem runFrom_finish (path : Path) (p : Preparation) (t : Traced Caches) :
    (p.finish path).runFrom t =
      (p.result path,
        { t with state := { t.state with sourceMaps := p.remember path t.state.sourceMaps } }) := by
  cases p with
  | given result => rfl
  | transformed format output otherwise =>
    dsimp only [result, remember]
    cases otherwise with
    | none =>
      rw [finish, runFrom_bind, Engine.runFrom_takeOutput]
      generalize output.bind (·.finish path) = finished
      cases finished <;> rfl
    | some otherwise =>
      rw [finish, runFrom_bind, runFrom_attempt, Engine.runFrom_takeOutput]
      generalize output.bind (·.finish path) = finished
      cases finished <;> rfl

end Preparation

namespace Engine

variable (engine : Engine) (fs : FileSystem) (host : Host) (path : Path)

/-- The output of compiling a source under the options that govern its file. -/
def compiled (source : Text) (target : LoaderKind) :
    Hooked Caches (Except TransformFault TransformOutput) := do
  let compilerOptions ← Hooked.onTsconfigs (TsconfigCache.optionsFor fs engine.tsconfig path)
  return engine.transformer source path { target, compilerOptions }

/-- Prepares a dependency. -/
def prepareDependency (ctx : LoadContext) : Hooked Caches Preparation := do
  let loaded ← Hooked.askLoad host (.file path) ctx
  match ctx.kind, loaded.source with
  | .commonJs, some source =>
    match ← dependencyFormat fs path with
    | some .module =>
      let output := engine.transformer source path { target := .commonJs }
      return .transformed .commonJs output (some loaded.result)
    | _ => return .given loaded.result
  | _, _ => return .given loaded.result

/-- Prepares a first-party file as a script. -/
def prepareCommonJs (ext : Text) (ctx : LoadContext) : Hooked Caches Preparation := do
  let loaded ← Hooked.askLoad host (.file path) ctx
  match loaded.source with
  | none => return .given loaded.result
  | some source =>
    if ext = ".json".toList then return .given loaded.result
    else if ext = ".cjs".toList then return .continued .commonJs source loaded.result
    else return .transformed .commonJs (← compiled engine fs path source .commonJs) none

/-- Prepares a first-party file as a module. -/
def prepareModule (ext : Text) (ctx : LoadContext) : Hooked Caches Preparation := do
  let ctx := moduleContext ext ctx
  let loaded ← Hooked.askLoad host (.file path) ctx
  match loaded.source with
  | none => return .given loaded.result
  | some source =>
    if loaded.format = some .json ∨ compiledExtensions.contains ext then
      return .transformed .module (← compiled engine fs path source .module) none
    else
      let known := loaded.format.or ctx.format
      let format ← if known.isSome then pure known else detectFormat fs path
      if format = some .module then return .continued .module source ⟨format, loaded.source, false⟩
      else return .given ⟨format, loaded.source, false⟩

/-- Prepares a file. -/
def prepare (ctx : LoadContext) : Hooked Caches Preparation := do
  let ext := Path.extension path.text
  if ext = ".css".toList then return .given (← Hooked.askLoad host (.file path) ctx).result
  else if ext.isEmpty && ctx.kind = .module then
    match ← Hooked.readText fs path with
    | .error failure => throw (.ofRead path failure)
    | .ok source => return .given ⟨some .commonJs, some source, true⟩
  else if path.isInsideDependency then prepareDependency engine fs host path ctx
  else
    match ctx.kind with
    | .commonJs => prepareCommonJs engine fs host path ext ctx
    | .module => prepareModule engine fs host path ext ctx

/-! ## Loading is preparing and finishing -/

theorem compile_eq (source : Text) (target : LoaderKind) :
    compile engine fs source path target =
      (do takeOutput path (← compiled engine fs path source target)) := by
  unfold compile compiled
  rw [bind_assoc]
  rfl

variable {path} in
theorem finish_continued (format : ModuleFormat) (source : Text) (otherwise : LoadResult) :
    (Preparation.continued format source otherwise).finish path = (do
      match ← continuedSource? path source with
      | some code => return made format code
      | none => return otherwise) := by
  unfold Preparation.continued continuedSource?
  cases DynamicImport.continued? source with
  | none => rfl
  | some output =>
    dsimp only [Preparation.finish, takeOutput]
    rw [bind_assoc]
    rfl

theorem loadDependency_eq (ctx : LoadContext) :
    loadDependency engine fs host path ctx = prepareDependency engine fs host path ctx >>= (·.finish path) := by
  unfold loadDependency prepareDependency
  rw [bind_assoc]
  refine bind_congr fun loaded => ?_
  cases ctx.kind with
  | module => rfl
  | commonJs =>
    cases loaded.source with
    | none => rfl
    | some source =>
      dsimp only
      rw [bind_assoc]
      refine bind_congr fun format => ?_
      obtain _ | _ | _ | _ | _ := format <;> rfl

theorem loadCommonJs_eq (ext : Text) (ctx : LoadContext) :
    loadCommonJs engine fs host path ext ctx =
      prepareCommonJs engine fs host path ext ctx >>= (·.finish path) := by
  unfold loadCommonJs prepareCommonJs
  rw [bind_assoc]
  refine bind_congr fun loaded => ?_
  cases loaded.source with
  | none => rfl
  | some source =>
    dsimp only
    split
    · rfl
    · split
      · exact (finish_continued _ _ _).symm
      · rw [compile_eq, bind_assoc, bind_assoc]
        rfl

theorem loadAsModule_eq (ext : Text) (ctx : LoadContext) :
    loadAsModule engine fs host path ext ctx =
      prepareModule engine fs host path ext ctx >>= (·.finish path) := by
  unfold loadAsModule prepareModule
  extract_lets ctx'
  rw [bind_assoc]
  refine bind_congr fun loaded => ?_
  cases loaded.source with
  | none => rfl
  | some source =>
    dsimp only
    split
    · rw [compile_eq, bind_assoc, bind_assoc]
      rfl
    · have finished (format : Option ModuleFormat) :
          (if format = some .module then (do
              match ← continuedSource? path source with
              | some code => return made .module code
              | none => return ⟨format, some source, false⟩)
            else return ⟨format, some source, false⟩) =
          (if format = some .module then
              pure (Preparation.continued .module source ⟨format, some source, false⟩)
            else pure (Preparation.given ⟨format, some source, false⟩)) >>= (·.finish path) := by
        split
        · exact (finish_continued _ _ _).symm
        · rfl
      split
      · rw [bind_assoc]
        exact bind_congr finished
      · rw [bind_assoc]
        exact bind_congr finished

/-- Loading a file is to prepare it and to give what was prepared. -/
theorem loadFile_eq (ctx : LoadContext) :
    loadFile engine fs host path ctx = prepare engine fs host path ctx >>= (·.finish path) := by
  unfold loadFile prepare
  extract_lets ext
  split
  · rw [bind_assoc]
    rfl
  · split
    · rw [bind_assoc]
      refine bind_congr fun source => ?_
      cases source <;> rfl
    · split
      · exact loadDependency_eq engine fs host path ctx
      · cases ctx.kind with
        | commonJs => exact loadCommonJs_eq engine fs host path ext ctx
        | module => exact loadAsModule_eq engine fs host path ext ctx

end Engine
end ModuleHooks
