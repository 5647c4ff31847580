import ModuleHooks.FileSystem.Tree
import ModuleHooks.Proofs.Path.Normal
import ModuleHooks.Proofs.Resolution.HostCalls
import ModuleHooks.Proofs.Resolution.PathSpecifier
import ModuleHooks.Proofs.Resolution.Probes

/-!
The candidates of a path. Over files, the fallbacks that resolving a path goes through come to one list
of specifiers that can be written down beforehand, and the first of them that names a file is the answer.
-/
namespace ModuleHooks

open Hooked Specifier FileHost

namespace Engine

/-- A specifier behind the typed files that stand for it. -/
def typedCandidates (specifier : Text) (ctx : ResolveContext) : List Text :=
  typedSpecifiers specifier ctx ++ [specifier]

/-- A specifier with the fallback extensions. -/
def extendedCandidates (specifier : Text) (ctx : ResolveContext) : List Text :=
  fallbackExtensions.flatMap fun ext => typedCandidates (specifier ++ ext) ctx

/-- What is tried for a path: the index only where a slash asks for it; else the path itself, the index
if it names a directory, and the path with an extension. -/
def candidates (fs : FileSystem) (workingDirectory : Path) (specifier : Text) (ctx : ResolveContext) :
    List Text :=
  if specifier.endsWith ['/'] then extendedCandidates (specifier ++ "index".toList) ctx
  else
    typedCandidates specifier ctx ++
      if fs.isDirectory (placeOf workingDirectory ctx specifier) then
        extendedCandidates (specifier ++ "/index".toList) ctx ++ extendedCandidates specifier ctx
      else extendedCandidates specifier ctx

/-- The failure for a path that names no file. -/
def absence (fs : FileSystem) (workingDirectory : Path) (specifier : Text) (ctx : ResolveContext) :
    HookError :=
  if fs.isDirectory (placeOf workingDirectory ctx specifier) then
    .directoryImport specifier ctx.importer
  else .moduleNotFound specifier ctx.importer

end Engine

/-- Every manifest above a file can be read or is missing. -/
def FileSystem.HasReadableManifests (fs : FileSystem) : Prop :=
  ∀ path : Path, fs.isFile path.normalize = true → ∀ directory ∈ path.normalize.ancestors.tail,
    ∃ manifest, Manifest.read fs (Manifest.pathIn directory) = .ok manifest

/-- It is enough to look above the files that are listed. -/
theorem FileSystem.hasReadableManifests_of_files {fs : FileSystem}
    (readable : ∀ path ∈ fs.files, ∀ directory ∈ path.ancestors.tail,
      (Manifest.read fs (Manifest.pathIn directory)).isOk = true) : fs.HasReadableManifests := by
  intro path file directory above
  have listed := fs.normalize_mem path.normalize file
  rw [Path.normalize_normalize] at listed
  have read := readable _ listed directory above
  cases found : Manifest.read fs (Manifest.pathIn directory) with
  | ok manifest => exact ⟨manifest, rfl⟩
  | error e =>
    rw [found] at read
    exact nomatch read

/-- The failure says that a specifier names no module, or a directory. -/
def HookError.Misses (specifier : Text) (importer : Option Path) (e : HookError) : Prop :=
  e = .moduleNotFound specifier importer ∨ e = .directoryImport specifier importer

theorem HookError.Misses.dropSuffix {specifier suffix : Text} {importer : Option Path} {e : HookError}
    (misses : e.Misses (specifier ++ suffix) importer) :
    (e.dropSuffix suffix).Misses specifier importer := by
  obtain rfl | rfl := misses
  · left
    rw [HookError.dropSuffix, Text.before?_append]
    rfl
  · right
    rw [HookError.dropSuffix, Text.before?_append]
    rfl

theorem Engine.absence_misses (fs : FileSystem) (workingDirectory : Path) (specifier : Text)
    (ctx : ResolveContext) :
    (Engine.absence fs workingDirectory specifier ctx).Misses specifier ctx.importer := by
  unfold Engine.absence
  split
  · exact .inr rfl
  · exact .inl rfl

/-- The failure that is told for an index that was tried in vain names what it was tried for. -/
theorem Engine.absence_index_misses (fs : FileSystem) (workingDirectory : Path) (specifier index : Text)
    (ctx : ResolveContext) :
    (((Engine.absence fs workingDirectory (specifier ++ index ++ ".js".toList) ctx).dropSuffix
      ".js".toList).dropSuffix index).Misses specifier ctx.importer :=
  (Engine.absence_misses fs workingDirectory _ ctx).dropSuffix.dropSuffix

open Engine

namespace Plan

/-! ## Plans that try a list -/

/-- Where a dialogue ends that goes on with another plan. -/
theorem ending_orElse (host : Host) (p : Plan) (other : HookError → Plan) :
    (p.orElse other).ending host =
      match p.ending host with
      | .exhausted (.missing e) => (other e).ending host
      | ended => ended := by
  induction p with
  | stop leaf => cases leaf <;> rfl
  | ask specifier ctx completes next ih =>
    simp only [orElse, ending]
    cases (host.resolve specifier ctx).result with
    | ok m => rfl
    | error e =>
      by_cases refused : e.isNotFound = true
      · simpa only [refused, if_true] using ih e
      · simp only [refused]
        rfl

/-- Over files, the plan ends with the first of the specifiers that names a file, and with a failure if
none does. -/
def Tries (fs : FileSystem) (workingDirectory : Path) (ctx : ResolveContext) (p : Plan)
    (specifiers : List Text) (e : HookError) : Prop :=
  p.ending (host fs workingDirectory) =
    match specifiers.find? fun s => fs.isFile (placeOf workingDirectory ctx s) with
    | some s => .answered (fileModule (placeOf workingDirectory ctx s)) true
    | none => .exhausted (.missing e)

section

variable {fs : FileSystem} {workingDirectory : Path} {engine : Engine} {ctx : ResolveContext}
  {specifiers more : List Text} {e e' : HookError} {specifier : Text}

theorem Tries.orElse {p : Plan} {other : HookError → Plan}
    (first : Tries fs workingDirectory ctx p specifiers e)
    (second : Tries fs workingDirectory ctx (other e) more e') :
    Tries fs workingDirectory ctx (p.orElse other) (specifiers ++ more) e' := by
  unfold Tries at first second ⊢
  rw [ending_orElse, first, List.find?_append]
  generalize specifiers.find? _ = found
  cases found with
  | some s => rfl
  | none => exact second

/-- Trying specifiers one after another; the first failure is the one that is told. -/
theorem Tries.each {planner : Planner} {next : Option HookError → Plan} (tried : Text → List Text)
    (failed : Text → HookError)
    (steps : ∀ s ∈ specifiers, Tries fs workingDirectory ctx (planner s ctx) (tried s) (failed s))
    (rest : Tries fs workingDirectory ctx (next (specifiers.head?.map failed)) more e) :
    Tries fs workingDirectory ctx (each planner ctx specifiers next)
      (specifiers.flatMap tried ++ more) e := by
  induction specifiers generalizing next with
  | nil => exact rest
  | cons s others ih =>
    obtain ⟨step, steps⟩ := List.forall_mem_cons.1 steps
    rw [List.flatMap_cons, List.append_assoc]
    exact step.orElse (ih steps rest)

/-- Asking for a path. -/
theorem Tries.ask (names : NamesPath specifier) {next : HookError → Plan}
    (rest : Tries fs workingDirectory ctx (next (absence fs workingDirectory specifier ctx)) more e) :
    Tries fs workingDirectory ctx (ask specifier ctx true next) (specifier :: more) e := by
  unfold Tries absence at rest
  unfold Tries
  rw [ending, resolve_path names, List.find?_cons]
  by_cases file : fs.isFile (placeOf workingDirectory ctx specifier) = true
  · simp only [file, if_true]
  · by_cases directory : fs.isDirectory (placeOf workingDirectory ctx specifier) = true
    · simp only [file, directory, if_true] at rest ⊢
      exact rest
    · simp only [file, directory] at rest ⊢
      exact rest

/-! ## The plan of a path -/

/-- The plan for a specifier that names a path. -/
theorem step_path (names : NamesPath specifier)
    (dotless : engine.config.workspaceNamespace.head? ≠ some '.')
    (slashless : engine.config.workspaceNamespace.head? ≠ some '/') (planner : Planner) :
    step engine planner specifier ctx =
      if specifier.endsWith ['/'] then directory planner specifier ctx
      else
        each planner ctx.probe (typedSpecifiers specifier ctx) fun _ =>
          byHost planner specifier ctx := by
  unfold step
  rw [names.clear, if_neg (by simp)]
  obtain kind | kind := names.classify dotless slashless <;> rw [kind] <;> rfl

theorem namesPath_typed (names : NamesPath specifier) {typed : Text}
    (member : typed ∈ typedSpecifiers specifier ctx) :
    NamesPath typed ∧ typed.endsWith ['/'] = false := by
  obtain ⟨ext, known, rfl, -⟩ := exists_of_mem_typedSpecifiers member
  obtain ⟨flat, starless, some⟩ :=
    flat_of_mem_extensions (List.mem_append_left fallbackExtensions known)
  exact ⟨names.stem_append flat starless, Path.endsWith_slash_append some flat⟩

section

variable (dotless : engine.config.workspaceNamespace.head? ≠ some '.')
  (slashless : engine.config.workspaceNamespace.head? ≠ some '/')
include dotless slashless

/-- A probe for a path without typed files. -/
theorem Tries.alone (names : NamesPath specifier) (file : specifier.endsWith ['/'] = false)
    (alone : typedSpecifiers specifier ctx.probe = []) (depth : Nat) :
    Tries fs workingDirectory ctx (within engine (depth + 1) specifier ctx.probe) [specifier]
      (absence fs workingDirectory specifier ctx) := by
  rw [within, step_path names dotless slashless, file, if_neg (by simp), alone]
  show Tries fs workingDirectory ctx.probe (byHost _ specifier ctx.probe) [specifier]
    (absence fs workingDirectory specifier ctx.probe)
  exact Tries.ask names rfl

/-- A probe for a path. -/
theorem Tries.probe (names : NamesPath specifier) (file : specifier.endsWith ['/'] = false)
    (depth : Nat) :
    Tries fs workingDirectory ctx (within engine (depth + 2) specifier ctx.probe)
      (typedCandidates specifier ctx) (absence fs workingDirectory specifier ctx) := by
  have list : typedCandidates specifier ctx =
      (typedSpecifiers specifier ctx.probe).flatMap (fun s => [s]) ++ [specifier] := by
    rw [List.flatMap_singleton']
    rfl
  rw [within, step_path names dotless slashless, file, if_neg (by simp), list]
  refine Tries.each (fun s => [s]) (fun s => absence fs workingDirectory s ctx) ?_ ?_
  · intro typed member
    obtain ⟨namesToo, fileToo⟩ := namesPath_typed names member
    exact Tries.alone dotless slashless namesToo fileToo (typedSpecifiers_typed member _) depth
  · show Tries fs workingDirectory ctx.probe (byHost _ specifier ctx.probe) [specifier]
      (absence fs workingDirectory specifier ctx.probe)
    exact Tries.ask names rfl

/-- Trying the fallback extensions. -/
theorem Tries.extensions (names : ∀ ext ∈ fallbackExtensions, NamesPath (specifier ++ ext))
    (depth : Nat) {next : HookError → Plan}
    (rest : Tries fs workingDirectory ctx
      (next ((absence fs workingDirectory (specifier ++ ".js".toList) ctx).dropSuffix ".js".toList))
      more e) :
    Tries fs workingDirectory ctx (extensions (within engine (depth + 2)) specifier ctx next)
      (extendedCandidates specifier ctx ++ more) e := by
  have list : extendedCandidates specifier ctx =
      (fallbackExtensions.map (specifier ++ ·)).flatMap (typedCandidates · ctx) := by
    rw [List.flatMap_map]
    rfl
  rw [list]
  refine Tries.each (typedCandidates · ctx) (absence fs workingDirectory · ctx) ?_ rest
  intro extended member
  obtain ⟨ext, known, rfl⟩ := List.mem_map.1 member
  obtain ⟨flat, -, some⟩ := flat_of_mem_fallback known
  exact Tries.probe dotless slashless (names ext known) (Path.endsWith_slash_append some flat) depth

/-- Asking for a path without a slash at its end, and what is tried where that finds nothing. -/
theorem Tries.byHost (names : NamesPath specifier)
    (outside : ¬ '/' :: Path.dependencyDirectory <:+ Text.replaceChar '\\' '/' specifier)
    (file : specifier.endsWith ['/'] = false) (fresh : ctx.isProbe = false) (depth : Nat) :
    ∃ e, e.Misses specifier ctx.importer ∧
      Tries fs workingDirectory ctx (byHost (within engine (depth + 2)) specifier ctx)
        (specifier ::
          if fs.isDirectory (placeOf workingDirectory ctx specifier) then
            extendedCandidates (specifier ++ "/index".toList) ctx ++ extendedCandidates specifier ctx
          else extendedCandidates specifier ctx) e := by
  have extended (ext : Text) (known : ext ∈ fallbackExtensions) : NamesPath (specifier ++ ext) :=
    names.append (flat_of_mem_fallback known).1 (flat_of_mem_fallback known).2.1
  have last (e : HookError) :
      Tries fs workingDirectory ctx
        (Plan.extensions (within engine (depth + 2)) specifier ctx fun _ => stop (.missing e))
        (extendedCandidates specifier ctx) e := by
    rw [← List.append_nil (extendedCandidates specifier ctx)]
    exact Tries.extensions dotless slashless extended depth rfl
  unfold Plan.byHost
  simp only [fresh]
  by_cases directory : fs.isDirectory (placeOf workingDirectory ctx specifier) = true
  · have index (ext : Text) (known : ext ∈ fallbackExtensions) :
        NamesPath (specifier ++ "/index".toList ++ ext) :=
      (names.slash_append outside (t := "index".toList) (Path.flat_of_all rfl) (by decide)).append
        (flat_of_mem_fallback known).1 (flat_of_mem_fallback known).2.1
    refine ⟨_, absence_index_misses fs workingDirectory specifier "/index".toList ctx, ?_⟩
    rw [if_pos directory]
    refine Tries.ask names ?_
    rw [absence, if_pos directory]
    simp only [Plan.directory, file, Bool.false_eq_true, if_false]
    refine Tries.extensions dotless slashless index depth ?_
    exact last _
  · refine ⟨.moduleNotFound specifier ctx.importer, .inl rfl, ?_⟩
    rw [if_neg directory]
    refine Tries.ask names ?_
    rw [absence, if_neg directory]
    exact last _

/-- A resolution tries the candidates. -/
theorem plan_tries (names : NamesPath specifier)
    (outside : ¬ '/' :: Path.dependencyDirectory <:+ Text.replaceChar '\\' '/' specifier)
    (fresh : ctx.isProbe = false) :
    ∃ e, e.Misses specifier ctx.importer ∧
      Tries fs workingDirectory ctx (engine.plan specifier ctx)
        (candidates fs workingDirectory specifier ctx) e := by
  unfold Engine.plan nesting candidates
  rw [within, step_path names dotless slashless]
  by_cases slashed : specifier.endsWith ['/'] = true
  · have index (ext : Text) (known : ext ∈ fallbackExtensions) :
        NamesPath (specifier ++ "index".toList ++ ext) :=
      (names.append (Path.flat_of_all rfl) (by decide)).append (flat_of_mem_fallback known).1
        (flat_of_mem_fallback known).2.1
    refine ⟨_, absence_index_misses fs workingDirectory specifier "index".toList ctx, ?_⟩
    rw [if_pos slashed, if_pos slashed, ← List.append_nil (extendedCandidates _ ctx)]
    simp only [directory, slashed, if_true]
    exact Tries.extensions dotless slashless index 13 rfl
  · have file : specifier.endsWith ['/'] = false := by simpa using slashed
    obtain ⟨e, misses, asked⟩ := Tries.byHost dotless slashless names outside file fresh 13
    have list : typedCandidates specifier ctx =
        (typedSpecifiers specifier ctx).flatMap (fun s => [s]) ++ [specifier] := by
      rw [List.flatMap_singleton']
      rfl
    refine ⟨e, misses, ?_⟩
    rw [if_neg slashed, if_neg slashed, list, List.append_assoc]
    refine Tries.each (fun s => [s]) (fun s => absence fs workingDirectory s ctx) ?_ asked
    intro typed member
    obtain ⟨namesToo, fileToo⟩ := namesPath_typed names member
    exact Tries.alone dotless slashless namesToo fileToo (typedSpecifiers_typed member _) 14

end

end

end Plan

namespace Engine

/-! ## Formats where manifests can be read -/

section

variable {fs : FileSystem}

theorem manifestAt_succeeds {directory : Path} {manifest : Option Manifest}
    (read : Manifest.read fs (Manifest.pathIn directory) = .ok manifest) :
    Succeeds (manifestAt fs (Manifest.pathIn directory)) := by
  intro t
  rw [manifestAt_runFrom, read]
  cases t.state.manifests.get? (Manifest.pathIn directory) with
  | some known => exact ⟨known, t, rfl⟩
  | none => exact ⟨manifest, _, rfl⟩

theorem searchType_succeeds {directories : List Path}
    (manifests : ∀ directory ∈ directories, ∃ manifest,
      Manifest.read fs (Manifest.pathIn directory) = .ok manifest) :
    Succeeds (searchType fs directories) := by
  induction directories with
  | nil => exact .pure _
  | cons directory above ih =>
    obtain ⟨⟨manifest, read⟩, manifests⟩ := List.forall_mem_cons.1 manifests
    unfold searchType
    split
    · exact .pure _
    · refine .bind .state fun caches => ?_
      split
      · exact .pure _
      · refine .bind (manifestAt_succeeds read) fun found => ?_
        split
        · exact .pure _
        · exact .bind (ih manifests) fun _ => .pure _

theorem detectFormat_succeeds {file : Path}
    (manifests : ∀ directory ∈ file.ancestors.tail, ∃ manifest,
      Manifest.read fs (Manifest.pathIn directory) = .ok manifest) :
    Succeeds (detectFormat fs file) := by
  unfold detectFormat
  split
  · exact .pure _
  · split
    · cases above : file.parent? with
      | none => exact .pure _
      | some directory =>
        rw [Path.ancestors_below above, List.tail_cons] at manifests
        have type : Succeeds (typeOfDirectory fs directory) :=
          .bind (searchType_succeeds manifests) fun _ => .bind (.update _) fun _ => .pure _
        exact .bind type fun _ => .pure _
    · exact .pure _

end

/-- Over files above which every manifest can be read or is missing, a path resolves to the first of its
candidates that names a file, whatever the caches remember; and if none does, to a failure that says so
of the path itself. -/
theorem resolve_candidates (engine : Engine) (fs : FileSystem) (workingDirectory : Path)
    (caches : Caches) (specifier : Text) (ctx : ResolveContext)
    (dotless : engine.config.workspaceNamespace.head? ≠ some '.')
    (slashless : engine.config.workspaceNamespace.head? ≠ some '/')
    (manifests : fs.HasReadableManifests) (fresh : ctx.isProbe = false)
    (path : classify engine.config.workspaceNamespace specifier = .relative ∨
      classify engine.config.workspaceNamespace specifier = .absolute)
    (more : specifier ≠ ['.'] ∧ specifier ≠ ['.', '.'])
    (clear : Path.crossesDependency specifier = false)
    (outside : ¬ '/' :: Path.dependencyDirectory <:+ Text.replaceChar '\\' '/' specifier) :
    let result :=
      ((engine.resolve fs (host fs workingDirectory) specifier ctx).outcome caches).1
    match (candidates fs workingDirectory specifier ctx).find? fun c =>
      fs.isFile (placeOf workingDirectory ctx c) with
    | some c => ∃ m, result = .ok m ∧ m.id = .file (placeOf workingDirectory ctx c)
    | none => ∃ e, result = .error e ∧ e.Misses specifier ctx.importer := by
  intro result
  have names := namesPath_of_classify path more clear
  obtain ⟨e, misses, tries⟩ :
      ∃ e, e.Misses specifier ctx.importer ∧
        Plan.Tries fs workingDirectory ctx (engine.plan specifier ctx)
          (candidates fs workingDirectory specifier ctx) e :=
    Plan.plan_tries dotless slashless names outside fresh
  obtain ⟨t, answer⟩ : ∃ t, result =
      ((((engine.plan specifier ctx).ending (host fs workingDirectory)).answer engine fs).runFrom t).1 :=
    ⟨_, congrArg Prod.fst (engine.runFrom_resolve fs _ specifier ctx ⟨caches, []⟩)⟩
  unfold Plan.Tries at tries
  rw [tries] at answer
  cases found : (candidates fs workingDirectory specifier ctx).find? fun c =>
    fs.isFile (placeOf workingDirectory ctx c) with
  | some c =>
    rw [found] at answer
    have file : fs.isFile (placeOf workingDirectory ctx c) = true := by
      simpa using List.find?_some found
    have format : Succeeds (withFormat fs (fileModule (placeOf workingDirectory ctx c))) :=
      .bind (detectFormat_succeeds (manifests _ file)) fun _ => .pure _
    obtain ⟨m, u, ran⟩ := format t
    have completes := withFormat_completes (congrArg Prod.fst ran)
    exact ⟨m, answer.trans (congrArg Prod.fst ran), completes.1⟩
  | none =>
    rw [found] at answer
    exact ⟨e, answer, misses⟩

/-- A directory with two index files and nothing else. -/
def indexTree (directory : Text) : FileTree :=
  ⟨[([directory, "index.ts".toList], .text []), ([directory, "index.js".toList], .text [])], []⟩

/-- A typed importer. -/
def typedContext : ResolveContext := .fresh (some ⟨"/a.ts".toList⟩) .module

/-- An engine without a workspace, a mapping or a configuration. -/
def bareEngine : Engine :=
  ⟨{ root := Path.rootDirectory }, none, none, none, Transformer.passthrough⟩

theorem resolve_candidates_index :
    let fs := (indexTree "lib".toList).lexical
    fs.HasReadableManifests ∧
      ∃ m, ((bareEngine.resolve fs (host fs Path.rootDirectory) "./lib".toList
          typedContext).outcome {}).1 = .ok m ∧
        m.id = .file (placeOf Path.rootDirectory typedContext "./lib/index.ts".toList) := by
  intro fs
  have manifests : fs.HasReadableManifests :=
    FileSystem.hasReadableManifests_of_files (by decide +kernel)
  have resolved := resolve_candidates bareEngine fs Path.rootDirectory {} "./lib".toList typedContext
    (by decide) (by decide) manifests rfl (by decide) (by decide) (by decide) (by decide)
  have found : ((candidates fs Path.rootDirectory "./lib".toList typedContext).find? fun c =>
      fs.isFile (placeOf Path.rootDirectory typedContext c)) = some "./lib/index.ts".toList := by
    decide +kernel
  simp only [found] at resolved
  exact ⟨manifests, resolved⟩

/-- The end of the path has to be looked at with either kind of slash: what lies in a directory whose
name ends in a backslash and the dependency directory is the host's, so no typed file stands for it. -/
theorem resolve_backslash_dependency :
    let fs := (indexTree "x\\node_modules".toList).lexical
    let specifier := "./x\\node_modules".toList
    fs.HasReadableManifests ∧ typedContext.isProbe = false ∧
      classify bareEngine.config.workspaceNamespace specifier = .relative ∧
      Path.crossesDependency specifier = false ∧
      ¬ '/' :: Path.dependencyDirectory <:+ specifier ∧
      ((candidates fs Path.rootDirectory specifier typedContext).find? fun c =>
        fs.isFile (placeOf Path.rootDirectory typedContext c)) =
          some (specifier ++ "/index.ts".toList) ∧
      ∃ m, ((bareEngine.resolve fs (host fs Path.rootDirectory) specifier
          typedContext).outcome {}).1 = .ok m ∧
        m.id ≠ .file (placeOf Path.rootDirectory typedContext (specifier ++ "/index.ts".toList)) := by
  intro fs specifier
  refine ⟨FileSystem.hasReadableManifests_of_files (by decide +kernel), rfl, by decide, by decide,
    by decide, by decide +kernel, ?_⟩
  have answer : ((bareEngine.resolve fs (host fs Path.rootDirectory) specifier
      typedContext).outcome {}).1.toOption =
        some { id := .file ⟨"/x\\node_modules/index.js".toList⟩ } := by decide +kernel
  cases resolved : ((bareEngine.resolve fs (host fs Path.rootDirectory) specifier
      typedContext).outcome {}).1 with
  | error e =>
    rw [resolved] at answer
    exact nomatch answer
  | ok m =>
    rw [resolved] at answer
    obtain rfl := Option.some.inj answer
    exact ⟨_, rfl, by decide +kernel⟩

end Engine

end ModuleHooks
