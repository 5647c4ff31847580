import ModuleHooks.Proofs.Caches.Growth
import ModuleHooks.Proofs.Caches.Spelling

/-!
What caches recall. A module type that is remembered of a directory is the one that going up through the
remembered manifests comes to (`recollect`). So the search, which stops where a type is remembered, comes to what a
walk that knows no types comes to, and asks and remembers the same manifests (`typeOfDirectory_walk`). Every
request keeps the caches so that they agree with the files (`AgreesWith.governs`).
-/
namespace ModuleHooks

open Hooked

namespace Engine

/-! ## Remembered manifests -/

/-- The type that remembered manifests give the modules in a directory, given the one of the directory above
it. -/
def recollectIn (manifests : PathMemo (Option Manifest)) (directory : Path) (above : Option ModuleType) :
    Option ModuleType :=
  if isBoundary directory then some .commonJs
  else
    (manifests.get? (Manifest.pathIn directory)).bind fun manifest =>
      (manifest.bind Manifest.declaredType).or above

/-- The type that remembered manifests give the first of these directories, if enough of them are
remembered. -/
def recollect (manifests : PathMemo (Option Manifest)) (directories : List Path) : Option ModuleType :=
  directories.foldr (recollectIn manifests) (some .commonJs)

section

variable {manifests more : PathMemo (Option Manifest)} {directory other : Path} {directories : List Path}
  {type : ModuleType}

theorem recollectIn_mono (le : manifests.Le more) {above aboveToo : Option ModuleType}
    (rest : above = some type → aboveToo = some type) (recalled : recollectIn manifests directory above = some type) :
    recollectIn more directory aboveToo = some type := by
  unfold recollectIn at recalled ⊢
  by_cases boundary : isBoundary directory = true
  · rw [if_pos boundary] at recalled ⊢
    exact recalled
  · rw [if_neg boundary] at recalled ⊢
    obtain ⟨manifest, known, decides⟩ := Option.bind_eq_some_iff.1 recalled
    rw [le _ _ known, Option.bind_some]
    obtain declared | ⟨undeclared, found⟩ := Option.or_eq_some_iff.1 decides
    · exact Option.or_eq_some_iff.2 (.inl declared)
    · exact Option.or_eq_some_iff.2 (.inr ⟨undeclared, rest found⟩)

/-- What is recalled stays so when more is remembered. -/
theorem recollect_mono (le : manifests.Le more) (recalled : recollect manifests directories = some type) :
    recollect more directories = some type := by
  induction directories generalizing type with
  | nil => exact recalled
  | cons directory above ih => exact recollectIn_mono le ih recalled

theorem recollectIn_congr (manifests : PathMemo (Option Manifest)) (same : directory.components = other.components) :
    recollectIn manifests directory = recollectIn manifests other := by
  have paths := Manifest.components_pathIn_inj.2 same
  funext above
  rw [recollectIn, recollectIn, isBoundary_congr same, PathMemo.get?_congr manifests paths]

/-- Each spelling of a directory recalls the same. -/
theorem recollect_congr (same : directory.components = other.components) :
    recollect manifests directory.ancestors = recollect manifests other.ancestors := by
  induction directory using Path.above_induction generalizing other with
  | top directory top =>
    obtain ⟨-, topToo⟩ | ⟨above, -, found, -⟩ := Path.parent?_congr same
    · rw [Path.ancestors_top top, Path.ancestors_top topToo, recollect, recollect, List.foldr_cons, List.foldr_cons,
        recollectIn_congr manifests same]
    · exact absurd (found.symm.trans top) (by simp)
  | below directory above found ih =>
    obtain ⟨top, -⟩ | ⟨above', aboveToo, found', foundToo, sameAbove⟩ := Path.parent?_congr same
    · exact absurd (found.symm.trans top) (by simp)
    · obtain rfl : above = above' := Option.some.inj (found.symm.trans found')
      have rest := ih sameAbove
      rw [recollect, recollect] at rest
      rw [Path.ancestors_below found, Path.ancestors_below foundToo, recollect, recollect, List.foldr_cons,
        List.foldr_cons, recollectIn_congr manifests same, rest]

end

end Engine

/-! ## Agreement -/

/-- What is remembered of a manifest was read under some spelling of its path, and what is remembered of a type
is what the remembered manifests say. -/
structure Caches.AgreesWith (fs : FileSystem) (c : Caches) : Prop where
  manifests : ∀ path manifest, c.manifests.get? path = some manifest →
    ∃ directory, path.components = (Manifest.pathIn directory).components ∧
      Manifest.read fs (Manifest.pathIn directory) = .ok manifest
  moduleTypes : ∀ directory type, c.moduleTypes.get? directory = some type →
    Engine.recollect c.manifests directory.ancestors = some type

namespace Caches.AgreesWith

variable {fs : FileSystem} {c : Caches} {directory : Path} {manifest : Option Manifest}

theorem fresh (fs : FileSystem) (tsconfigs : TsconfigCache) : (Caches.fresh tsconfigs).AgreesWith fs where
  manifests _ _ known := nomatch known
  moduleTypes _ _ known := nomatch known

/-- A directory that reaches its manifest under any spelling reads what is remembered. -/
theorem read_eq (agrees : c.AgreesWith fs) (reaches : fs.Reaches directory)
    (known : c.manifests.get? (Manifest.pathIn directory) = some manifest) :
    Manifest.read fs (Manifest.pathIn directory) = .ok manifest := by
  obtain ⟨other, same, read⟩ := agrees.manifests _ _ known
  exact reaches other manifest (Manifest.components_pathIn_inj.1 same).symm read

theorem remember_manifest (agrees : c.AgreesWith fs)
    (read : Manifest.read fs (Manifest.pathIn directory) = .ok manifest) :
    ({ c with manifests := c.manifests.insertNew (Manifest.pathIn directory) manifest } :
      Caches).AgreesWith fs where
  manifests path found known := by
    obtain before | ⟨same, rfl⟩ := PathMemo.get?_insertNew_some known
    · exact agrees.manifests path found before
    · exact ⟨directory, same, read⟩
  moduleTypes other type known :=
    Engine.recollect_mono (PathMemo.le_insertNew _ _ _) (agrees.moduleTypes other type known)

theorem remember_types (agrees : c.AgreesWith fs) {directories : List Path} {type : ModuleType}
    (types : ∀ directory ∈ directories, Engine.recollect c.manifests directory.ancestors = some type) :
    ({ c with
        moduleTypes := directories.foldl (fun m d => m.insertNew d type) c.moduleTypes } :
      Caches).AgreesWith fs where
  manifests := agrees.manifests
  moduleTypes path found known := by
    obtain before | ⟨rfl, directory, member, same⟩ := PathMemo.get?_foldl_insertNew _ known
    · exact agrees.moduleTypes path found before
    · exact (Engine.recollect_congr same).trans (types directory member)

/-- Looking a manifest up keeps the agreement. -/
theorem manifestAt (agrees : c.AgreesWith fs) (directory : Path) (trace : List Event) :
    ((Engine.manifestAt fs (Manifest.pathIn directory)).runFrom ⟨c, trace⟩).2.state.AgreesWith fs := by
  rw [Engine.manifestAt_runFrom]
  cases c.manifests.get? (Manifest.pathIn directory) with
  | some manifest => exact agrees
  | none =>
    cases read : Manifest.read fs (Manifest.pathIn directory) with
    | error e => exact agrees
    | ok manifest => exact agrees.remember_manifest read

theorem repeats (fs : FileSystem) :
    Repeats fun (c : Caches) (_ : List Event) c' => c.AgreesWith fs → c'.AgreesWith fs :=
  ⟨fun _ agrees => agrees, fun first second agrees => second (first agrees)⟩

theorem manifest_within (fs : FileSystem) (directory : Path) :
    Within (fun (c : Caches) (_ : List Event) c' => c.AgreesWith fs → c'.AgreesWith fs)
      (Engine.manifestAt fs (Manifest.pathIn directory)) :=
  ((Settles.only fs).manifest directory).of_outcome fun _ agrees => agrees.manifestAt directory []

end Caches.AgreesWith

/-! ## A walk that knows no types -/

namespace Engine

variable {fs : FileSystem} {directory : Path} {above directories : List Path} {type : ModuleType}
  {t : Traced Caches}

/-- Goes up through directories to a type, from manifest to manifest. -/
def walk (fs : FileSystem) : List Path → Hooked Caches ModuleType
  | [] => return .commonJs
  | directory :: above => do
    if isBoundary directory then return .commonJs
    else
      match (← manifestAt fs (Manifest.pathIn directory)).bind Manifest.declaredType with
      | some declared => return declared
      | none => walk fs above

/-- Through remembered manifests a walk asks nothing. -/
theorem walk_recollect (recalled : recollect t.state.manifests directories = some type) :
    (walk fs directories).runFrom t = (.ok type, t) := by
  induction directories with
  | nil =>
    obtain rfl : ModuleType.commonJs = type := Option.some.inj recalled
    rfl
  | cons directory above ih =>
    rw [recollect, List.foldr_cons, recollectIn] at recalled
    unfold walk
    by_cases boundary : isBoundary directory = true
    · rw [if_pos boundary] at recalled ⊢
      cases recalled
      rfl
    · rw [if_neg boundary] at recalled ⊢
      obtain ⟨manifest, known, decides⟩ := Option.bind_eq_some_iff.1 recalled
      rw [runFrom_bind_ok _ (manifestAt_known known)]
      cases declared : manifest.bind Manifest.declaredType with
      | some own =>
        rw [declared, Option.some_or] at decides
        cases decides
        rfl
      | none =>
        rw [declared, Option.none_or] at decides
        exact ih decides

/-- The search comes to what the walk comes to, and the manifests that it leaves recall that type of the
directories that it looked at. -/
private def Tallies (fs : FileSystem) (directories : List Path) (t : Traced Caches) : Prop :=
  ∀ r u, (searchType fs directories).runFrom t = (r, u) →
    (walk fs directories).runFrom t = (r.map Prod.fst, u) ∧
      ∀ type looked, r = .ok (type, looked) →
        recollect u.state.manifests directories = some type ∧
          ∀ directory ∈ looked, recollect u.state.manifests directory.ancestors = some type

private theorem tallies_boundary (boundary : isBoundary directory = true) : Tallies fs (directory :: above) t := by
  intro r u ran
  unfold searchType at ran
  unfold walk
  rw [if_pos boundary] at ran ⊢
  cases ran
  refine ⟨rfl, fun type looked same => ?_⟩
  cases same
  exact ⟨by simp [recollect, recollectIn, boundary], by simp⟩

/-- Where a type is remembered, the manifests from there on are remembered too. -/
private theorem tallies_known (outside : isBoundary directory = false)
    (known : t.state.moduleTypes.get? directory = some type)
    (recalled : recollect t.state.manifests (directory :: above) = some type) :
    Tallies fs (directory :: above) t := by
  intro r u ran
  rw [searchType_known outside known] at ran
  cases ran
  refine ⟨walk_recollect recalled, fun type looked same => ?_⟩
  cases same
  exact ⟨recalled, by simp⟩

private theorem tallies_missed (whole : directory.ancestors = directory :: above)
    (rest : ∀ t, t.state.AgreesWith fs → Tallies fs above t) (agrees : t.state.AgreesWith fs)
    (outside : isBoundary directory = false) (missed : t.state.moduleTypes.get? directory = none) :
    Tallies fs (directory :: above) t := by
  intro r u ran
  have inside : ¬isBoundary directory = true := by simp [outside]
  unfold searchType at ran
  unfold walk
  rw [if_neg inside, runFrom_bind_ok _ (runFrom_state t)] at ran
  rw [if_neg inside]
  simp only [missed] at ran
  have agreesStill := agrees.manifestAt directory t.trace
  rcases looked : (manifestAt fs (Manifest.pathIn directory)).runFrom t with ⟨e | manifest, v⟩
  · rw [runFrom_bind_error _ looked] at ran ⊢
    cases ran
    exact ⟨rfl, fun _ _ same => nomatch same⟩
  · rw [looked] at agreesStill
    rw [runFrom_bind_ok _ looked] at ran ⊢
    have remembered := manifestAt_remembers looked
    have recalledIn {more : PathMemo (Option Manifest)} (le : v.state.manifests.Le more)
        (rest : Option ModuleType) :
        recollectIn more directory rest = (manifest.bind Manifest.declaredType).or rest := by
      rw [recollectIn, if_neg inside, le _ _ remembered, Option.bind_some]
    cases declared : manifest.bind Manifest.declaredType with
    | some own =>
      simp only [declared] at ran ⊢
      cases ran
      refine ⟨rfl, fun type looked same => ?_⟩
      cases same
      have recalled : recollect u.state.manifests (directory :: above) = some own := by
        rw [recollect, List.foldr_cons, recalledIn (.refl _), declared, Option.some_or]
      exact ⟨recalled, by simpa [whole] using recalled⟩
    | none =>
      simp only [declared] at ran ⊢
      rcases search : (searchType fs above).runFrom v with ⟨r', w⟩
      obtain ⟨walked, recalled⟩ := rest v agreesStill _ _ search
      cases r' with
      | error e =>
        rw [runFrom_bind_error _ search] at ran
        cases ran
        exact ⟨walked, fun _ _ same => nomatch same⟩
      | ok answer =>
        obtain ⟨found, more⟩ := answer
        rw [runFrom_bind_ok _ search] at ran
        cases ran
        refine ⟨walked, fun type looked same => ?_⟩
        cases same
        obtain ⟨recalledAbove, others⟩ := recalled found more rfl
        have grows : Settles fs fun _ => Within (Caches.Grows fun _ => True) := Caches.Grows.settles trivial
        obtain ⟨_, grown⟩ := (searchType_within (Caches.Grows.repeats _) grows.manifest above).of_runFrom search
        have recalled : recollect u.state.manifests (directory :: above) = some found := by
          rw [recollect, List.foldr_cons, recalledIn grown.manifests, declared, Option.none_or]
          exact recalledAbove
        exact ⟨recalled, List.forall_mem_cons.2 ⟨whole ▸ recalled, others⟩⟩

private theorem tallies_cons (whole : directory.ancestors = directory :: above)
    (rest : ∀ t, t.state.AgreesWith fs → Tallies fs above t) (agrees : t.state.AgreesWith fs) :
    Tallies fs (directory :: above) t := by
  cases outside : isBoundary directory with
  | true => exact tallies_boundary outside
  | false =>
    cases known : t.state.moduleTypes.get? directory with
    | some found => exact tallies_known outside known (whole ▸ agrees.moduleTypes directory found known)
    | none => exact tallies_missed whole rest agrees outside known

private theorem searchType_tallies (directory : Path) (agrees : t.state.AgreesWith fs) :
    Tallies fs directory.ancestors t := by
  induction directory using Path.above_induction generalizing t with
  | top directory top =>
    rw [Path.ancestors_top top]
    refine tallies_cons (Path.ancestors_top top) (fun t _ r u ran => ?_) agrees
    cases ran
    refine ⟨rfl, fun type looked same => ?_⟩
    cases same
    exact ⟨rfl, by simp⟩
  | below directory above found ih =>
    rw [Path.ancestors_below found]
    exact tallies_cons (Path.ancestors_below found) (fun _ => ih) agrees

/-- From caches that agree with the files, looking a type up is walking up to it and remembering it: it comes to
the same, asks the same, and leaves the same manifests. -/
theorem typeOfDirectory_walk (directory : Path) (agrees : t.state.AgreesWith fs) {r : Except HookError ModuleType}
    {u : Traced Caches} (walked : (walk fs directory.ancestors).runFrom t = (r, u)) :
    ∃ types, (typeOfDirectory fs directory).runFrom t =
        (r, { u with state := { u.state with moduleTypes := types } }) ∧
      ({ u.state with moduleTypes := types } : Caches).AgreesWith fs := by
  rcases search : (searchType fs directory.ancestors).runFrom t with ⟨found, v⟩
  obtain ⟨same, recalled⟩ := searchType_tallies directory agrees found v search
  cases walked.symm.trans same
  obtain ⟨-, kept⟩ := (searchType_within (Caches.AgreesWith.repeats fs)
    (Caches.AgreesWith.manifest_within fs) directory.ancestors).of_runFrom search
  rw [typeOfDirectory_runFrom, search]
  cases found with
  | error e => exact ⟨u.state.moduleTypes, rfl, kept agrees⟩
  | ok answer => exact ⟨_, rfl, (kept agrees).remember_types (recalled answer.1 answer.2 rfl).2⟩

end Engine

/-- Every request keeps the agreement of the caches with the files. -/
theorem Caches.AgreesWith.governs (fs : FileSystem) :
    Governs fs fun c _ c' => c.AgreesWith fs → c'.AgreesWith fs where
  toRepeats := repeats fs
  settles :=
    { toComposes := Within.composes (repeats fs)
      manifest := manifest_within fs
      moduleType := fun directory =>
        ((Settles.only fs).moduleType directory).of_outcome fun c agrees => by
          rcases walked : (Engine.walk fs directory.ancestors).runFrom ⟨c, []⟩ with ⟨r, u⟩
          obtain ⟨types, ran, agreesStill⟩ := Engine.typeOfDirectory_walk directory agrees walked
          rw [outcome_eq_runFrom, ran]
          exact agreesStill }
  asks _ _ _ agrees := agrees
  tsconfigs _ _ agrees := ⟨agrees.manifests, agrees.moduleTypes⟩
  sourceMaps _ _ agrees := ⟨agrees.manifests, agrees.moduleTypes⟩

/-! ## Behind any requests -/

/-- The caches of an engine that was built and has served requests, all over the same files. -/
def Engine.cachesBehind (engine : Engine) (fs : FileSystem) (config : EngineConfig) (transformer : Transformer)
    (history : List (Host × Request)) : Caches :=
  (engine.session (history.map fun (host, request) => ⟨fs, host, request⟩)
    ⟨((create fs config transformer).outcome {}).2.state, []⟩).state

/-- Before any request no manifest and no type is remembered. -/
theorem Engine.cachesBehind_nil (engine : Engine) (fs : FileSystem) (config : EngineConfig)
    (transformer : Transformer) :
    ∃ tsconfigs, engine.cachesBehind fs config transformer [] = Caches.fresh tsconfigs :=
  create_fresh fs config transformer

theorem Caches.AgreesWith.create (fs : FileSystem) (config : EngineConfig) (transformer : Transformer) :
    ((Engine.create fs config transformer).outcome {}).2.state.AgreesWith fs := by
  obtain ⟨tsconfigs, built⟩ := Engine.create_fresh fs config transformer
  rw [built]
  exact fresh fs tsconfigs

theorem Caches.AgreesWith.behind (engine : Engine) (fs : FileSystem) (config : EngineConfig)
    (transformer : Transformer) (history : List (Host × Request)) :
    (engine.cachesBehind fs config transformer history).AgreesWith fs := by
  obtain ⟨asked, u, kept, ran⟩ := engine.session_within (repeats fs)
    (history.map fun (host, request) => ⟨fs, host, request⟩)
    (fun o member => by
      obtain ⟨_, -, rfl⟩ := List.mem_map.1 member
      exact governs fs) ((Engine.create fs config transformer).outcome {}).2.state
  rw [Engine.cachesBehind, ran []]
  exact kept (.create fs config transformer)

end ModuleHooks
