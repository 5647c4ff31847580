import ModuleHooks.Host.FileHost
import ModuleHooks.Proofs.Caches.Recall
import ModuleHooks.Proofs.Path.Extension

/-!
Caches that agree with the files. Looking up in them comes to what a walk that remembers nothing would come to
(`typeOfDirectory_answers`), and however much more is remembered has no say in the result (`Unswayed`), as long as
the manifests that are read are read under spellings that reach them. A disk refuses one that is too long, which
the caches do not mind (`resolve_history_padded`).
-/
namespace ModuleHooks

open Hooked

namespace Engine

/-! ## The walk without caches -/

/-- The type of the modules in a directory, given that of the directory above it. -/
def typeIn (fs : FileSystem) (directory : Path) (above : Except HookError ModuleType) :
    Except HookError ModuleType :=
  if isBoundary directory then .ok .commonJs
  else
    match Manifest.read fs (Manifest.pathIn directory) with
    | .error e => .error e
    | .ok manifest =>
      match manifest.bind Manifest.declaredType with
      | some declared => .ok declared
      | none => above

/-- The type of the modules in a directory, by a walk that remembers nothing. -/
def typeOf (fs : FileSystem) (directory : Path) : Except HookError ModuleType :=
  directory.ancestors.foldr (typeIn fs) (.ok .commonJs)

end Engine

/-- From caches that agree with the files, a computation comes to this result and leaves caches that
agree. -/
def Answers (fs : FileSystem) {α : Type} (x : Hooked Caches α) (r : Except HookError α) : Prop :=
  ∀ t, t.state.AgreesWith fs → (x.runFrom t).1 = r ∧ (x.runFrom t).2.state.AgreesWith fs

section

variable {fs : FileSystem} {α β : Type} {x : Hooked Caches α} {f : α → Hooked Caches β}

theorem Answers.pure (fs : FileSystem) (a : α) : Answers fs (Pure.pure a) (.ok a) := fun _ agrees => ⟨rfl, agrees⟩

theorem Answers.bind_ok {a : α} {r : Except HookError β} (first : Answers fs x (.ok a)) (rest : Answers fs (f a) r) :
    Answers fs (x >>= f) r := by
  intro t agrees
  obtain ⟨succeeded, agreesStill⟩ := first t agrees
  rw [runFrom_bind_ok f (Prod.ext succeeded rfl)]
  exact rest _ agreesStill

theorem Answers.bind_error {e : HookError} (first : Answers fs x (.error e)) (f : α → Hooked Caches β) :
    Answers fs (x >>= f) (.error e) := by
  intro t agrees
  obtain ⟨failed, agreesStill⟩ := first t agrees
  rw [runFrom_bind_error f (Prod.ext failed rfl)]
  exact ⟨rfl, agreesStill⟩

namespace Engine

variable {directory : Path} {directories : List Path} {type : ModuleType}

theorem manifestAt_answers (reaches : fs.Reaches directory) :
    Answers fs (manifestAt fs (Manifest.pathIn directory)) (Manifest.read fs (Manifest.pathIn directory)) := by
  intro t agrees
  refine ⟨?_, agrees.manifestAt directory t.trace⟩
  rw [manifestAt_runFrom]
  cases known : t.state.manifests.get? (Manifest.pathIn directory) with
  | some manifest => exact (agrees.read_eq reaches known).symm
  | none => rfl

/-- Up to the boundary a walk comes to what the files say. -/
theorem walk_answers (reaches : ∀ directory ∈ directories.takeWhile (!isBoundary ·), fs.Reaches directory) :
    Answers fs (walk fs directories) (directories.foldr (typeIn fs) (.ok .commonJs)) := by
  induction directories with
  | nil => exact .pure fs _
  | cons directory above ih =>
    rw [List.foldr_cons, typeIn]
    unfold walk
    by_cases boundary : isBoundary directory = true
    · rw [if_pos boundary, if_pos boundary]
      exact .pure fs _
    · rw [List.takeWhile_cons_of_pos (by simp [boundary]), List.forall_mem_cons] at reaches
      rw [if_neg boundary, if_neg boundary]
      have looked := manifestAt_answers reaches.1
      cases read : Manifest.read fs (Manifest.pathIn directory) with
      | error e =>
        rw [read] at looked
        exact looked.bind_error _
      | ok manifest =>
        rw [read] at looked
        refine looked.bind_ok ?_
        dsimp only
        cases manifest.bind Manifest.declaredType with
        | some own => exact .pure fs _
        | none => exact ih reaches.2

theorem typeOfDirectory_answers
    (reaches : ∀ above ∈ directory.ancestors.takeWhile (!isBoundary ·), fs.Reaches above) :
    Answers fs (typeOfDirectory fs directory) (typeOf fs directory) := by
  intro t agrees
  obtain ⟨types, ran, agreesStill⟩ := typeOfDirectory_walk directory agrees rfl
  rw [ran]
  exact ⟨(walk_answers reaches t agrees).1, agreesStill⟩

/-- What is remembered of a directory is its type by what the files say. -/
theorem typeOf_of_known {c : Caches} (agrees : c.AgreesWith fs)
    (reaches : ∀ above ∈ directory.ancestors.takeWhile (!isBoundary ·), fs.Reaches above)
    (known : c.moduleTypes.get? directory = some type) : typeOf fs directory = .ok type := by
  have recalled : (walk fs directory.ancestors).runFrom ⟨c, []⟩ = (.ok type, ⟨c, []⟩) :=
    walk_recollect (agrees.moduleTypes directory type known)
  have answer := (walk_answers reaches ⟨c, []⟩ agrees).1
  rw [recalled] at answer
  exact answer.symm

end Engine
end

/-! ## More that is remembered -/

/-- Caches that agree with the files and remember all the manifests that others do. -/
structure Caches.Covers (fs : FileSystem) (more fewer : Caches) : Prop where
  agrees : more.AgreesWith fs
  manifests : fewer.manifests.Le more.manifests

/-- From caches that agree with the files, a computation comes to a result that more which is remembered has no say
in, unless a manifest was read under a spelling that does not reach it. -/
def Unswayed (fs : FileSystem) (α : Type) (x : Hooked Caches α) : Prop :=
  ∀ c : Caches, c.AgreesWith fs → ∃ r asked u,
    (∀ trace, x.runFrom ⟨c, trace⟩ = (r, ⟨u, trace ++ asked⟩)) ∧ u.AgreesWith fs ∧
      ((∀ directory, .readManifest (Manifest.pathIn directory) ∈ asked → fs.Reaches directory) →
        ∀ t : Traced Caches, t.state.Covers fs c →
          (x.runFrom t).1 = r ∧ (x.runFrom t).2.state.Covers fs u)

namespace Unswayed

variable {fs : FileSystem}

theorem composes (fs : FileSystem) : Composes (Unswayed fs) where
  ofExcept r c agrees := by
    refine ⟨r, [], c, fun trace => by simp, agrees, fun _ t covers => ?_⟩
    rw [runFrom_liftExcept]
    exact ⟨rfl, covers⟩
  bind := by
    intro α β x f first rest c agrees
    obtain ⟨r, asked, u, ran, agreesStill, same⟩ := first c agrees
    cases r with
    | error e =>
      refine ⟨.error e, asked, u, fun trace => runFrom_bind_error f (ran trace), agreesStill, ?_⟩
      intro reaches t covers
      obtain ⟨failed, coversStill⟩ := same reaches t covers
      rw [runFrom_bind_error f (Prod.ext failed rfl)]
      exact ⟨rfl, coversStill⟩
    | ok a =>
      obtain ⟨r, further, v, ranRest, agreesThen, sameRest⟩ := rest a u agreesStill
      refine ⟨r, asked ++ further, v, fun trace => ?_, agreesThen, ?_⟩
      · rw [runFrom_bind_ok f (ran trace), ranRest, List.append_assoc]
      · intro reaches t covers
        obtain ⟨succeeded, coversStill⟩ :=
          same (fun directory member => reaches directory (List.mem_append_left _ member)) t covers
        rw [runFrom_bind_ok f (Prod.ext succeeded rfl)]
        exact sameRest (fun directory member => reaches directory (List.mem_append_right _ member)) _ coversStill

theorem manifestAt (fs : FileSystem) (directory : Path) :
    Unswayed fs _ (Engine.manifestAt fs (Manifest.pathIn directory)) := by
  intro c agrees
  cases known : c.manifests.get? (Manifest.pathIn directory) with
  | some manifest =>
    refine ⟨.ok manifest, [], c, fun trace => ?_, agrees, fun _ t covers => ?_⟩
    · rw [Engine.manifestAt_known known, List.append_nil]
    · rw [Engine.manifestAt_known (covers.manifests _ _ known)]
      exact ⟨rfl, covers⟩
  | none =>
    cases read : Manifest.read fs (Manifest.pathIn directory) with
    | error e =>
      refine ⟨.error e, _, c, fun trace => Engine.manifestAt_missed_error known read, agrees,
        fun reaches t covers => ?_⟩
      have unknown : t.state.manifests.get? (Manifest.pathIn directory) = none := by
        refine Option.eq_none_iff_forall_ne_some.2 fun manifest knownToo => ?_
        have found := covers.agrees.read_eq (reaches directory List.mem_cons_self) knownToo
        exact nomatch read.symm.trans found
      rw [Engine.manifestAt_missed_error unknown read]
      exact ⟨rfl, covers⟩
    | ok manifest =>
      refine ⟨.ok manifest, _, _, fun trace => Engine.manifestAt_missed_ok known read, agrees.remember_manifest read,
        fun reaches t covers => ?_⟩
      cases knownToo : t.state.manifests.get? (Manifest.pathIn directory) with
      | some found =>
        have readToo := covers.agrees.read_eq (reaches directory List.mem_cons_self) knownToo
        obtain rfl : manifest = found := Except.ok.inj (read.symm.trans readToo)
        rw [Engine.manifestAt_known knownToo]
        exact ⟨rfl, covers.agrees, PathMemo.insertNew_le covers.manifests knownToo⟩
      | none =>
        rw [Engine.manifestAt_missed_ok knownToo read]
        have remembered := PathMemo.get?_insertNew_self manifest knownToo
        have more := covers.manifests.trans (PathMemo.le_insertNew _ (Manifest.pathIn directory) manifest)
        exact ⟨rfl, covers.agrees.remember_manifest read, PathMemo.insertNew_le more remembered⟩

theorem walk (fs : FileSystem) (directories : List Path) : Unswayed fs _ (Engine.walk fs directories) := by
  have composes := composes fs
  induction directories with
  | nil => exact composes.pure _
  | cons directory above ih =>
    unfold Engine.walk
    split
    case isTrue => exact composes.pure _
    case isFalse =>
      refine composes.bind (manifestAt fs directory) fun manifest => ?_
      cases manifest.bind Manifest.declaredType with
      | some own => exact composes.pure _
      | none => exact ih

/-- The types that are remembered do not matter either, for they are what the manifests say. -/
theorem typeOfDirectory (fs : FileSystem) (directory : Path) : Unswayed fs _ (Engine.typeOfDirectory fs directory) := by
  intro c agrees
  obtain ⟨r, asked, u, walked, -, same⟩ := walk fs directory.ancestors c agrees
  obtain ⟨types, ran, agreesStill⟩ := Engine.typeOfDirectory_walk directory agrees (walked [])
  have within := (Settles.only fs).moduleType directory
  refine ⟨r, asked, { u with moduleTypes := types }, fun trace => ?_, agreesStill, fun reaches t covers => ?_⟩
  · rw [within.runFrom_eq, outcome_eq_runFrom, ran, List.nil_append]
  · obtain ⟨answer, coversStill⟩ := same reaches t covers
    obtain ⟨typesToo, ranToo, agreesToo⟩ := Engine.typeOfDirectory_walk directory covers.agrees rfl
    rw [ranToo]
    exact ⟨answer, agreesToo, coversStill.manifests⟩

theorem settles (fs : FileSystem) : Settles fs (Unswayed fs) where
  toComposes := composes fs
  manifest := manifestAt fs
  moduleType := typeOfDirectory fs

end Unswayed

/-! ## Resolution does not depend on the past -/

/-- What was read under short names was within reach. -/
theorem FileTree.walking_reaches_asked (tree : FileTree) {asked : List Event}
    (short : ∀ e ∈ asked, ∀ path ∈ e.readPath?, (Utf8.encode path.text).length ≤ pathLimit) :
    ∀ directory, .readManifest (Manifest.pathIn directory) ∈ asked → tree.walking.Reaches directory :=
  fun _ member => tree.walking_reaches (short _ member _ rfl)

namespace Engine

/-- What an engine was asked before has no say in a resolution: behind any requests, which may have failed, it
comes to the result that it has when the engine was just built, as long as each manifest that is read for the latter
is read under a spelling that reaches it. For what the caches answer is what reading and walking would come to. -/
theorem resolve_history (fs : FileSystem) (engine : Engine) (config : EngineConfig) (transformer : Transformer)
    (history : List (Host × Request)) (host : Host) (specifier : Text) (ctx : ResolveContext) :
    let built := ((create fs config transformer).outcome {}).2.state
    let past := engine.cachesBehind fs config transformer history
    let anew := (engine.resolve fs host specifier ctx).outcome built
    ((∀ directory, .readManifest (Manifest.pathIn directory) ∈ anew.2.trace → fs.Reaches directory) →
      ((engine.resolve fs host specifier ctx).outcome past).1 = anew.1) ∧
    (∀ path manifest, past.manifests.get? path = some manifest →
      ∃ directory, path.components = (Manifest.pathIn directory).components ∧
        Manifest.read fs (Manifest.pathIn directory) = .ok manifest) ∧
    (∀ directory manifest, fs.Reaches directory →
      past.manifests.get? (Manifest.pathIn directory) = some manifest →
        Manifest.read fs (Manifest.pathIn directory) = .ok manifest) ∧
    (∀ directory type, (∀ above ∈ directory.ancestors.takeWhile (!isBoundary ·), fs.Reaches above) →
      past.moduleTypes.get? directory = some type → typeOf fs directory = .ok type) := by
  intro built past anew
  have agreesBuilt : built.AgreesWith fs := .create fs config transformer
  have agreesPast : past.AgreesWith fs := .behind engine fs config transformer history
  have covers : past.Covers fs built := by
    refine ⟨agreesPast, fun path manifest known => ?_⟩
    obtain ⟨tsconfigs, fresh⟩ := create_fresh fs config transformer
    rw [show built = _ from fresh] at known
    exact nomatch known
  refine ⟨fun reaches => ?_, agreesPast.manifests, fun _ _ reaches known => agreesPast.read_eq reaches known,
    fun _ _ reaches known => typeOf_of_known agreesPast reaches known⟩
  -- The dialogue with the host is the same; only its conclusion looks at the caches.
  obtain ⟨r, asked, u, ran, -, same⟩ :=
    (Unswayed.settles fs).answer engine ((engine.plan specifier ctx).ending host) built agreesBuilt
  have first : anew = (r, ⟨u, ((engine.plan specifier ctx).calls host).flatMap (Plan.asking host) ++ asked⟩) := by
    show (engine.resolve fs host specifier ctx).runFrom ⟨built, []⟩ = _
    rw [runFrom_resolve, ran]
    rfl
  rw [first] at reaches ⊢
  rw [outcome_eq_runFrom, runFrom_resolve]
  refine (same ?_ _ ?_).1
  · exact fun directory member => reaches directory (List.mem_append_right _ member)
  · exact covers

/-- A package of this type in whose dependency directory a package without a type is installed. -/
def installedTree (type : ModuleType) : FileTree :=
  ⟨[(["p".toList, "package.json".toList],
      .text ("\x7b\"type\":\"".toList ++ type.format.label ++ "\"\x7d".toList)),
    (["p".toList, "a.js".toList], .text []),
    (["p".toList, "node_modules".toList, "d".toList, "package.json".toList],
      .text "\x7b\"name\":\"d\"\x7d".toList)], []⟩

/-- A script in a package of modules on a disk, resolved after it was loaded and asked for in vain. -/
theorem resolve_history_script :
    let fs := (installedTree .module).walking
    let host := FileHost.host fs Path.rootDirectory
    let config : EngineConfig := { root := ⟨"/p".toList⟩ }
    let engine : Engine := ⟨config, none, none, none, Transformer.passthrough⟩
    let ctx := ResolveContext.fresh none .module
    let history := [(host, Request.load (.file ⟨"/p/a.js".toList⟩) { kind := .module }),
      (host, .resolve "/p/b".toList ctx)]
    (∀ directory, .readManifest (Manifest.pathIn directory) ∈
        ((engine.resolve fs host "/p/a".toList ctx).outcome
          ((create fs config Transformer.passthrough).outcome {}).2.state).2.trace → fs.Reaches directory) ∧
      ((engine.resolve fs host "/p/a".toList ctx).outcome
          (engine.cachesBehind fs config Transformer.passthrough history)).1 =
        ((engine.resolve fs host "/p/a".toList ctx).outcome
          ((create fs config Transformer.passthrough).outcome {}).2.state).1 ∧
      (engine.cachesBehind fs config Transformer.passthrough history).moduleTypes.get? ⟨"/p".toList⟩ =
        some .module ∧
      typeOf fs ⟨"/p".toList⟩ = .ok .module := by
  intro fs host config engine ctx history
  have short : ∀ e ∈ ((engine.resolve fs host "/p/a".toList ctx).outcome
      ((create fs config Transformer.passthrough).outcome {}).2.state).2.trace,
      ∀ path ∈ e.readPath?, (Utf8.encode path.text).length ≤ FileTree.pathLimit := by decide +kernel
  have shortAbove : ∀ above ∈ (⟨"/p".toList⟩ : Path).ancestors.takeWhile (!isBoundary ·),
      (Utf8.encode (Manifest.pathIn above).text).length ≤ FileTree.pathLimit := by decide +kernel
  obtain ⟨same, -, -, types⟩ :=
    resolve_history fs engine config Transformer.passthrough history host "/p/a".toList ctx
  have reaches := (installedTree .module).walking_reaches_asked short
  have reachesAbove : ∀ above ∈ (⟨"/p".toList⟩ : Path).ancestors.takeWhile (!isBoundary ·), fs.Reaches above :=
    fun above member => FileTree.walking_reaches _ (shortAbove above member)
  have known : (engine.cachesBehind fs config Transformer.passthrough history).moduleTypes.get? ⟨"/p".toList⟩ =
      some .module := by decide +kernel
  exact ⟨reaches, same reaches, known, types _ _ reachesAbove known⟩

/-! ## Where the past shows -/

section

variable {fs : FileSystem} {c : Caches} {n : Nat} {type : ModuleType}

/-- Where nothing is remembered of the directory of a script and its manifest cannot be read, detection fails. -/
theorem detectFormat_unreadable {file above : Path} {e : HookError}
    (script : scriptExtensions.contains (Path.extension file.text) = true) (inside : file.parent? = some above)
    (outside : isBoundary above = false) (unknown : c.moduleTypes.get? above = none)
    (missed : c.manifests.get? (Manifest.pathIn above) = none)
    (failed : Manifest.read fs (Manifest.pathIn above) = .error e) :
    ((detectFormat fs file).outcome c).1 = .error e := by
  obtain ⟨rest, whole⟩ := above.exists_ancestors
  have search : (searchType fs above.ancestors).runFrom ⟨c, []⟩ =
      (.error e, ⟨c, [.readManifest (Manifest.pathIn above)]⟩) := by
    rw [whole, searchType, outside, if_neg (by simp), runFrom_bind_ok _ (runFrom_state _)]
    simp only [unknown]
    exact runFrom_bind_error _ (manifestAt_missed_error missed failed)
  have walk : (typeOfDirectory fs above).runFrom ⟨c, []⟩ =
      (.error e, ⟨c, [.readManifest (Manifest.pathIn above)]⟩) := by
    rw [typeOfDirectory_runFrom, search]
  unfold detectFormat
  simp only [ofExtension?_script script, script, if_true, inside]
  rw [outcome_eq_runFrom, runFrom_bind_error _ walk]

theorem parent?_script_padded (n : Nat) :
    (Path.padded n ⟨"/p/a.js".toList⟩).parent? = some (Path.padded n ⟨"/p".toList⟩) := by
  have pieces : Path.trimIdle (Text.splitAt '/' "p/a.js".toList) = [] ++ ["p".toList, "a.js".toList] := by decide
  exact Path.parent?_padded n pieces (by decide)

theorem extension_script_padded (n : Nat) :
    scriptExtensions.contains (Path.extension (Path.padded n ⟨"/p/a.js".toList⟩).text) = true := by
  have begun : Path.lastSegment (List.replicate n '/' ++ "/p/a".toList) ≠ [] := by
    have whole : List.replicate n '/' ++ "/p/a".toList = (List.replicate n '/' ++ "/p/".toList) ++ ['a'] := by
      simp
    rw [whole, Path.lastSegment_append (by simp [Path.isSlash])]
    simp
  have same : Path.extension (Path.padded n ⟨"/p/a.js".toList⟩).text = ".js".toList := by
    have whole : (Path.padded n ⟨"/p/a.js".toList⟩).text =
        (List.replicate n '/' ++ "/p/a".toList) ++ '.' :: "js".toList := by
      simp [Path.padded]
    rw [whole, Path.extension_append begun (by simp [Path.isSlash]) (by decide)]
    rfl
  rw [same]
  decide

theorem isBoundary_padded (n : Nat) : isBoundary (Path.padded n ⟨"/p".toList⟩) = false := by
  rw [isBoundary_congr (Path.components_padded n rfl)]
  decide

/-- A script under a name that is too long has the type that its directory is remembered with. -/
theorem detectFormat_padded_known (fs : FileSystem) (n : Nat)
    (known : c.moduleTypes.get? ⟨"/p".toList⟩ = some type) :
    ((detectFormat fs (Path.padded n ⟨"/p/a.js".toList⟩)).outcome c).1 = .ok (some type.format) := by
  have knownToo : c.moduleTypes.get? (Path.padded n ⟨"/p".toList⟩) = some type :=
    (PathMemo.get?_congr _ (Path.components_padded n rfl)).trans known
  rw [detectFormat_known (extension_script_padded n) (parent?_script_padded n) (isBoundary_padded n) knownToo]

/-- Where nothing is remembered of its directory, a disk cannot tell its type. -/
theorem detectFormat_padded_fresh (tree : FileTree) (tsconfigs : TsconfigCache) (long : FileTree.pathLimit ≤ n) :
    ((detectFormat tree.walking (Path.padded n ⟨"/p/a.js".toList⟩)).outcome (Caches.fresh tsconfigs)).1 =
      .error (.unreadable (Manifest.pathIn (Path.padded n ⟨"/p".toList⟩)) (.failed .tooLong)) :=
  detectFormat_unreadable (extension_script_padded n) (parent?_script_padded n) (isBoundary_padded n) rfl rfl
    (tree.read_padded long (by decide) (by decide))

/-- Where the host finds a file without a format, what is left is to detect it. -/
theorem resolve_fileModule {engine : Engine} {host : Host} {specifier : Text} {ctx : ResolveContext} {file : Path}
    (ended : (engine.plan specifier ctx).ending host = .answered (FileHost.fileModule file) true) :
    ((engine.resolve fs host specifier ctx).outcome c).1 =
      ((detectFormat fs file).outcome c).1.map fun format => { FileHost.fileModule file with format } := by
  rw [outcome_eq_runFrom, runFrom_resolve, ended]
  show ((detectFormat fs file >>= fun format =>
    pure { FileHost.fileModule file with format }).runFrom ⟨c, _⟩).1 = _
  rw [runFrom_bind, ((Settles.only fs).detectFormat file).runFrom_eq]
  cases ((detectFormat fs file).outcome c).1 <;> rfl

/-- A disk does not take a script's name with more slashes in front than a path has room for, so the script is not
resolved by an engine that was just built; but it is once the same script was resolved under its plain name. -/
theorem resolve_history_padded :
    let fs := (installedTree .module).walking
    let plain : Path := ⟨"/p/a.js".toList⟩
    let long := Path.padded FileTree.pathLimit plain
    let host : Host :=
      { FileHost.host fs Path.rootDirectory with
        resolve := fun specifier _ =>
          { result := .ok (FileHost.fileModule (if specifier = "plain".toList then plain else long)) } }
    let config : EngineConfig := { root := ⟨"/p".toList⟩ }
    let engine : Engine := ⟨config, none, none, none, Transformer.passthrough⟩
    let ctx := ResolveContext.fresh none .module
    let built := ((create fs config engine.transformer).outcome {}).2.state
    let past := engine.cachesBehind fs config engine.transformer [(host, .resolve "plain".toList ctx)]
    ((engine.resolve fs host "long".toList ctx).outcome past).1 =
        .ok { FileHost.fileModule long with format := some .module } ∧
      ((engine.resolve fs host "long".toList ctx).outcome built).1 =
        .error (.unreadable (Manifest.pathIn (Path.padded FileTree.pathLimit ⟨"/p".toList⟩)) (.failed .tooLong)) := by
  intro fs plain long host config engine ctx built past
  have ending : (engine.plan "long".toList ctx).ending host = .answered (FileHost.fileModule long) true := rfl
  have known : past.moduleTypes.get? ⟨"/p".toList⟩ = some .module := by decide +kernel
  obtain ⟨tsconfigs, fresh⟩ := create_fresh fs config engine.transformer
  rw [resolve_fileModule ending, resolve_fileModule ending, detectFormat_padded_known fs _ known,
    show built = _ from fresh, detectFormat_padded_fresh _ tsconfigs (Nat.le_refl _)]
  exact ⟨rfl, rfl⟩

end

end Engine
end ModuleHooks
