import ModuleHooks.Proofs.Path.Components
import ModuleHooks.Proofs.Path.Memo
import ModuleHooks.Proofs.Session

/-!
Caches only grow. A manifest that was read, or found missing, stays as it was and is not read again; a
directory's type stays as it was and is answered without a question; and a failure settles nothing. None
of this asks what the files are: they may change between requests as they like.
-/
namespace ModuleHooks

open Hooked

/-- What requests do to the caches when the files are among some file systems. -/
structure Caches.Grows (files : FileSystem → Prop) (c : Caches) (asked : List Event) (later : Caches) :
    Prop where
  manifests : c.manifests.Le later.manifests
  moduleTypes : c.moduleTypes.Le later.moduleTypes
  /-- Only a manifest that is not remembered is read. -/
  unread : ∀ path, .readManifest path ∈ asked → c.manifests.get? path = none
  /-- What is remembered anew was read. -/
  origin : ∀ path manifest, later.manifests.get? path = some manifest →
    c.manifests.get? path = some manifest ∨
      ∃ fs spelled, files fs ∧ spelled.components = path.components ∧
        .readManifest spelled ∈ asked ∧ Manifest.read fs spelled = .ok manifest
  /-- The boundary of installed dependencies is answered without being remembered. -/
  inside : ∀ directory type, later.moduleTypes.get? directory = some type →
    c.moduleTypes.get? directory = some type ∨ Engine.isBoundary directory = false

section

variable {files : FileSystem → Prop} {fs : FileSystem} {c : Caches}

/-- What else is remembered does not matter. -/
theorem Caches.Grows.elsewhere (files : FileSystem → Prop) {later : Caches}
    (manifests : later.manifests = c.manifests) (moduleTypes : later.moduleTypes = c.moduleTypes) :
    Grows files c [] later where
  manifests := manifests ▸ .refl _
  moduleTypes := moduleTypes ▸ .refl _
  unread _ member := nomatch member
  origin _ _ known := .inl (manifests ▸ known)
  inside _ _ known := .inl (moduleTypes ▸ known)

theorem Caches.Grows.refl (files : FileSystem → Prop) (c : Caches) : Grows files c [] c :=
  .elsewhere files rfl rfl

theorem Caches.Grows.trans {s u v : Caches} {asked further : List Event} (first : Grows files s asked u)
    (second : Grows files u further v) : Grows files s (asked ++ further) v where
  manifests := first.manifests.trans second.manifests
  moduleTypes := first.moduleTypes.trans second.moduleTypes
  unread path member := by
    obtain member | member := List.mem_append.1 member
    · exact first.unread path member
    · cases known : s.manifests.get? path with
      | none => rfl
      | some manifest =>
        have still := first.manifests path manifest known
        exact absurd (still.symm.trans (second.unread path member)) (by simp)
  origin path manifest known := by
    obtain between | ⟨fs, spelled, among, same, member, read⟩ := second.origin path manifest known
    · obtain before | ⟨fs, spelled, among, same, member, read⟩ := first.origin path manifest between
      · exact .inl before
      · exact .inr ⟨fs, spelled, among, same, List.mem_append_left _ member, read⟩
    · exact .inr ⟨fs, spelled, among, same, List.mem_append_right _ member, read⟩
  inside directory type known := by
    obtain between | outside := second.inside directory type known
    · exact first.inside directory type between
    · exact .inr outside

theorem Caches.Grows.repeats (files : FileSystem → Prop) : Repeats (Caches.Grows files) :=
  ⟨refl files, trans⟩

/-- A manifest that was read is remembered. -/
theorem Caches.Grows.read {path : Path} {manifest : Option Manifest} (among : files fs)
    (unknown : c.manifests.get? path = none) (read : Manifest.read fs path = .ok manifest) :
    Grows files c [.readManifest path]
      { c with manifests := c.manifests.insertNew path manifest } where
  manifests := PathMemo.le_insertNew _ _ _
  moduleTypes := .refl _
  unread spelled member := by
    obtain rfl : spelled = path := by simpa using member
    exact unknown
  origin spelled found known := by
    obtain before | ⟨same, rfl⟩ := PathMemo.get?_insertNew_some known
    · exact .inl before
    · exact .inr ⟨fs, path, among, same.symm, List.mem_cons_self, read⟩
  inside _ _ known := .inl known

/-- A question that settles nothing. -/
theorem Caches.Grows.asked {e : Event}
    (unknown : ∀ path, e = .readManifest path → c.manifests.get? path = none) :
    Grows files c [e] c where
  manifests := .refl _
  moduleTypes := .refl _
  unread path member := unknown path (by simpa [eq_comm] using member)
  origin _ _ known := .inl known
  inside _ _ known := .inl known

theorem Caches.Grows.remember_types (files : FileSystem → Prop) (c : Caches) (type : ModuleType)
    {directories : List Path}
    (inside : ∀ directory ∈ directories, Engine.isBoundary directory = false) :
    Grows files c []
      { c with moduleTypes := directories.foldl (fun m d => m.insertNew d type) c.moduleTypes } where
  manifests := .refl _
  moduleTypes := PathMemo.le_foldl_insertNew _ _ _
  unread _ member := nomatch member
  origin _ _ known := .inl known
  inside directory found known := by
    obtain before | ⟨-, other, member, same⟩ := PathMemo.get?_foldl_insertNew _ known
    · exact .inl before
    · exact .inr ((Engine.isBoundary_congr same).trans (inside other member))

/-! ## Looking up only adds -/

/-- A walk upwards looks at no boundary. -/
theorem Engine.isBoundary_of_searchType {directories looked : List Path} {type : ModuleType}
    {t u : Traced Caches}
    (ran : (Engine.searchType fs directories).runFrom t = (.ok (type, looked), u)) :
    ∀ directory ∈ looked, Engine.isBoundary directory = false := by
  induction directories generalizing looked t u with
  | nil =>
    obtain ⟨-, rfl⟩ := Prod.mk.inj (Except.ok.inj (congrArg Prod.fst ran))
    simp
  | cons directory above ih =>
    unfold Engine.searchType at ran
    by_cases boundary : Engine.isBoundary directory = true
    · rw [if_pos boundary] at ran
      obtain ⟨-, rfl⟩ := Prod.mk.inj (Except.ok.inj (congrArg Prod.fst ran))
      simp
    have outside : Engine.isBoundary directory = false := by simpa using boundary
    rw [if_neg boundary, runFrom_bind_ok _ (runFrom_state t)] at ran
    cases known : t.state.moduleTypes.get? directory with
    | some known =>
      simp only [known] at ran
      obtain ⟨-, rfl⟩ := Prod.mk.inj (Except.ok.inj (congrArg Prod.fst ran))
      simp
    | none =>
      simp only [known] at ran
      obtain ⟨manifest, v, -, ran⟩ := exists_of_runFrom_bind ran
      cases declared : manifest.bind Manifest.declaredType with
      | some own =>
        simp only [declared] at ran
        obtain ⟨-, rfl⟩ := Prod.mk.inj (Except.ok.inj (congrArg Prod.fst ran))
        simpa using outside
      | none =>
        simp only [declared] at ran
        obtain ⟨⟨found, further⟩, w, search, ran⟩ := exists_of_runFrom_bind ran
        obtain ⟨rfl, rfl⟩ := Prod.mk.inj (Except.ok.inj (congrArg Prod.fst ran))
        exact List.forall_mem_cons.2 ⟨outside, ih search⟩

theorem Engine.manifestAt_grows (among : files fs) (path : Path) :
    Caches.Grows files c ((Engine.manifestAt fs path).outcome c).2.trace
      ((Engine.manifestAt fs path).outcome c).2.state := by
  rw [outcome_eq_runFrom, manifestAt_runFrom]
  cases unknown : c.manifests.get? path with
  | some manifest => exact .refl files c
  | none =>
    cases read : Manifest.read fs path with
    | error e => exact .asked (by rintro _ ⟨⟩; exact unknown)
    | ok manifest => exact .read among unknown read

theorem Caches.Grows.settles (among : files fs) : Settles fs fun _ => Within (Caches.Grows files) := by
  have repeats := Caches.Grows.repeats files
  have only := Settles.only fs
  have manifest (directory : Path) :
      Within (Caches.Grows files) (Engine.manifestAt fs (Manifest.pathIn directory)) :=
    (only.manifest directory).of_outcome fun c => Engine.manifestAt_grows among _
  refine { toComposes := Within.composes repeats, manifest, moduleType := fun directory => ?_ }
  refine (only.moduleType directory).of_outcome fun c => ?_
  have search := (Engine.searchType_within repeats manifest directory.ancestors).outcome c
  rw [outcome_eq_runFrom] at search
  rw [outcome_eq_runFrom, Engine.typeOfDirectory_runFrom]
  rcases ran : (Engine.searchType fs directory.ancestors).runFrom ⟨c, []⟩ with ⟨r, u⟩
  rw [ran] at search
  cases r with
  | error e => exact search
  | ok answer =>
    have remembered := Caches.Grows.remember_types files u.state answer.1
      (Engine.isBoundary_of_searchType ran)
    simpa using search.trans remembered

/-- Every request under files among the file systems only adds to the caches. -/
theorem Caches.Grows.governs (among : files fs) : Governs fs (Caches.Grows files) where
  toRepeats := Caches.Grows.repeats files
  settles := Caches.Grows.settles among
  asks _ _ other := .asked fun path same => absurd same (other path)
  tsconfigs _ _ := .elsewhere files rfl rfl
  sourceMaps _ _ := .elsewhere files rfl rfl

end

namespace Engine

/-! ## Once and for all -/

/-- A walk upwards changes no type by itself. -/
theorem searchType_moduleTypes (fs : FileSystem) (directories : List Path) (t : Traced Caches) :
    ((searchType fs directories).runFrom t).2.state.moduleTypes = t.state.moduleTypes := by
  have repeats : Repeats fun (c : Caches) (_ : List Event) c' => c'.moduleTypes = c.moduleTypes :=
    ⟨fun _ => rfl, fun first second => second.trans first⟩
  have manifest (directory : Path) :=
    ((Settles.only fs).manifest directory).of_outcome
      (R := fun (c : Caches) _ c' => c'.moduleTypes = c.moduleTypes) fun c => by
        rw [outcome_eq_runFrom, manifestAt_runFrom]
        cases c.manifests.get? (Manifest.pathIn directory) with
        | some manifest => rfl
        | none => cases Manifest.read fs (Manifest.pathIn directory) <;> rfl
  have search := searchType_within repeats manifest directories
  rw [show t = ⟨t.state, t.trace⟩ from rfl, search.runFrom_eq]
  exact search.outcome t.state

/-- A walk that fails settles no type. -/
theorem typeOfDirectory_failed {fs : FileSystem} {directory : Path} {c : Caches} {e : HookError}
    (failed : ((typeOfDirectory fs directory).outcome c).1 = .error e) :
    ((typeOfDirectory fs directory).outcome c).2.state.moduleTypes = c.moduleTypes := by
  have search := searchType_moduleTypes fs directory.ancestors ⟨c, []⟩
  rw [outcome_eq_runFrom, typeOfDirectory_runFrom] at failed ⊢
  rcases ran : (searchType fs directory.ancestors).runFrom ⟨c, []⟩ with ⟨e' | answer, u⟩
  · rw [ran] at search
    exact search
  · rw [ran] at failed
    exact nomatch failed

/-- A walk that succeeds leaves the directory with its type, unless it is the boundary of installed
dependencies, whose type needs no looking up. -/
theorem typeOfDirectory_remembers {fs : FileSystem} {directory : Path} {type : ModuleType}
    {t u : Traced Caches} (ran : (typeOfDirectory fs directory).runFrom t = (.ok type, u)) :
    isBoundary directory = true ∧ type = .commonJs ∨
      isBoundary directory = false ∧ u.state.moduleTypes.get? directory = some type := by
  obtain ⟨above, whole⟩ := directory.exists_ancestors
  rw [typeOfDirectory_runFrom, whole] at ran
  have kept := searchType_moduleTypes fs (directory :: above) t
  rcases search : (searchType fs (directory :: above)).runFrom t with ⟨e | ⟨found, looked⟩, v⟩
  · rw [search] at ran
    exact nomatch congrArg Prod.fst ran
  rw [search] at ran kept
  obtain rfl : found = type := Except.ok.inj (congrArg Prod.fst ran)
  obtain rfl := congrArg Prod.snd ran
  -- The walk ends at the directory, or it is the first that is looked at.
  unfold searchType at search
  by_cases boundary : isBoundary directory = true
  · rw [if_pos boundary] at search
    cases search
    exact .inl ⟨boundary, rfl⟩
  have outside : isBoundary directory = false := by simpa using boundary
  refine .inr ⟨outside, ?_⟩
  rw [if_neg boundary, runFrom_bind_ok _ (runFrom_state t)] at search
  cases known : t.state.moduleTypes.get? directory with
  | some own =>
    simp only [known] at search
    cases search
    exact known
  | none =>
    have first : ∃ more, looked = directory :: more := by
      simp only [known] at search
      obtain ⟨manifest, w, -, search⟩ := exists_of_runFrom_bind search
      cases declared : manifest.bind Manifest.declaredType with
      | some own =>
        simp only [declared] at search
        cases search
        exact ⟨[], rfl⟩
      | none =>
        simp only [declared] at search
        obtain ⟨⟨_, more⟩, x, -, search⟩ := exists_of_runFrom_bind search
        cases search
        exact ⟨more, rfl⟩
    obtain ⟨more, rfl⟩ := first
    refine PathMemo.le_foldl_insertNew more _ found directory found ?_
    rw [PathMemo.get?_insertNew, kept, known, if_pos rfl, Option.none_or]

/-- A manifest is remembered, or it is read. -/
theorem manifestAt_ok {fs : FileSystem} {path : Path} {manifest : Option Manifest} {t u : Traced Caches}
    (ran : (manifestAt fs path).runFrom t = (.ok manifest, u)) :
    t.state.manifests.get? path = some manifest ∨
      t.state.manifests.get? path = none ∧ Manifest.read fs path = .ok manifest := by
  rw [manifestAt_runFrom] at ran
  cases known : t.state.manifests.get? path with
  | some found =>
    simp only [known] at ran
    cases ran
    exact .inl rfl
  | none =>
    simp only [known] at ran
    exact .inr ⟨rfl, congrArg Prod.fst ran⟩

theorem manifestAt_failed {fs : FileSystem} {path : Path} {c : Caches} {e : HookError}
    (failed : ((manifestAt fs path).outcome c).1 = .error e) :
    ((manifestAt fs path).outcome c).2.state = c := by
  rw [outcome_eq_runFrom, manifestAt_runFrom] at failed ⊢
  cases known : c.manifests.get? path with
  | some manifest => rfl
  | none =>
    cases read : Manifest.read fs path with
    | error e => rfl
    | ok manifest => simp [known, read] at failed

theorem ofExtension?_script {file : Path}
    (script : scriptExtensions.contains (Path.extension file.text) = true) :
    ModuleFormat.ofExtension? file = none := by
  have one := List.contains_iff_mem.1 script
  simp only [scriptExtensions, List.map_cons, List.map_nil, List.mem_cons, List.not_mem_nil,
    or_false] at one
  unfold ModuleFormat.ofExtension?
  obtain ext | ext | ext | ext := one <;> rw [ext] <;> rfl

theorem searchType_known {fs : FileSystem} {directory : Path} {type : ModuleType} {t : Traced Caches}
    (outside : isBoundary directory = false) (known : t.state.moduleTypes.get? directory = some type)
    (above : List Path) :
    (searchType fs (directory :: above)).runFrom t = (.ok (type, []), t) := by
  unfold searchType
  rw [outside, if_neg (by simp), runFrom_bind_ok _ (runFrom_state t)]
  simp only [known]
  rfl

/-- A script has the type that its directory is remembered with, whatever the files are by now. -/
theorem detectFormat_known {fs : FileSystem} {file above : Path} {type : ModuleType} {c : Caches}
    (script : scriptExtensions.contains (Path.extension file.text) = true)
    (inside : file.parent? = some above) (outside : isBoundary above = false)
    (known : c.moduleTypes.get? above = some type) :
    (detectFormat fs file).outcome c = (.ok (some type.format), ⟨c, []⟩) := by
  obtain ⟨rest, whole⟩ := above.exists_ancestors
  have walk : (typeOfDirectory fs above).runFrom ⟨c, []⟩ = (.ok type, ⟨c, []⟩) := by
    rw [typeOfDirectory_runFrom, whole, searchType_known outside known]
    rfl
  unfold detectFormat
  simp only [ofExtension?_script script, script, if_true, inside]
  rw [outcome_eq_runFrom, runFrom_bind_ok _ walk]
  rfl

/-! ## The same again -/

section Again

variable {fs : FileSystem} {t u : Traced Caches} {later : Caches}

/-- A manifest that was looked up is remembered. -/
theorem manifestAt_remembers {path : Path} {manifest : Option Manifest}
    (ran : (manifestAt fs path).runFrom t = (.ok manifest, u)) :
    u.state.manifests.get? path = some manifest := by
  rw [manifestAt_runFrom] at ran
  cases known : t.state.manifests.get? path with
  | some found =>
    simp only [known] at ran
    cases ran
    exact known
  | none =>
    simp only [known] at ran
    obtain ⟨read, rfl⟩ := Prod.mk.inj ran
    rw [read]
    dsimp only
    exact PathMemo.get?_insertNew_self manifest known

/-- What was looked up is found again without a question, whatever the files are by then. -/
theorem manifestAt_again {path : Path} {manifest : Option Manifest}
    (ran : (manifestAt fs path).runFrom t = (.ok manifest, u))
    (kept : u.state.manifests.Le later.manifests) (files : FileSystem) :
    (manifestAt files path).runFrom ⟨later, []⟩ = (.ok manifest, ⟨later, []⟩) := by
  have known := kept path manifest (manifestAt_remembers ran)
  rw [manifestAt_runFrom]
  simp only [known]

theorem typeOfDirectory_again {directory : Path} {type : ModuleType}
    (ran : (typeOfDirectory fs directory).runFrom t = (.ok type, u))
    (kept : u.state.moduleTypes.Le later.moduleTypes) (files : FileSystem) :
    (typeOfDirectory files directory).runFrom ⟨later, []⟩ = (.ok type, ⟨later, []⟩) := by
  obtain ⟨above, whole⟩ := directory.exists_ancestors
  rw [typeOfDirectory_runFrom, whole]
  obtain ⟨boundary, rfl⟩ | ⟨outside, known⟩ := typeOfDirectory_remembers ran
  · rw [searchType, if_pos boundary]
    rfl
  · rw [searchType_known outside (kept directory type known)]
    rfl

theorem detectFormat_again {file : Path} {format : Option ModuleFormat}
    (ran : (detectFormat fs file).runFrom t = (.ok format, u))
    (kept : u.state.moduleTypes.Le later.moduleTypes) (files : FileSystem) :
    (detectFormat files file).runFrom ⟨later, []⟩ = (.ok format, ⟨later, []⟩) := by
  unfold detectFormat at ran ⊢
  cases own : ModuleFormat.ofExtension? file with
  | some found =>
    simp only [own] at ran ⊢
    cases ran
    rfl
  | none =>
    simp only [own] at ran ⊢
    by_cases script : scriptExtensions.contains (Path.extension file.text) = true
    · rw [if_pos script] at ran ⊢
      cases inside : file.parent? with
      | none =>
        simp only [inside] at ran ⊢
        cases ran
        rfl
      | some directory =>
        simp only [inside] at ran ⊢
        obtain ⟨type, v, walk, ran⟩ := exists_of_runFrom_bind ran
        cases ran
        rw [runFrom_bind_ok _ (typeOfDirectory_again walk kept files)]
        rfl
    · rw [if_neg script] at ran ⊢
      cases ran
      rfl

end Again

/-- A session only adds to the caches. -/
theorem session_grows (engine : Engine) (occasions : List Occasion) (c : Caches) :
    Caches.Grows (fun fs => ∃ o ∈ occasions, o.files = fs) c
      (engine.session occasions ⟨c, []⟩).trace (engine.session occasions ⟨c, []⟩).state := by
  have governs (o : Occasion) (member : o ∈ occasions) :
      Governs o.files (Caches.Grows fun fs => ∃ o ∈ occasions, o.files = fs) :=
    Caches.Grows.governs ⟨o, member, rfl⟩
  obtain ⟨asked, u, grown, ran⟩ :=
    engine.session_within (Caches.Grows.repeats _) occasions governs c
  rw [ran []]
  exact grown

/-- What is settled once stays settled, however the files change between the requests. A manifest that
is remembered, be it as missing, stays the same and is never read again, and only one that could be read
is remembered; a module type that is remembered stays the same and answers for every script directly in
its directory without a question; and a walk that fails leaves the module types as they were. -/
theorem session_settled (engine : Engine) (files : FileSystem) (config : EngineConfig)
    (transformer : Transformer) (before after : List Occasion) :
    let built := ((create files config transformer).outcome {}).2.state
    let now := (engine.session before ⟨built, []⟩).state
    let later := engine.session after ⟨now, []⟩
    (∀ path manifest, now.manifests.get? path = some manifest →
      later.state.manifests.get? path = some manifest ∧
        ∀ spelled, .readManifest spelled ∈ later.trace → spelled.components ≠ path.components) ∧
    (∀ path manifest, later.state.manifests.get? path = some manifest →
      now.manifests.get? path = some manifest ∨
        ∃ o ∈ after, ∃ spelled, spelled.components = path.components ∧
          .readManifest spelled ∈ later.trace ∧ Manifest.read o.files spelled = .ok manifest) ∧
    (∀ fs path e, ((manifestAt fs path).outcome now).1 = .error e →
      ((manifestAt fs path).outcome now).2.state = now) ∧
    (∀ directory type, now.moduleTypes.get? directory = some type →
      later.state.moduleTypes.get? directory = some type ∧
        ∀ fs file above, scriptExtensions.contains (Path.extension file.text) = true →
          file.parent? = some above → above.components = directory.components →
          (detectFormat fs file).outcome later.state =
            (.ok (some type.format), ⟨later.state, []⟩)) ∧
    (∀ fs directory e, ((typeOfDirectory fs directory).outcome now).1 = .error e →
      ((typeOfDirectory fs directory).outcome now).2.state.moduleTypes = now.moduleTypes) := by
  intro built now later
  have first := engine.session_grows before built
  have second := engine.session_grows after now
  have inside (directory : Path) (type : ModuleType)
      (known : later.state.moduleTypes.get? directory = some type) : isBoundary directory = false := by
    obtain known | outside := second.inside directory type known
    · obtain known | outside := first.inside directory type known
      · obtain ⟨tsconfigs, new⟩ := create_fresh files config transformer
        rw [show built = _ from new] at known
        exact nomatch known
      · exact outside
    · exact outside
  refine ⟨fun path manifest known => ⟨second.manifests path manifest known, ?_⟩, ?_,
    fun fs path e failed => manifestAt_failed failed, fun directory type known =>
    ⟨second.moduleTypes directory type known, ?_⟩, fun fs directory e failed =>
    typeOfDirectory_failed failed⟩
  · intro spelled asked same
    have unknown := second.unread spelled asked
    rw [PathMemo.get?_congr _ same] at unknown
    exact absurd (known.symm.trans unknown) (by simp)
  · intro path manifest known
    obtain before | ⟨fs, spelled, ⟨o, member, rfl⟩, same, asked, read⟩ :=
      second.origin path manifest known
    · exact .inl before
    · exact .inr ⟨o, member, spelled, same, asked, read⟩
  · intro fs file above script parent same
    have knownAbove : later.state.moduleTypes.get? above = some type :=
      (PathMemo.get?_congr _ same).trans (second.moduleTypes directory type known)
    exact detectFormat_known script parent (inside above type knownAbove) knownAbove

end Engine

end ModuleHooks
