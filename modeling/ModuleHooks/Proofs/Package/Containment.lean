import ModuleHooks.Proofs.Host.Packages
import ModuleHooks.Proofs.Json.Members
import ModuleHooks.Proofs.Path.Normal
import ModuleHooks.Proofs.Resolution.Candidates
import ModuleHooks.Proofs.Resolution.WorkspaceAlias

/-!
What a package exports and where that lies. A target always begins in the package. What a pattern comes to
never has a step up, whatever its star stands for; a target that is taken as it is written has one only if
the manifest does. So a manifest without steps up exports nothing but what lies in its package, to members
of the workspace and to installed packages alike.
-/
namespace ModuleHooks

namespace Package

/-- A text that stands in a value, inside lists and objects to any depth. -/
inductive Declares : Json → Text → Prop
  | text (s : Text) : Declares (.string s) s
  | item {items : List Json} {item : Json} {s : Text} (member : item ∈ items)
      (inside : Declares item s) : Declares (.array items) s
  | value {members : List (Text × Json)} {name : Text} {value : Json} {s : Text}
      (member : (name, value) ∈ members) (inside : Declares value s) : Declares (.object members) s

/-- No text in the value has a step up. -/
def IsLevel (value : Json) : Prop := ∀ s, Declares value s → stepsUp s = false

/-! ## Where a target comes from -/

mutual

/-- What a target comes to stands in it. -/
theorem declares_of_targetText? {conditions : List Text} {s : Text} (target : Json)
    (found : targetText? conditions target = some s) : Declares target s := by
  cases target with
  | string t =>
    obtain rfl : t = s := by simpa [targetText?] using found
    exact .text t
  | array items =>
    obtain ⟨item, member, inside⟩ := declares_of_firstItem? items (by simpa [targetText?] using found)
    exact .item member inside
  | object members =>
    obtain ⟨name, value, member, inside⟩ :=
      declares_of_firstMember? members (by simpa [targetText?] using found)
    exact .value member inside
  | null => simp [targetText?] at found
  | bool b => simp [targetText?] at found
  | number n => simp [targetText?] at found

theorem declares_of_firstItem? {conditions : List Text} {s : Text} (items : List Json)
    (found : firstItem? conditions items = some s) : ∃ item ∈ items, Declares item s := by
  cases items with
  | nil => simp [firstItem?] at found
  | cons item rest =>
    cases here : targetText? conditions item with
    | some t =>
      obtain rfl : t = s := by simpa [firstItem?, here] using found
      exact ⟨item, by simp, declares_of_targetText? item here⟩
    | none =>
      obtain ⟨other, member, inside⟩ :=
        declares_of_firstItem? rest (by simpa [firstItem?, here] using found)
      exact ⟨other, by simp [member], inside⟩

theorem declares_of_firstMember? {conditions : List Text} {s : Text} (members : List (Text × Json))
    (found : firstMember? conditions members = some s) :
    ∃ name value, (name, value) ∈ members ∧ Declares value s := by
  cases members with
  | nil => simp [firstMember?] at found
  | cons first rest =>
    obtain ⟨name, value⟩ := first
    cases here : if isActive conditions name then targetText? conditions value else none with
    | some t =>
      obtain rfl : t = s := by simpa [firstMember?, here] using found
      have chosen : targetText? conditions value = some t := by
        split at here
        · exact here
        · exact nomatch here
      exact ⟨name, value, by simp, declares_of_targetText? value chosen⟩
    | none =>
      obtain ⟨other, item, member, inside⟩ :=
        declares_of_firstMember? rest (by simpa [firstMember?, here] using found)
      exact ⟨other, item, by simp [member], inside⟩

end

section

variable {exports target : Json} {conditions : List Text} {subpath found : Text}

theorem exportTarget?_some (exported : exportTarget? conditions target = some found) :
    isInside found = true ∧ Declares target found := by
  obtain ⟨text, inside⟩ := Option.filter_eq_some_iff.1 exported
  exact ⟨inside, declares_of_targetText? target text⟩

/-- A pattern leads nowhere with a step up, and begins in the package as its target does. -/
theorem exportPattern?_some {map : Members Json}
    (exported : exportPattern? map conditions subpath = some found) :
    isInside found = true ∧ stepsUp found = false := by
  unfold exportPattern? at exported
  obtain ⟨⟨target, star⟩, -, exported⟩ := Option.bind_eq_some_iff.1 exported
  obtain ⟨pattern, declared, filled⟩ := Option.bind_eq_some_iff.1 exported
  dsimp only at filled
  split at filled
  case isTrue => exact nomatch filled
  case isFalse level =>
    cases filled
    refine ⟨?_, by simpa using level⟩
    -- The two characters at the start hold no star.
    obtain ⟨rest, rfl⟩ : ['.', '/'] <+: pattern :=
      List.isPrefixOf_iff_prefix.1 (exportTarget?_some declared).1
    exact List.isPrefixOf_iff_prefix.2 ⟨Text.fill '*' star rest, by simp [Text.fill]⟩

/-- A target begins in the package; it is a text of the manifest, or it has no step up. -/
theorem exported?_some (exported : exported? exports conditions subpath = some found) :
    isInside found = true ∧ (Declares exports found ∨ stepsUp found = false) := by
  have root (exported : (if subpath = ['.'] then exportTarget? conditions exports else none) =
      some found) : isInside found = true ∧ (Declares exports found ∨ stepsUp found = false) := by
    split at exported
    · exact (exportTarget?_some exported).imp_right .inl
    · exact nomatch exported
  have pattern {map : Members Json} (exported : exportPattern? map conditions subpath = some found) :
      isInside found = true ∧ (Declares exports found ∨ stepsUp found = false) :=
    (exportPattern?_some exported).imp_right .inr
  unfold exported? at exported
  dsimp only at exported
  split at exported
  case h_1 members =>
    split at exported
    case isTrue =>
      split at exported
      case h_1 target named =>
        split at exported
        case isTrue => exact pattern exported
        case isFalse =>
          obtain ⟨inside, declared⟩ := exportTarget?_some exported
          exact ⟨inside, .inl (.value (Members.mem_of_get? named) declared)⟩
      case h_2 => exact pattern exported
    case isFalse => exact root exported
  case h_2 => exact root exported

/-- Without steps up in the manifest, a target lies in the directory that it is seen from. -/
theorem contains_of_exported? (level : IsLevel exports)
    (exported : exported? exports conditions subpath = some found) (directory : Path) :
    stepsUp found = false ∧ directory.normalize.Contains (directory.child found).normalize := by
  obtain ⟨inside, origin⟩ := exported?_some exported
  have down : stepsUp found = false := by
    obtain declared | down := origin
    · exact level found declared
    · exact down
  have relative : Path.isAbsolute ⟨found⟩ = false := by
    obtain ⟨rest, rfl⟩ : ['.', '/'] <+: found := List.isPrefixOf_iff_prefix.1 inside
    rfl
  exact ⟨down, directory.contains_child relative (by simpa [stepsUp] using down)⟩

end

/-! ## What a package exports lies in it -/

open Engine

/-- A package exports what begins in it. A target has a step up only if the manifest declares it with that;
the targets of a manifest without steps up lie in the package. So do the files that members of the
workspace resolve to, and those that the host over files finds for installed packages. -/
theorem exports_contained (engine : Engine) (fs : FileSystem) :
    (∀ exports conditions subpath target, exported? exports conditions subpath = some target →
      isInside target = true ∧ (stepsUp target = true → Declares exports target) ∧
      (IsLevel exports → stepsUp target = false ∧
        ∀ directory : Path, directory.normalize = directory →
          directory.Contains (directory.child target).normalize)) ∧
    (∀ host caches specifier ctx m,
      Specifier.classify engine.config.workspaceNamespace specifier = .workspaceAlias →
      Path.crossesDependency specifier = false →
      ((engine.resolve fs host specifier ctx).outcome caches).1 = .ok m →
      ∃ slug directory manifest exports path, packageDirectory engine specifier slug = .ok directory ∧
        (caches.manifests.get? (Manifest.pathIn directory) = some (some manifest) ∨
          caches.manifests.get? (Manifest.pathIn directory) = none ∧
            Manifest.read fs (Manifest.pathIn directory) = .ok (some manifest)) ∧
        manifest.exports = some exports ∧ m.id = .file path ∧
        (IsLevel exports → directory.normalize.Contains path)) ∧
    ∀ workingDirectory specifier ctx m, FileHost.NamesPackage specifier →
      ((FileHost.host fs workingDirectory).resolve specifier ctx).result = .ok m →
      ∃ installed found,
        FileHost.installation? fs (FileHost.splitPackage specifier).1
          (FileHost.baseDirectory workingDirectory ctx).ancestors = some installed ∧
        Manifest.read fs (Manifest.pathIn installed) = .ok found ∧
        ∀ exports, (found.getD {}).exports = some exports →
          ∃ path, m.id = .file path ∧ (IsLevel exports → installed.normalize.Contains path) := by
  refine ⟨?_, ?_, ?_⟩
  · intro exports conditions subpath target exported
    obtain ⟨inside, origin⟩ := exported?_some exported
    refine ⟨inside, fun up => ?_, fun level => ⟨?_, fun directory normal => ?_⟩⟩
    · exact origin.resolve_right (by simp [up])
    · exact (contains_of_exported? level exported Path.rootDirectory).1
    · simpa only [normal] using (contains_of_exported? level exported directory).2
  · intro host caches specifier ctx m kind clear ok
    obtain ⟨slug, subpath, -, parts⟩ := isMember_of_classify kind
    rw [resolve_workspaceAlias kind clear ctx, Hooked.outcome_eq_runFrom] at ok
    obtain ⟨directory, manifest, target, format, v, package, found, exported, -, rfl⟩ :=
      resolveWorkspace_ok (m := m) parts (Prod.ext ok rfl)
    obtain ⟨exports, declares, exported⟩ := Option.bind_eq_some_iff.1 exported
    exact ⟨slug, directory, manifest, exports, _, package, manifestAt_ok found, declares, rfl,
      fun level => (contains_of_exported? level exported directory).2⟩
  · intro workingDirectory specifier ctx m names answer
    obtain ⟨installed, found, place, read, answered⟩ := FileHost.resolve_package_ok names answer
    refine ⟨installed, found, place, read, fun exports declared => ?_⟩
    obtain ⟨target, exported, rfl⟩ := answered exports declared
    exact ⟨_, rfl, fun level => (contains_of_exported? level exported installed).2⟩

/-- A package that has a script for every name. -/
def levelExports : Json := .object [("./*".toList, .string "./lib/*.js".toList)]

theorem isLevel_levelExports : IsLevel levelExports := by
  intro s declared
  cases declared with
  | value member inside =>
    obtain ⟨-, rfl⟩ := Prod.mk.inj (List.mem_singleton.1 member)
    cases inside with
    | text => decide

/-- The package as it is installed. -/
def levelTree : FileTree :=
  ⟨[(["node_modules".toList, "pkg".toList, "package.json".toList],
      .text "\x7b\"exports\": \x7b\"./*\": \"./lib/*.js\"\x7d\x7d".toList),
    (["node_modules".toList, "pkg".toList, "lib".toList, "a.js".toList], .text [])], []⟩

theorem namesPackage_levelTree : FileHost.NamesPackage "pkg/a".toList :=
  ⟨by decide, by decide, by decide, by decide, by decide, by decide, by decide⟩

theorem exports_contained_script :
    let fs := levelTree.lexical
    let host := FileHost.host fs Path.rootDirectory
    let ctx := ResolveContext.fresh none .module
    let directory : Path := ⟨"/node_modules/pkg".toList⟩
    (exported? levelExports [] "./a".toList = some "./lib/a.js".toList ∧
      directory.normalize = directory ∧ IsLevel levelExports ∧
      directory.Contains (directory.child "./lib/a.js".toList).normalize) ∧
    (∃ m, ((memberEngine.resolve fs host "@t/a".toList ctx).outcome memberCaches).1 = .ok m ∧
      ∃ path, m.id = .file path) ∧
    ∃ m, (host.resolve "pkg/a".toList ctx).result = .ok m ∧
      ∃ installed found, Manifest.read fs (Manifest.pathIn installed) = .ok found ∧
        ∀ exports, (found.getD {}).exports = some exports →
          ∃ path, m.id = .file path ∧ (IsLevel exports → installed.normalize.Contains path) := by
  intro fs host ctx directory
  obtain ⟨targets, members, installations⟩ := exports_contained memberEngine fs
  refine ⟨?_, ?_, ?_⟩
  · have exported : exported? levelExports [] "./a".toList = some "./lib/a.js".toList := by decide
    have normal : directory.normalize = directory := by decide
    obtain ⟨-, -, within⟩ := targets levelExports [] "./a".toList _ exported
    exact ⟨exported, normal, isLevel_levelExports, (within isLevel_levelExports).2 directory normal⟩
  · obtain ⟨m, ok⟩ : ∃ m,
        ((memberEngine.resolve fs host "@t/a".toList ctx).outcome memberCaches).1 = .ok m :=
      ⟨{ id := .file ⟨"/repo/packages/a/index.ts".toList⟩, format := some .commonJs, shortCircuit := true },
        Hooked.eq_ok_of_toOption (by decide +kernel)⟩
    obtain ⟨-, -, -, -, path, -, -, -, file, -⟩ :=
      members host memberCaches "@t/a".toList ctx m (by decide) (by decide) ok
    exact ⟨m, ok, path, file⟩
  · have answer : (host.resolve "pkg/a".toList ctx).result =
        .ok (FileHost.fileModule ⟨"/node_modules/pkg/lib/a.js".toList⟩) :=
      Hooked.eq_ok_of_toOption (by decide +kernel)
    obtain ⟨installed, found, -, read, inside⟩ :=
      installations Path.rootDirectory "pkg/a".toList ctx _ namesPackage_levelTree answer
    exact ⟨_, answer, installed, found, read, inside⟩

/-- A package whose target has a step up behind its start. -/
def leakyTree : FileTree :=
  ⟨[(["node_modules".toList, "pkg".toList, "package.json".toList],
      .text "\x7b\"exports\": \"./../outside.js\"\x7d".toList),
    (["node_modules".toList, "outside.js".toList], .text [])], []⟩

/-- A target that is taken as it is written leads out of the package by a step up. -/
theorem exports_uncontained :
    let directory : Path := ⟨"/node_modules/pkg".toList⟩
    let target := "./../outside.js".toList
    let fs := leakyTree.lexical
    exported? (.string target) [] ['.'] = some target ∧ stepsUp target = true ∧
      directory.normalize = directory ∧ ¬directory.Contains (directory.child target).normalize ∧
      ((bareEngine.resolve fs (FileHost.host fs Path.rootDirectory) "pkg".toList
          (.fresh (some ⟨"/a.js".toList⟩) .module)).outcome {}).1.toOption.map (·.id) =
        some (.file ⟨"/node_modules/outside.js".toList⟩) := by
  intro directory target fs
  exact ⟨by decide, by decide, by decide, by decide, by decide +kernel⟩

end Package

end ModuleHooks
