import ModuleHooks.Proofs.Module.Matches
import ModuleHooks.Proofs.Module.Reading
import ModuleHooks.Proofs.Path.Relative

/-!
What the source of an aggregate says. Whatever the files, it is read as the aggregate of them, where the imports
have different names and so each member holds its own file (`ofText?_renderFiles`, `entries_aggregate`). The files
that a pattern lists are written from the root, without a backslash if no name has one, so the key of each leads
to it and none is the key of another (`render_entries`). A file that the pattern matches in more than one way is
listed as often, and then its key is there as often too (`render_repeated`).
-/
namespace ModuleHooks

namespace VirtualModule

open ModuleHooks.Path

variable {fs : FileSystem} {m : VirtualModule} {files found : List Path} {f g : Path}

/-! ## Names of imports -/

theorem binding_injective : Function.Injective binding := by
  intro i j same
  have digits : Nat.toDigits 10 i = Nat.toDigits 10 j := by
    rw [← JsonToken.ofNat_eq_toDigits, ← JsonToken.ofNat_eq_toDigits]
    exact List.append_cancel_left same
  have value := congrArg (Nat.ofDigitChars 10 · 0) digits
  simpa only [Nat.ofDigitChars_toDigits (by decide : 1 < 10) (by decide)] using value

theorem notMem_binding {c : Char} (other : c ∉ "__glob_".toList) (sign : c.isDigit = false) (i : Nat) :
    c ∉ binding i := by
  intro member
  rcases List.mem_append.1 member with front | digit
  · exact other front
  · exact Bool.false_ne_true (sign.symm.trans ((JsonToken.isWhole_ofNat i).inside c digit))

/-! ## The whole source -/

/-- What is in an aggregate of given files. -/
def aggregate (m : VirtualModule) (files : List Path) : Aggregate :=
  match m.kind with
  | .module =>
    ⟨.module, files.mapIdx fun i f => (binding i, f.toSlash),
      files.mapIdx fun i f => (m.key f, .imported (binding i))⟩
  | .commonJs => ⟨.commonJs, [], files.map fun f => (m.key f, .required f.toSlash)⟩

/-- The source of an aggregate is read as what is in it. -/
theorem ofText?_renderFiles (m : VirtualModule) (files : List Path) :
    Aggregate.ofText? (m.renderFiles files) = some (m.aggregate files) := by
  -- The members follow their opening line in both kinds of source.
  have members {held : Nat → Path → Held} {value : Nat → Path → Text}
      (holds : ∀ i f rest, Aggregate.held? (value i f ++ ",\n".toList ++ rest) = some (held i f, rest)) :
      Aggregate.lines Aggregate.memberLine?
          ((files.mapIdx fun i f => memberLine (m.key f) (value i f)).flatten ++ "\x7d;\n".toList).length
          ((files.mapIdx fun i f => memberLine (m.key f) (value i f)).flatten ++ "\x7d;\n".toList) =
        (files.mapIdx fun i f => (m.key f, held i f), "\x7d;\n".toList) :=
    Aggregate.lines_mapIdx (fun i f => Aggregate.memberLine?_append (m.key f) (holds i f)) rfl files
      (Nat.le_refl _)
  unfold renderFiles aggregate
  cases m.kind with
  | module =>
    have named (i : Nat) (f : Path) (rest : Text) :
        Aggregate.held? (binding i ++ ",\n".toList ++ rest) = some (.imported (binding i), rest) :=
      Aggregate.held?_imported (notMem_binding (by decide) rfl i) nofun (List.cons_ne_nil _ _) rest
    have imported (i : Nat) (f : Path) (rest : Text) :
        Aggregate.importLine? (importLine i f ++ rest) = some ((binding i, f.toSlash), rest) :=
      Aggregate.importLine?_append (notMem_binding (by decide) rfl i) f.toSlash rest
    dsimp only
    rw [List.append_assoc, List.append_assoc]
    exact Aggregate.ofText?_eq_some (Aggregate.lines_mapIdx imported rfl files (Nat.le_refl _))
      (Aggregate.opening?_module _) (members named)
  | commonJs =>
    have listed {α : Type} (g : Path → α) : files.map g = files.mapIdx fun _ => g :=
      List.ext_getElem (by simp) (by simp)
    have required (i : Nat) (f : Path) (rest : Text) :
        Aggregate.held? ("require(".toList ++ Json.quote f.toSlash ++ [')'] ++ ",\n".toList ++ rest) =
          some (.required f.toSlash, rest) :=
      Aggregate.held?_required f.toSlash rest
    dsimp only
    rw [List.append_assoc, listed, listed]
    exact Aggregate.ofText?_eq_some (Aggregate.lines_of_eq_none rfl _) (Aggregate.opening?_commonJs _)
      (members required)

/-! ## Members -/

theorem lookup_mapIdx {name : Nat → Text} (distinct : Function.Injective name) (target : Path → Text)
    (files : List Path) (i : Nat) :
    (files.mapIdx fun i f => (name i, target f)).lookup (name i) = files[i]?.map target := by
  induction files generalizing name i with
  | nil => rfl
  | cons f files ih =>
    rw [List.mapIdx_cons, List.lookup_cons]
    cases i with
    | zero => simp
    | succ i =>
      have other : name (i + 1) ≠ name 0 := fun same => nomatch distinct same
      rw [beq_eq_false_iff_ne.2 other]
      exact ih (fun _ _ same => Nat.succ.inj (distinct same)) i

/-- Each member holds its own file, whatever the kind of the source. -/
theorem entries_aggregate (m : VirtualModule) (files : List Path) :
    (m.aggregate files).entries = files.map fun f => (m.key f, some f.toSlash) := by
  unfold aggregate Aggregate.entries
  cases m.kind with
  | commonJs => simp
  | module =>
    refine List.ext_getElem (by simp) fun i inside _ => ?_
    have within : i < files.length := by simpa using inside
    simp [lookup_mapIdx binding_injective toSlash, within]

/-- From the importing directory the key of a file leads to the file. -/
theorem components_join_key (absolute : m.importerDirectory.isAbsolute = true) (rooted : f.isAbsolute = true)
    (plain : '\\' ∉ f.text) : (m.importerDirectory.join ⟨m.key f⟩).components = f.components := by
  unfold key
  cases found : m.importerDirectory.below? f with
  | none =>
    dsimp only
    rw [toSlash_of_notMem plain]
    exact congrArg components (join_of_isAbsolute rooted)
  | some rest =>
    have inside := (below?_eq_some absolute found).2
    have plainRest : '\\' ∉ rest.text := fun member => (inside _ member).elim nofun plain
    dsimp only
    rw [toSlash_of_notMem plainRest]
    exact components_join_below? absolute found

/-- So files with one key have the same components. -/
theorem components_of_key (absolute : m.importerDirectory.isAbsolute = true)
    (rooted : f.isAbsolute = true) (plain : '\\' ∉ f.text) (rootedToo : g.isAbsolute = true)
    (plainToo : '\\' ∉ g.text) (same : m.key f = m.key g) : f.components = g.components := by
  rw [← components_join_key absolute rooted plain, same, components_join_key absolute rootedToo plainToo]

end VirtualModule

/-! ## Without backslashes -/

namespace FileSystem

/-- No directory lists a name with a backslash. -/
def IsPlain (fs : FileSystem) : Prop := ∀ directory, ∀ name ∈ fs.namesIn directory, '\\' ∉ name

end FileSystem

namespace FileTree

variable {tree : FileTree}

theorem lexical_isPlain (proper : tree.IsProper) (plain : ∀ place ∈ tree.places, ∀ name ∈ place, '\\' ∉ name) :
    tree.lexical.IsPlain := by
  intro directory name member
  rw [namesIn_lexical proper] at member
  split at member
  · obtain ⟨place, inside, rest, rfl⟩ := mem_childNames.1 member
    exact plain _ inside name (by simp)
  · exact nomatch member

theorem walking_isPlain (proper : tree.IsProper) (plain : ∀ place ∈ tree.places, ∀ name ∈ place, '\\' ∉ name) :
    tree.walking.IsPlain := by
  intro directory name member
  rw [namesIn_walking proper] at member
  split at member
  · exact lexical_isPlain proper plain directory name (List.mem_of_mem_filter member)
  · exact nomatch member

end FileTree

namespace VirtualModule

open ModuleHooks.Path Glob

variable {fs : FileSystem} {m : VirtualModule} {found : List Path} {names : List Text}

/-- A path from the root without a backslash. -/
def IsPlainPath (p : Path) : Prop := p.isAbsolute = true ∧ '\\' ∉ p.text

theorem isPlainPath_child {p : Path} (plain : IsPlainPath p) {name : Text} (plainName : '\\' ∉ name) :
    IsPlainPath (p.child name) := by
  refine ⟨isAbsolute_join _ plain.1, fun member => ?_⟩
  unfold child join at member
  split at member
  · exact plainName member
  · split at member
    · exact (List.mem_append.1 member).elim plain.2 plainName
    · rcases List.mem_append.1 member with front | back
      · exact plain.2 front
      · exact (List.mem_cons.1 back).elim nofun plainName

/-- The texts of the components without wildcards have no backslash. -/
def SpellPlain (components : List (List GlobToken)) : Prop :=
  ∀ component ∈ components, ∀ name, literal? component = some name → '\\' ∉ name

theorem keeps_isPlainPath (plain : fs.IsPlain) : Keeps fs IsPlainPath IsPlainPath SpellPlain := by
  have dotted {directory : Path} {component : List GlobToken} {dots : Text} (here : IsPlainPath directory)
      (member : dots ∈ dotNames component) : IsPlainPath (directory.child dots) := by
    refine isPlainPath_child here ?_
    rcases isDots_of_mem_dotNames member with rfl | rfl <;> decide
  constructor
  case behind => exact fun kind component member => kind component (List.mem_cons_of_mem _ member)
  case literal =>
    intro directory component components name kind here spelled
    rw [nameIn_of_isAbsolute here.1]
    exact isPlainPath_child here (kind component List.mem_cons_self name spelled)
  case listed =>
    intro directory name here member
    rw [nameIn_of_isAbsolute here.1]
    exact isPlainPath_child here (plain directory name member)
  case dots => exact fun _ here member => dotted here member
  case lastDots => exact fun here _ member => dotted here member
  case reached => exact id

theorem notMem_toSlash (p : Path) : '\\' ∉ p.toSlash := by
  intro member
  obtain ⟨c, -, same⟩ := List.mem_map.1 member
  split at same
  case isTrue => exact nomatch same
  case isFalse other => exact other same

theorem files?_of_files (listed : m.files fs = .ok found) : files? fs ⟨m.place.toSlash⟩ = some found := by
  unfold files at listed
  split at listed
  case h_1 files here =>
    obtain rfl := Except.ok.inj listed
    exact here
  case h_2 => exact nomatch listed

/-- The files of an aggregate are written from the root, without a backslash. -/
theorem isPlainPath_of_mem_files (plain : fs.IsPlain) (absolute : m.importerDirectory.isAbsolute = true)
    (listed : m.files fs = .ok found) : ∀ f ∈ found, IsPlainPath f := by
  obtain ⟨body, rooted⟩ : ∃ body, m.place.toSlash = '/' :: body := by
    rw [place, normalize_eq_ofNames, isAbsolute_join _ absolute]
    exact ⟨_, rfl⟩
  refine (keeps_isPlainPath plain).mem_files? ⟨rfl, by decide⟩ (by rw [rooted]; rfl) ?_ (files?_of_files listed)
  intro components parsed component member name spelled
  have known : some component ∈ components.map some := List.mem_map_of_mem member
  rw [← parsed] at known
  obtain ⟨text, inside, parsed⟩ := List.mem_map.1 known
  obtain rfl := eq_of_literal? parsed spelled
  -- The pieces of the pattern have the characters of a text without backslashes.
  have characters : name ⊆ m.place.toSlash := by
    have pieces : (splitPattern ('/' :: body)).2 = if body.isEmpty then [] else Text.splitAt '/' body := rfl
    rw [rooted, pieces] at inside
    rw [rooted]
    split at inside
    · exact absurd inside List.not_mem_nil
    · exact List.subset_cons_of_subset '/' (Text.subset_of_mem_splitAt inside)
  exact fun marked => notMem_toSlash m.place (characters marked)

theorem files_of_render {source : Text} (rendered : m.render fs = .ok source) :
    ∃ found, m.files fs = .ok found ∧ m.renderFiles found = source := by
  unfold render at rendered
  cases listed : m.files fs with
  | error e =>
    rw [listed] at rendered
    exact nomatch rendered
  | ok found =>
    rw [listed] at rendered
    exact ⟨found, rfl, Except.ok.inj rendered⟩

/-- Without backslashes each file is imported or required by the path itself. -/
theorem aggregate_of_plain (plain : ∀ f ∈ found, '\\' ∉ f.text) :
    (m.kind = .module → m.aggregate found =
      ⟨.module, found.mapIdx fun i f => (binding i, f.text),
        found.mapIdx fun i f => (m.key f, .imported (binding i))⟩) ∧
    (m.kind = .commonJs → m.aggregate found =
      ⟨.commonJs, [], found.map fun f => (m.key f, .required f.text)⟩) := by
  have text : ∀ f ∈ found, f.toSlash = f.text := fun f member => toSlash_of_notMem (plain f member)
  constructor
  · intro kind
    have imports : (found.mapIdx fun i f => (binding i, f.toSlash)) =
        found.mapIdx fun i f => (binding i, f.text) :=
      List.mapIdx_eq_mapIdx_iff.2 fun i inside => by rw [text _ (List.getElem_mem inside)]
    rw [aggregate, kind, ← imports]
  · intro kind
    have members : (found.map fun f => (m.key f, Held.required f.toSlash)) =
        found.map fun f => (m.key f, Held.required f.text) :=
      List.map_congr_left fun f member => by rw [text f member]
    rw [aggregate, kind, ← members]

/-- The source of an aggregate is read as the aggregate of its files, each imported or required by its own path,
in their order. The key of a file leads to it from the importing directory, so files with one key have the same
components. If the pattern is read with the given names, seen from the root, and none of these but the last
matches the dots of a directory, then the key leads to the very file; and if two stars stand in one place at most,
each file is there once and the keys are distinct. -/
theorem render_entries (plain : fs.IsPlain) (absolute : m.importerDirectory.isAbsolute = true) {source : Text}
    (rendered : m.render fs = .ok source) :
    ∃ found aggregate, m.files fs = .ok found ∧ Aggregate.ofText? source = some aggregate ∧
      aggregate.entries = (found.map fun f => (m.key f, some f.text)) ∧
      (m.kind = .module → aggregate =
        ⟨.module, found.mapIdx fun i f => (binding i, f.text),
          found.mapIdx fun i f => (m.key f, .imported (binding i))⟩) ∧
      (m.kind = .commonJs → aggregate = ⟨.commonJs, [], found.map fun f => (m.key f, .required f.text)⟩) ∧
      (∀ f ∈ found, f.isAbsolute = true ∧ (m.importerDirectory.join ⟨m.key f⟩).normalize = f.normalize) ∧
      (∀ f ∈ found, ∀ g ∈ found, m.key f = m.key g → f.components = g.components) ∧
      ∀ names, m.place.toSlash = (ofNames true names).text → (∀ n ∈ names, IsName n) → fs.IsLayered →
        (∀ s ∈ names.dropLast, AvoidsDots s) →
          (∀ f ∈ found, (m.importerDirectory.join ⟨m.key f⟩).normalize = f) ∧
            (InOnePlace names → found.Nodup ∧ (found.map m.key).Nodup) := by
  obtain ⟨found, listed, rfl⟩ := files_of_render rendered
  have known := isPlainPath_of_mem_files plain absolute listed
  have leads : ∀ f ∈ found, (m.importerDirectory.join ⟨m.key f⟩).normalize = f.normalize := fun f member =>
    normalize_congr (components_join_key absolute (known f member).1 (known f member).2)
  have apart : ∀ f ∈ found, ∀ g ∈ found, m.key f = m.key g → f.components = g.components :=
    fun f member g memberToo =>
      components_of_key absolute (known f member).1 (known f member).2 (known g memberToo).1 (known g memberToo).2
  have written := aggregate_of_plain (m := m) fun f member => (known f member).2
  refine ⟨found, m.aggregate found, listed, ofText?_renderFiles m found, ?_, written.1, written.2,
    fun f member => ⟨(known f member).1, leads f member⟩, apart, ?_⟩
  · rw [entries_aggregate]
    exact List.map_congr_left fun f member => by rw [toSlash_of_notMem (known f member).2]
  · intro names slashed proper layered avoid
    have pattern : files? fs (ofNames true names) = some found := by
      rw [← files?_of_files listed, slashed]
    obtain ⟨files, same, -, isFile, named, counted⟩ :=
      count_files layered slashed (isSegment_of_files? proper pattern)
    obtain rfl := Except.ok.inj (listed.symm.trans same)
    have normal : ∀ f ∈ found, f.normalize = f := fun f member => normalize_of_isNamed (named avoid f member)
    refine ⟨fun f member => (leads f member).trans (normal f member), fun place => ?_⟩
    have once : found.Nodup :=
      nodup_of_isNamed (named avoid) fun f => count_le_one place (fun f member => (isFile f member).1) counted
    refine ⟨once, once.map_on fun f member g memberToo same => ?_⟩
    rw [← normal f member, ← normal g memberToo]
    exact normalize_congr (apart f member g memberToo same)

theorem routesTree_isPlain : routesTree.walking.IsPlain :=
  FileTree.walking_isPlain (by decide +kernel) (by decide +kernel)

theorem render_entries_routes :
    let m : VirtualModule := ⟨"./**/*.ts".toList, ⟨"/repo/src".toList⟩, .module⟩
    ∃ source found aggregate, m.render routesTree.walking = .ok source ∧ m.files routesTree.walking = .ok found ∧
      Aggregate.ofText? source = some aggregate ∧ (found.map m.key).Nodup ∧
      ("./a.ts".toList, some "/repo/src/a.ts".toList) ∈ aggregate.entries ∧
      ("./deep/b.ts".toList, some "/repo/src/deep/b.ts".toList) ∈ aggregate.entries := by
  intro m
  have slashed : m.place.toSlash = (ofNames true ["repo".toList, "src".toList, anyNames, "*.ts".toList]).text := by
    decide +kernel
  have good : ∀ s ∈ ["repo".toList, "src".toList, anyNames, "*.ts".toList], IsSegment s := by decide +kernel
  obtain ⟨files, listed, -, -, -, counted⟩ := count_files routesTree_isLayered slashed good
  have rendered : m.render routesTree.walking = .ok (m.renderFiles files) := by rw [render, listed]; rfl
  obtain ⟨found, aggregate, same, read, entries, -, -, -, -, distinct⟩ :=
    render_entries routesTree_isPlain (by decide +kernel) rendered
  obtain rfl := Except.ok.inj (listed.symm.trans same)
  have place : InOnePlace ["repo".toList, "src".toList, anyNames, "*.ts".toList] :=
    ⟨["repo".toList, "src".toList], [anyNames], ["*.ts".toList], rfl, by simp, by decide, by decide⟩
  have keys := ((distinct _ slashed (by decide +kernel) routesTree_isLayered (by decide +kernel)).2 place).2
  -- A file whose names fit the pattern is there.
  have listed_of_ways {names : List Text} (proper : ∀ n ∈ names, IsName n)
      (file : routesTree.walking.isFile (ofNames true names) = true)
      (some : 0 < ways ["repo".toList, "src".toList, anyNames, "*.ts".toList] names) :
      ofNames true names ∈ files := List.count_pos_iff.1 (counted names proper file ▸ some)
  have near := @listed_of_ways ["repo".toList, "src".toList, "a.ts".toList] (by decide +kernel) (by decide +kernel)
    (by decide +kernel)
  have deep := @listed_of_ways ["repo".toList, "src".toList, "deep".toList, "b.ts".toList] (by decide +kernel)
    (by decide +kernel) (by decide +kernel)
  refine ⟨_, files, aggregate, rendered, listed, read, keys, ?_, ?_⟩
  · rw [entries, List.mem_map]
    exact ⟨_, near, by decide +kernel⟩
  · rw [entries, List.mem_map]
    exact ⟨_, deep, by decide +kernel⟩

/-! ## Stars in two places -/

/-- A directory in a directory of its own name. -/
def nestedTree : FileTree := ⟨[(["r".toList, "a".toList, "a".toList, "f.ts".toList], .text [])], []⟩

theorem nestedTree_isLayered : nestedTree.walking.IsLayered :=
  FileTree.walking_isLayered (by decide +kernel) (by decide +kernel)

/-- With stars in two places, around the name of both directories, the file in the inner one is in the aggregate
twice, under one key. -/
theorem render_repeated :
    let m : VirtualModule := ⟨"./**/a/**/f.ts".toList, ⟨"/r".toList⟩, .module⟩
    nestedTree.walking.IsPlain ∧ m.importerDirectory.isAbsolute = true ∧
      ∃ found, m.files nestedTree.walking = .ok found ∧ m.render nestedTree.walking = .ok (m.renderFiles found) ∧
        found.count ⟨"/r/a/a/f.ts".toList⟩ = 2 ∧ ¬(found.map m.key).Nodup := by
  intro m
  have slashed : m.place.toSlash =
      (ofNames true ["r".toList, anyNames, "a".toList, anyNames, "f.ts".toList]).text := by decide +kernel
  obtain ⟨found, listed, -, -, -, counted⟩ := count_files nestedTree_isLayered slashed (by decide +kernel)
  have twice : found.count ⟨"/r/a/a/f.ts".toList⟩ = 2 :=
    (counted ["r".toList, "a".toList, "a".toList, "f.ts".toList] (by decide +kernel) (by decide +kernel)).trans
      (by decide +kernel)
  refine ⟨FileTree.walking_isPlain (by decide +kernel) (by decide +kernel), by decide +kernel, found, listed,
    by rw [render, listed]; rfl, twice, fun distinct => ?_⟩
  have once := List.nodup_iff_count_le_one.1 distinct.of_map ⟨"/r/a/a/f.ts".toList⟩
  omega

end VirtualModule
end ModuleHooks
