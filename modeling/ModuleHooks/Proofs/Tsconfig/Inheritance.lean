import ModuleHooks.FileSystem.Tree
import ModuleHooks.Proofs.Path.Normal
import ModuleHooks.Proofs.Tsconfig.Loading

/-!
What a configuration takes from those it extends. The configurations that come in are in one order: the
configuration itself, then what comes in through its last base, and so on down to its first. Each field
of what is loaded is that of the first of them that declares it, with paths seen from the directory of
the one that does (`load_inherits`). Merging two by two comes to the same because the first of two lists
is asked before the second.
-/
namespace ModuleHooks.Tsconfig

/-- A configuration as its own file declares it. -/
structure Declared where
  path : Path
  config : Tsconfig

namespace Declared

/-- The directory that its paths are seen from. -/
def directory (d : Declared) : Path := LoadedTsconfig.directoryOf d.path

/-- Its compiler options, none declared if it has none. -/
def options (d : Declared) : CompilerOptions := d.config.compilerOptions.getD {}

end Declared

/-- The configurations that come in through the bases of the configuration at a path: what comes in
through a later base stands before what comes in through an earlier one, and a configuration before those
it extends itself. -/
inductive Ancestry (fs : FileSystem) : Path → List Text → List Declared → Prop
  | nil (path : Path) : Ancestry fs path [] []
  | cons {path found : Path} {base : Text} {bases : List Text} {config : Tsconfig}
      {inner others : List Declared} (located : findBase? fs path base = some found)
      (declared : own fs found = .ok config) (extended : Ancestry fs found config.bases inner)
      (rest : Ancestry fs path bases others) :
      Ancestry fs path (base :: bases) (others ++ ⟨found, config⟩ :: inner)

/-- The configuration at a path, and behind it all that come in through its bases. -/
def IsLineage (fs : FileSystem) (path : Path) (lineage : List Declared) : Prop :=
  ∃ config above, own fs path = .ok config ∧ Ancestry fs path config.bases above ∧
    lineage = ⟨path, config⟩ :: above

/-- The options of a lineage: each is that of the first configuration that declares it. The paths come
with the directory of the very configuration that declares them. -/
def inheritedOptions (lineage : List Declared) : CompilerOptions where
  baseUrl := lineage.findSome? fun d => d.options.baseUrl.map (anchor d.directory)
  paths := (lineage.find? (·.options.paths.isSome)).bind (·.options.paths)
  target := lineage.findSome? (·.options.target)
  jsx := lineage.findSome? (·.options.jsx)
  jsxFactory := lineage.findSome? (·.options.jsxFactory)
  jsxFragmentFactory := lineage.findSome? (·.options.jsxFragmentFactory)
  jsxImportSource := lineage.findSome? (·.options.jsxImportSource)
  experimentalDecorators := lineage.findSome? (·.options.experimentalDecorators)
  useDefineForClassFields := lineage.findSome? (·.options.useDefineForClassFields)
  verbatimModuleSyntax := lineage.findSome? (·.options.verbatimModuleSyntax)
  preserveValueImports := lineage.findSome? (·.options.preserveValueImports)
  esModuleInterop := lineage.findSome? (·.options.esModuleInterop)
  sourceMap := lineage.findSome? (·.options.sourceMap)
  pathsBase := (lineage.find? (·.options.paths.isSome)).map (·.directory)

/-- The configuration of a lineage: each list is that of the first configuration that declares it, and
there are options if some configuration has any. -/
def inherited (lineage : List Declared) : Tsconfig where
  parents := none
  compilerOptions :=
    if lineage.any (·.config.compilerOptions.isSome) then some (inheritedOptions lineage) else none
  files := lineage.findSome? fun d => d.config.files.map (·.map (anchor d.directory))
  included := lineage.findSome? fun d => d.config.included.map (·.map (anchor d.directory))
  excluded := lineage.findSome? fun d => d.config.excluded.map (·.map (anchor d.directory))

/-! ## One lineage behind another -/

section

variable {lineage before : List Declared}

theorem inheritedOptions_append (lineage before : List Declared) :
    inheritedOptions (lineage ++ before) =
      (inheritedOptions before).merge (inheritedOptions lineage) := by
  unfold inheritedOptions CompilerOptions.merge
  simp only [List.findSome?_append, List.find?_append]
  cases chosen : lineage.find? (·.options.paths.isSome) with
  | none => simp
  | some d =>
    have declares : d.options.paths.isSome = true :=
      List.find?_some (p := fun d : Declared => d.options.paths.isSome) chosen
    obtain ⟨paths, declared⟩ := Option.isSome_iff_exists.1 declares
    simp [declared]

/-- Where no configuration has options, none are declared. -/
theorem inheritedOptions_of_silent (silent : lineage.any (·.config.compilerOptions.isSome) = false) :
    inheritedOptions lineage = {} := by
  have nothing : ∀ d ∈ lineage, d.options = {} := by
    intro d member
    have none : d.config.compilerOptions = none := by simpa using List.any_eq_false.1 silent d member
    rw [Declared.options, none, Option.getD_none]
  have unlisted : lineage.find? (·.options.paths.isSome) = none :=
    List.find?_eq_none.2 fun d member => by simp [nothing d member]
  have undeclared {α : Type} (field : Declared → Option α) (empty : ∀ d, d.options = {} → field d = none) :
      lineage.findSome? field = none :=
    List.findSome?_eq_none_iff.2 fun d member => empty d (nothing d member)
  unfold inheritedOptions
  rw [unlisted]
  congr 1 <;> exact undeclared _ fun d empty => by simp [empty]

/-- Options on top of none. -/
theorem merge_inheritedOptions (lineage : List Declared) :
    CompilerOptions.merge {} (inheritedOptions lineage) = inheritedOptions lineage := by
  have silent : inheritedOptions [] = {} := rfl
  rw [← silent, ← inheritedOptions_append, List.append_nil]

/-- A lineage on top of another one is the two of them in a row. -/
theorem merge_inherited (lineage before : List Declared) :
    (inherited before).merge (inherited lineage) = inherited (lineage ++ before) := by
  unfold inherited Tsconfig.merge
  simp only [List.findSome?_append, List.any_append, Tsconfig.mk.injEq, true_and, and_true]
  rw [inheritedOptions_append]
  cases first : lineage.any (·.config.compilerOptions.isSome) <;>
    cases second : before.any (·.config.compilerOptions.isSome)
  · rfl
  · rw [inheritedOptions_of_silent first]
    rfl
  · rw [inheritedOptions_of_silent second]
    exact congrArg some (merge_inheritedOptions lineage).symm
  · rfl

/-- What a lineage comes to, if there is anything in it. -/
def joined? (lineage : List Declared) : Option Tsconfig :=
  if lineage.isEmpty then none else some (inherited lineage)

theorem onTop_joined? (lineage before : List Declared) :
    onTop (joined? before) (inherited lineage) = inherited (lineage ++ before) := by
  cases before with
  | nil => rw [List.append_nil]; rfl
  | cons d rest => exact merge_inherited lineage (d :: rest)

end

/-! ## A configuration by itself -/

/-- The base of the paths is not read from the file. -/
theorem options?_pathsBase {d : JsonDocument} {o : CompilerOptions} (read : options? d = some o) :
    o.pathsBase = none := by
  unfold options? at read
  obtain ⟨fields, -, read⟩ := Option.bind_eq_some_iff.1 read
  split at read
  · iterate 13 obtain ⟨_, -, read⟩ := Option.bind_eq_some_iff.1 read
    cases read
    rfl
  · exact nomatch read

theorem ofDocument?_pathsBase {d : JsonDocument} {config : Tsconfig} (read : ofDocument? d = some config) :
    (config.compilerOptions.getD {}).pathsBase = none := by
  unfold ofDocument? at read
  obtain ⟨fields, -, read⟩ := Option.bind_eq_some_iff.1 read
  split at read
  case h_2 => exact nomatch read
  case h_1 parents options files included excluded =>
    obtain ⟨_, -, read⟩ := Option.bind_eq_some_iff.1 read
    obtain ⟨found, known, read⟩ := Option.bind_eq_some_iff.1 read
    iterate 3 obtain ⟨_, -, read⟩ := Option.bind_eq_some_iff.1 read
    cases read
    cases found with
    | none => rfl
    | some o =>
      unfold optional at known
      split at known
      · exact nomatch known
      · exact nomatch known
      · obtain ⟨o', inside, same⟩ := Option.map_eq_some_iff.1 known
        obtain rfl : o' = o := Option.some.inj same
        exact options?_pathsBase inside

theorem own_pathsBase {fs : FileSystem} {path : Path} {config : Tsconfig}
    (declared : own fs path = .ok config) : (config.compilerOptions.getD {}).pathsBase = none := by
  cases read : fs.readText path with
  | error failure => simp [own, read] at declared
  | ok source =>
    simp only [own, read, parse] at declared
    cases document : (JsonDocument.ofText? (Relaxed.toPlain source)).bind ofDocument? with
    | none => simp [document] at declared
    | some parsed =>
      simp only [document] at declared
      cases declared
      obtain ⟨d, -, known⟩ := Option.bind_eq_some_iff.1 document
      exact ofDocument?_pathsBase known

theorem inheritedOptions_singleton {d : Declared} (unset : d.options.pathsBase = none) :
    inheritedOptions [d] = anchorOptions d.directory d.options := by
  unfold inheritedOptions anchorOptions
  simp only [List.findSome?_singleton, List.find?_singleton, unset]
  cases declared : d.options.paths <;> simp [declared]

/-- What a configuration adds is its lineage without bases. -/
theorem addition_eq {fs : FileSystem} {path : Path} {config : Tsconfig}
    (declared : own fs path = .ok config) : addition path config = inherited [⟨path, config⟩] := by
  have alone := inheritedOptions_singleton (d := ⟨path, config⟩) (own_pathsBase declared)
  unfold inherited
  rw [alone]
  simp only [List.findSome?_singleton]
  cases has : config.compilerOptions <;> simp [addition, anchorAll, Declared.options, Declared.directory, has]

/-! ## What is loaded has a lineage -/

section

variable {fs : FileSystem} {begun : List Path} {path : Path}

/-- Bases that come to what their lineages do come together to their ancestry. -/
theorem ancestry_of_joinBases {load : Path → Option (Except HookError Tsconfig)}
    (each : ∀ found c, load found = some (.ok c) → ∃ lineage, IsLineage fs found lineage ∧ c = inherited lineage)
    {bases : List Text} (before : List Declared) {merged : Option Tsconfig}
    (joined : joinBases fs begun path load bases (joined? before) = some (.ok merged)) :
    ∃ above, Ancestry fs path bases above ∧ merged = joined? (above ++ before) := by
  induction bases generalizing before with
  | nil =>
    cases joined
    exact ⟨[], .nil path, rfl⟩
  | cons base bases ih =>
    unfold joinBases at joined
    cases located : findBase? fs path base with
    | none => simp [located] at joined
    | some found =>
      simp only [located] at joined
      split at joined
      · cases joined
      split at joined
      case h_2 => cases joined
      case h_3 => exact nomatch joined
      case h_1 c loaded =>
        obtain ⟨-, ⟨config, inner, declared, extended, rfl⟩, rfl⟩ := each found c loaded
        rw [onTop_joined?] at joined
        obtain ⟨others, rest, rfl⟩ := ih (⟨found, config⟩ :: inner ++ before) joined
        refine ⟨_, .cons located declared extended rest, ?_⟩
        rw [List.append_assoc]

theorem lineage_of_loadWithin {n : Nat} {c : Tsconfig}
    (loaded : loadWithin fs n begun path = some (.ok c)) :
    ∃ lineage, IsLineage fs path lineage ∧ c = inherited lineage := by
  induction n generalizing begun path c with
  | zero => exact nomatch loaded
  | succ n ih =>
    unfold loadWithin at loaded
    split at loaded
    case h_1 => cases loaded
    case h_2 config declared =>
      obtain ⟨r, joined, whole⟩ := Option.map_eq_some_iff.1 loaded
      cases r with
      | error e => cases whole
      | ok merged =>
        obtain ⟨above, ancestry, rfl⟩ :=
          ancestry_of_joinBases (fun found c => ih) [] joined
        refine ⟨⟨path, config⟩ :: above, ⟨config, above, declared, ancestry, rfl⟩, ?_⟩
        have whole : onTop (joined? (above ++ [])) (addition path config) = c := Except.ok.inj whole
        rw [← whole, List.append_nil, addition_eq declared, onTop_joined?]
        rfl

/-- The bases of a configuration have one ancestry. -/
theorem Ancestry.unique {bases : List Text} {above other : List Declared}
    (ancestry : Ancestry fs path bases above) (otherwise : Ancestry fs path bases other) :
    other = above := by
  induction ancestry generalizing other with
  | nil path => cases otherwise; rfl
  | cons located declared extended rest ihExtended ihRest =>
    cases otherwise with
    | cons locatedToo declaredToo extendedToo restToo =>
      obtain rfl := Option.some.inj (locatedToo.symm.trans located)
      obtain rfl := Except.ok.inj (declaredToo.symm.trans declared)
      rw [ihExtended extendedToo, ihRest restToo]

theorem IsLineage.unique {lineage other : List Declared} (first : IsLineage fs path lineage)
    (second : IsLineage fs path other) : other = lineage := by
  obtain ⟨config, above, declared, ancestry, rfl⟩ := first
  obtain ⟨configToo, aboveToo, declaredToo, ancestryToo, rfl⟩ := second
  obtain rfl := Except.ok.inj (declaredToo.symm.trans declared)
  rw [ancestry.unique ancestryToo]

/-! ## Where its paths are seen from -/

theorem isAbsolute_directoryOf (absolute : path.isAbsolute = true) :
    (LoadedTsconfig.directoryOf path).isAbsolute = true := by
  unfold LoadedTsconfig.directoryOf
  cases found : path.parent? with
  | none => rfl
  | some directory => exact Path.isAbsolute_parent? found absolute

theorem isAbsolute_of_mem_spellings {p q : Path} (member : q ∈ spellings p)
    (absolute : p.isAbsolute = true) : q.isAbsolute = true := by
  obtain rfl | rfl | rfl : q = p ∨ q = ⟨p.text ++ ".json".toList⟩ ∨ q = p.child fileName := by
    simpa [spellings] using member
  · exact absolute
  · obtain ⟨s⟩ := p
    cases s with
    | nil => exact nomatch absolute
    | cons c r => exact absolute
  · exact Path.isAbsolute_join _ absolute

/-- What an absolute configuration extends is absolute. -/
theorem isAbsolute_of_findBase? {found : Path} {base : Text}
    (located : findBase? fs path base = some found) (absolute : path.isAbsolute = true) :
    found.isAbsolute = true := by
  have directory := isAbsolute_directoryOf absolute
  have candidate : found ∈ baseCandidates path base := List.mem_of_find?_eq_some located
  unfold baseCandidates at candidate
  dsimp only at candidate
  split at candidate
  · refine isAbsolute_of_mem_spellings candidate ?_
    rw [Path.isAbsolute_normalize]
    exact Path.isAbsolute_join _ directory
  · obtain ⟨above, member, spelled⟩ := List.mem_flatMap.1 candidate
    have inside := Path.isAbsolute_of_mem_ancestors member directory
    exact isAbsolute_of_mem_spellings spelled
      (Path.isAbsolute_join _ (Path.isAbsolute_join _ inside))

theorem Ancestry.isAbsolute {bases : List Text} {above : List Declared}
    (ancestry : Ancestry fs path bases above) (absolute : path.isAbsolute = true) :
    ∀ d ∈ above, d.path.isAbsolute = true := by
  induction ancestry with
  | nil path => simp
  | cons located declared extended rest ihExtended ihRest =>
    have found := isAbsolute_of_findBase? located absolute
    intro d member
    obtain member | rfl | member : d ∈ _ ∨ d = _ ∨ d ∈ _ := by simpa using member
    · exact ihRest absolute d member
    · exact found
    · exact ihExtended found d member

theorem IsLineage.isAbsolute {lineage : List Declared} (known : IsLineage fs path lineage)
    (absolute : path.isAbsolute = true) : ∀ d ∈ lineage, d.path.isAbsolute = true := by
  obtain ⟨config, above, -, ancestry, rfl⟩ := known
  exact List.forall_mem_cons.2 ⟨absolute, ancestry.isAbsolute absolute⟩

end

/-- The options of a configuration are those of its lineage, whether or not some configuration has
any. -/
theorem compilerOptions_inherited (path : Path) (lineage : List Declared) :
    LoadedTsconfig.compilerOptions ⟨path, inherited lineage⟩ = inheritedOptions lineage := by
  unfold LoadedTsconfig.compilerOptions inherited
  cases has : lineage.any (·.config.compilerOptions.isSome) with
  | true => rfl
  | false => exact (inheritedOptions_of_silent has).symm

/-- What is loaded is what the one lineage of the configuration declares: each list and each option is
that of the first configuration in it that declares it, and the paths are seen from the directory of the
configuration that declares them, if any does. The places that a configuration names are normal and seen
from its directory, and they are absolute when the path is that the configuration is loaded from. -/
theorem load_inherits {fs : FileSystem} {path : Path} {loaded : LoadedTsconfig} {σ : Type} {s : σ}
    (ok : ((load fs path).outcome s).1 = .ok loaded) :
    ∃ lineage, IsLineage fs path lineage ∧ (∀ other, IsLineage fs path other → other = lineage) ∧
      loaded = ⟨path, inherited lineage⟩ ∧ loaded.compilerOptions = inheritedOptions lineage ∧
      (loaded.compilerOptions.pathsBase = none ↔ ∀ d ∈ lineage, d.options.paths = none) ∧
      ∀ d ∈ lineage, ∀ entry, ∃ place : Path, place = (d.directory.join ⟨entry⟩).normalize ∧
        anchor d.directory entry = place.toSlash ∧ place.normalize = place ∧
        (path.isAbsolute = true → place.isAbsolute = true) := by
  obtain ⟨r, within, comes⟩ := comesTo_load fs path
  rw [(comes.outcome s).1] at ok
  cases r with
  | error e => cases ok
  | ok config =>
    obtain ⟨lineage, known, rfl⟩ := lineage_of_loadWithin within
    cases ok
    refine ⟨lineage, known, fun other => known.unique, rfl, compilerOptions_inherited path lineage, ?_, ?_⟩
    · rw [compilerOptions_inherited]
      simp [inheritedOptions]
    · intro d member entry
      refine ⟨_, rfl, rfl, Path.normalize_normalize _, fun absolute => ?_⟩
      rw [Path.isAbsolute_normalize]
      exact Path.isAbsolute_join _ (isAbsolute_directoryOf (known.isAbsolute absolute d member))

/-- A configuration of an application on top of one that the repository shares. -/
def sharedTree : FileTree :=
  ⟨[(["p".toList, "app".toList, "tsconfig.json".toList],
      .text "\x7b\"extends\":\"../base\",\"compilerOptions\":\x7b\"jsx\":\"preserve\"\x7d\x7d".toList),
    (["p".toList, "base.json".toList],
      .text ("\x7b\"compilerOptions\":\x7b\"baseUrl\":\"./src\",\"paths\":\x7b\"@/*\":[\"*\"]\x7d,".toList
        ++ "\"jsx\":\"react\"\x7d\x7d".toList))], []⟩

theorem load_inherits_shared :
    let path : Path := ⟨"/p/app/tsconfig.json".toList⟩
    ∃ loaded, ((load sharedTree.lexical path).outcome ()).1 = .ok loaded ∧
      loaded.compilerOptions.jsx = some "preserve".toList ∧
      loaded.compilerOptions.baseUrl = some "/p/src".toList ∧
      loaded.compilerOptions.pathsBase = some ⟨"/p".toList⟩ ∧
      ∃ lineage, IsLineage sharedTree.lexical path lineage ∧ loaded = ⟨path, inherited lineage⟩ := by
  intro path
  obtain ⟨c, loaded, options⟩ := exists_load sharedTree.lexical path
    (fun c =>
      let o := LoadedTsconfig.compilerOptions ⟨path, c⟩
      (o.jsx, o.baseUrl, o.pathsBase))
    (a := (some "preserve".toList, some "/p/src".toList, some ⟨"/p".toList⟩)) (by decide +kernel) ()
  obtain ⟨jsx, baseUrl, pathsBase⟩ := by simpa only [Prod.mk.injEq] using options
  obtain ⟨lineage, known, -, whole, -⟩ := load_inherits loaded
  exact ⟨_, loaded, jsx, baseUrl, pathsBase, lineage, known, whole⟩

/-- Places are not absolute when the path of the configuration is not. -/
theorem load_relative :
    let tree : FileTree := ⟨[(["t.json".toList], .text "\x7b\"files\":[\"a.ts\"]\x7d".toList)], []⟩
    ∃ loaded, ((load tree.lexical ⟨"t.json".toList⟩).outcome ()).1 = .ok loaded ∧
      loaded.config.files = some ["a.ts".toList] ∧ Path.isAbsolute ⟨"a.ts".toList⟩ = false := by
  intro tree
  obtain ⟨c, loaded, files⟩ := exists_load tree.lexical ⟨"t.json".toList⟩ (·.files)
    (a := some ["a.ts".toList]) (by decide +kernel) ()
  exact ⟨_, loaded, files, by decide⟩

end ModuleHooks.Tsconfig
