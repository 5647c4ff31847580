import ModuleHooks.Engine.Hooked
import ModuleHooks.Tsconfig.Reader

/-!
Loading a configuration together with all that it extends. Loading ends because a file system holds
finitely many files and a configuration that is being loaded is not loaded again below itself: that
is a cycle, and fails.
-/
namespace ModuleHooks.Tsconfig

/-- A path of the configuration, absolute, normal and with forward slashes. -/
def anchor (directory : Path) (p : Text) : Text := (directory.join ⟨p⟩).normalize.toSlash

/-- The options with their paths seen from the directory of their configuration. -/
def anchorOptions (directory : Path) (o : CompilerOptions) : CompilerOptions :=
  { o with
    baseUrl := o.baseUrl.map (anchor directory)
    pathsBase := if o.paths.isSome then some directory else o.pathsBase }

/-- The configuration with its paths seen from its directory. -/
def anchorAll (directory : Path) (c : Tsconfig) : Tsconfig :=
  { c with
    compilerOptions := c.compilerOptions.map (anchorOptions directory)
    files := c.files.map (·.map (anchor directory))
    included := c.included.map (·.map (anchor directory))
    excluded := c.excluded.map (·.map (anchor directory)) }

def fileName : Text := "tsconfig.json".toList

/-- The paths that an extended path may mean: itself, itself with `.json`, or the configuration in
the directory. -/
def spellings (p : Path) : List Path := [p, ⟨p.text ++ ".json".toList⟩, p.child fileName]

/-- Whether an extended name is a path rather than the name of a package. -/
def isPathBase (base : Text) : Bool :=
  base.startsWith "./".toList || base.startsWith "../".toList || (Path.mk base).isAbsolute

/-- The paths at which a base is looked for, in order: next to the configuration, or among the
dependencies installed in its directory and above. -/
def baseCandidates (current : Path) (base : Text) : List Path :=
  let directory := LoadedTsconfig.directoryOf current
  if isPathBase base then spellings (directory.join ⟨base⟩).normalize
  else
    directory.ancestors.flatMap fun d => spellings ((d.child Path.dependencyDirectory).child base)

def findBase? (fs : FileSystem) (current : Path) (base : Text) : Option Path :=
  (baseCandidates current base).find? fs.isFile

/-- How many files have not been begun. -/
def remaining (fs : FileSystem) (begun : List Path) : Nat :=
  (fs.files.filter fun p => !begun.contains p).length

theorem remaining_cons_lt (fs : FileSystem) (begun : List Path) (p : Path) (hmem : p ∈ fs.files)
    (hnew : p ∉ begun) : remaining fs (p :: begun) < remaining fs begun := by
  unfold remaining
  rw [show (fs.files.filter fun q => !(p :: begun).contains q)
      = (fs.files.filter fun q => !begun.contains q).filter (· ≠ p) by
    rw [List.filter_filter]
    refine List.filter_congr fun q _ => ?_
    by_cases h : q = p <;> simp [h, hnew]]
  refine List.length_filter_lt_length_iff_exists.2 ⟨p, List.mem_filter.2 ⟨hmem, ?_⟩, by simp⟩
  simpa using hnew

variable {σ : Type}

mutual

/-- The configuration at a path with all that it extends; `begun` holds the normal paths of the
configurations that are being loaded, this one included. -/
def loadBegun (fs : FileSystem) (begun : List Path) (path : Path) : Hooked σ Tsconfig := do
  match ← Hooked.readText fs path with
  | .error failure => throw (.unreadable path (.failed failure))
  | .ok source =>
    let config ← liftExcept (parse path source)
    let config := anchorAll (LoadedTsconfig.directoryOf path) config
    let bases := (config.parents.map Extends.bases).getD []
    let config := { config with parents := none }
    match ← loadBases fs begun path bases none with
    | none => return config
    | some base => return base.merge config
termination_by (remaining fs begun, 1, 0)

/-- What the bases of a configuration come to together: a later one goes before an earlier one. -/
def loadBases (fs : FileSystem) (begun : List Path) (path : Path) :
    List Text → Option Tsconfig → Hooked σ (Option Tsconfig)
  | [], merged => return merged
  | base :: bases, merged =>
    match _hbase : findBase? fs path base with
    | none => throw (.config path (.missingBase base))
    | some found =>
      if _hnew : found.normalize ∈ begun then throw (.config found .cycle)
      else do
        let config ← loadBegun fs (found.normalize :: begun) found
        loadBases fs begun path bases (some ((merged.map (·.merge config)).getD config))
termination_by bases => (remaining fs begun, 0, bases.length)
decreasing_by
  · refine Prod.Lex.left _ _ (remaining_cons_lt fs begun _ (fs.normalize_mem found ?_) _hnew)
    exact List.find?_some _hbase
  · exact Prod.Lex.right _ (Prod.Lex.right _ (Nat.lt_succ_self _))

end

/-- Loads the configuration at a path. -/
def load (fs : FileSystem) (path : Path) : Hooked σ LoadedTsconfig := do
  return ⟨path, ← loadBegun fs [path.normalize] path⟩

end ModuleHooks.Tsconfig
