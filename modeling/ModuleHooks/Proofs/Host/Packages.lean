import ModuleHooks.Host.FileHost
import ModuleHooks.Proofs.Computation
import ModuleHooks.Proofs.Pieces
import ModuleHooks.Proofs.Resolution.PathSpecifier

/-!
How the host over files looks packages up. The nearest installation going up decides, and with it one
manifest; the answer is a matter of that manifest and of what the specifier says behind the name of the
package. Whatever the host does not find it reports by the specifier that it was asked for, or by the
subpath in it.
-/
namespace ModuleHooks.FileHost

open Hooked Specifier

/-! ## Installations -/

/-- The nearest installation of a package, in directories going up. -/
def installation? (fs : FileSystem) (name : Text) (directories : List Path) : Option Path :=
  ((directories.filter fun d => decide (d.fileName? ≠ some Path.dependencyDirectory)).map
    fun d => (d.child Path.dependencyDirectory).child name).find? fs.isDirectory

theorem installation?_cons (fs : FileSystem) (name : Text) (directory : Path) (above : List Path) :
    installation? fs name (directory :: above) =
      if directory.fileName? = some Path.dependencyDirectory ∨
          ¬fs.isDirectory ((directory.child Path.dependencyDirectory).child name) then
        installation? fs name above
      else some ((directory.child Path.dependencyDirectory).child name) := by
  unfold installation?
  by_cases boundary : directory.fileName? = some Path.dependencyDirectory
  · simp [boundary]
  · by_cases there : fs.isDirectory ((directory.child Path.dependencyDirectory).child name) = true
    · simp [boundary, there]
    · simp [boundary, there]

section

variable {fs : FileSystem} {workingDirectory : Path} {specifier : Text} {ctx : ResolveContext}

/-- A package is answered from its nearest installation alone. -/
theorem package_result (directories : List Path) (t : Traced Unit) :
    ((package fs specifier ctx directories).runFrom t).1 =
      match installation? fs (splitPackage specifier).1 directories with
      | none => .error (.moduleNotFound specifier ctx.importer)
      | some installed =>
        (Manifest.read fs (Manifest.pathIn installed)).bind fun found =>
          inPackage fs specifier installed (splitPackage specifier).2 (found.getD {}) ctx := by
  induction directories generalizing t with
  | nil => rfl
  | cons directory above ih =>
    rw [installation?_cons]
    unfold package
    dsimp only
    split
    case isTrue => exact ih t
    case isFalse =>
      dsimp only
      rw [runFrom_bind]
      unfold readManifest
      rw [runFrom_bind_ok _ (runFrom_note _ t), runFrom_liftExcept]
      cases Manifest.read fs _ with
      | error e => rfl
      | ok found => exact congrArg Prod.fst (runFrom_liftExcept _ _)

/-! ## What is looked up as a package -/

/-- The specifier is neither provided nor a path, an address or a private name. -/
structure NamesPackage (specifier : Text) : Prop where
  named : specifier ≠ []
  unprovided : builtinName? specifier = none
  unfiled : specifier.startsWith fileScheme = false
  shared : specifier.head? ≠ some '#'
  unrelative : isRelative specifier = false
  unrooted : isAbsolute specifier = false
  unaddressed : specifier.contains ':' = false

/-- What names a package with something behind a slash names one without it, unless that is provided. -/
theorem NamesPackage.of_append {t : Text} (names : NamesPackage (specifier ++ '/' :: t))
    (named : specifier ≠ []) (unprovided : builtinName? specifier = none) : NamesPackage specifier := by
  obtain ⟨c, r, rfl⟩ := List.exists_cons_of_ne_nil named
  refine ⟨named, unprovided, ?_, by simpa using names.shared, ?_, by simpa [isAbsolute] using names.unrooted, ?_⟩
  · cases filed : Text.startsWith (c :: r) fileScheme with
    | false => rfl
    | true =>
      have start : fileScheme <+: c :: r := List.isPrefixOf_iff_prefix.1 filed
      have further := List.isPrefixOf_iff_prefix.2 (start.trans (List.prefix_append (c :: r) ('/' :: t)))
      exact nomatch further.symm.trans names.unfiled
  · cases relative : isRelative (c :: r) with
    | false => rfl
    | true =>
      have further : isRelative (c :: r ++ '/' :: t) = true := by
        unfold isRelative at relative
        split at relative
        case h_1 same => rw [same]; rfl
        case h_2 same => rw [same]; rfl
        case h_3 same => rw [same]; rfl
        case h_4 same => rw [same]; rfl
        case h_5 => exact nomatch relative
      exact nomatch further.symm.trans names.unrelative
  · have unmarked : ':' ∉ (c :: r) ++ '/' :: t := by simpa using names.unaddressed
    have shorter : ':' ∉ c :: r := fun member => unmarked (List.mem_append_left _ member)
    simpa using shorter

/-- What stands behind a subpath belongs to it. -/
theorem splitPackage_append {name sub : Text} (split : splitPackage specifier = (name, some sub))
    (t : Text) : splitPackage (specifier ++ t) = (name, some (sub ++ t)) := by
  unfold splitPackage at split ⊢
  cases cut : Text.cutAt? '/' specifier with
  | none =>
    rw [cut] at split
    exact nomatch congrArg Prod.snd split
  | some pieces =>
    obtain ⟨first, rest⟩ := pieces
    obtain ⟨rfl, unmarked⟩ := Text.cutAt?_eq_some cut
    have head : (first ++ '/' :: rest ++ t).head? = (first ++ '/' :: rest).head? := by
      cases first <;> rfl
    rw [cut] at split
    rw [head, List.append_assoc, List.cons_append, Text.cutAt?_append_mark unmarked]
    dsimp only at split ⊢
    by_cases inScope : (first ++ '/' :: rest).head? = some '@'
    · rw [if_pos inScope] at split ⊢
      cases cutRest : Text.cutAt? '/' rest with
      | none =>
        rw [cutRest] at split
        exact nomatch congrArg Prod.snd split
      | some pieces =>
        obtain ⟨second, behind⟩ := pieces
        obtain ⟨rfl, unmarkedToo⟩ := Text.cutAt?_eq_some cutRest
        rw [cutRest] at split
        cases split
        rw [List.append_assoc, List.cons_append, Text.cutAt?_append_mark unmarkedToo]
    · rw [if_neg inScope] at split ⊢
      cases split
      rfl

/-- What the host answers for a package: by the manifest of the nearest installation. -/
theorem resolve_package (names : NamesPackage specifier) (fs : FileSystem) (workingDirectory : Path)
    (ctx : ResolveContext) :
    ((host fs workingDirectory).resolve specifier ctx).result =
      match installation? fs (splitPackage specifier).1 (baseDirectory workingDirectory ctx).ancestors with
      | none => .error (.moduleNotFound specifier ctx.importer)
      | some installed =>
        (Manifest.read fs (Manifest.pathIn installed)).bind fun found =>
          inPackage fs specifier installed (splitPackage specifier).2 (found.getD {}) ctx := by
  rw [← package_result _ ⟨(), []⟩]
  show ((resolveSpecifier fs workingDirectory specifier ctx).runFrom ⟨(), []⟩).1 = _
  have named : specifier.isEmpty = false := by simpa using names.named
  unfold resolveSpecifier
  dsimp only
  rw [named, names.unprovided, names.unfiled, if_neg names.shared, names.unrelative, names.unrooted,
    names.unaddressed]
  rfl

/-- A package is not installed, or its manifest cannot be read, or the manifest decides. -/
theorem resolve_package_cases (names : NamesPackage specifier) (fs : FileSystem) (workingDirectory : Path)
    (ctx : ResolveContext) :
    ((host fs workingDirectory).resolve specifier ctx).result =
        .error (.moduleNotFound specifier ctx.importer) ∨
      ∃ installed, installation? fs (splitPackage specifier).1
          (baseDirectory workingDirectory ctx).ancestors = some installed ∧
        ((∃ e, Manifest.read fs (Manifest.pathIn installed) = .error e ∧
            ((host fs workingDirectory).resolve specifier ctx).result = .error e) ∨
          ∃ found, Manifest.read fs (Manifest.pathIn installed) = .ok found ∧
            ((host fs workingDirectory).resolve specifier ctx).result =
              inPackage fs specifier installed (splitPackage specifier).2 (found.getD {}) ctx) := by
  rw [resolve_package names]
  cases installation? fs (splitPackage specifier).1 (baseDirectory workingDirectory ctx).ancestors with
  | none => exact .inl rfl
  | some installed =>
    refine .inr ⟨installed, rfl, ?_⟩
    dsimp only
    cases Manifest.read fs (Manifest.pathIn installed) with
    | error e => exact .inl ⟨e, rfl, rfl⟩
    | ok found => exact .inr ⟨found, rfl, rfl⟩

/-- The subpath that a specifier asks its package for; a dot asks for the package itself. -/
def askedSubpath (specifier : Text) : Text :=
  ((splitPackage specifier).2.map fun sub => '.' :: '/' :: sub).getD ['.']

/-- A package with exports answers with what they have for the subpath, and hides the rest. -/
theorem inPackage_exports {manifest : Manifest} {exports : Json} (declared : manifest.exports = some exports)
    (directory : Path) :
    inPackage fs specifier directory (splitPackage specifier).2 manifest ctx =
      match Package.exported? exports ctx.conditions (askedSubpath specifier) with
      | none => .error (.exportNotDefined (askedSubpath specifier) (Manifest.pathIn directory))
      | some target =>
        if fs.isFile (directory.child target).normalize then
          .ok (fileModule (directory.child target).normalize)
        else .error (.moduleNotFound specifier ctx.importer) := by
  unfold inPackage
  rw [declared]
  rfl

/-- A module that a package is answered with goes back to an installation and its manifest; where that
has exports, it is the file that they have for the subpath. -/
theorem resolve_package_ok {m : ResolvedModule} (names : NamesPackage specifier)
    (answer : ((host fs workingDirectory).resolve specifier ctx).result = .ok m) :
    ∃ installed found,
      installation? fs (splitPackage specifier).1 (baseDirectory workingDirectory ctx).ancestors =
        some installed ∧
      Manifest.read fs (Manifest.pathIn installed) = .ok found ∧
      ∀ exports, (found.getD {}).exports = some exports →
        ∃ target, Package.exported? exports ctx.conditions (askedSubpath specifier) = some target ∧
          m = fileModule (installed.child target).normalize := by
  obtain missing | ⟨installed, place, ⟨e, -, failed⟩ | ⟨found, read, decided⟩⟩ :=
    resolve_package_cases names fs workingDirectory ctx
  · exact nomatch missing.symm.trans answer
  · exact nomatch failed.symm.trans answer
  refine ⟨installed, found, place, read, fun exports declared => ?_⟩
  rw [decided, inPackage_exports declared] at answer
  split at answer
  case h_1 => exact nomatch answer
  case h_2 target exported =>
    split at answer
    case isTrue => exact ⟨target, exported, (Except.ok.inj answer).symm⟩
    case isFalse => exact nomatch answer

end

end ModuleHooks.FileHost
