import ModuleHooks.Proofs.Host.Packages
import ModuleHooks.Proofs.Resolution.Candidates

/-!
What the host over files reports when it finds nothing. It names the specifier that it was asked for, or
the subpath of it that a package does not export; a manifest that cannot be read is another matter. In what
it takes to be a directory, no exports are in the way.
-/
namespace ModuleHooks.FileHost

open Hooked Specifier

section

variable {fs : FileSystem} {workingDirectory directory : Path} {specifier t : Text} {ctx : ResolveContext}
  {e : HookError}

/-- The failure of a package for which the subpath is not exported. -/
def HidesExport (fs : FileSystem) (workingDirectory : Path) (specifier : Text) (ctx : ResolveContext)
    (e : HookError) : Prop :=
  NamesPackage specifier ∧
    ∃ installed found exports,
      installation? fs (splitPackage specifier).1 (baseDirectory workingDirectory ctx).ancestors =
        some installed ∧
      Manifest.read fs (Manifest.pathIn installed) = .ok found ∧
      (found.getD {}).exports = some exports ∧
      e = .exportNotDefined (askedSubpath specifier) (Manifest.pathIn installed)

/-! ## Paths and packages -/

theorem misses_of_atPath {path : Path} (failed : atPath fs specifier path ctx = .error e) :
    e.Misses specifier ctx.importer := by
  unfold atPath at failed
  extract_lets normal at failed
  split at failed
  case isTrue => cases failed
  case isFalse =>
    split at failed
    case isTrue =>
      cases failed
      exact .inr rfl
    case isFalse =>
      cases failed
      exact .inl rfl

/-- A package without exports misses a subpath or its main file. -/
theorem misses_of_inPackage {subpath : Option Text} {manifest : Manifest} (closed : manifest.exports = none)
    (failed : inPackage fs specifier directory subpath manifest ctx = .error e) :
    e.Misses specifier ctx.importer := by
  unfold inPackage at failed
  rw [closed] at failed
  cases subpath with
  | some sub => exact misses_of_atPath failed
  | none =>
    dsimp only at failed
    unfold mainFile at failed
    split at failed
    case h_1 => cases failed
    case h_2 =>
      cases failed
      exact .inl rfl

/-- A package with exports does not have the subpath among them or misses the file. -/
theorem error_of_inPackage {manifest : Manifest} {exports : Json} (declared : manifest.exports = some exports)
    (failed : inPackage fs specifier directory (splitPackage specifier).2 manifest ctx = .error e) :
    e = .moduleNotFound specifier ctx.importer ∨
      e = .exportNotDefined (askedSubpath specifier) (Manifest.pathIn directory) := by
  rw [inPackage_exports declared] at failed
  split at failed
  case h_1 =>
    cases failed
    exact .inr rfl
  case h_2 =>
    split at failed
    case isTrue => cases failed
    case isFalse =>
      cases failed
      exact .inl rfl

/-- A manifest that cannot be read is no matter of finding nothing. -/
theorem isNotFound_of_read {path : Path} (failed : Manifest.read fs path = .error e) :
    e.isNotFound = false := by
  unfold Manifest.read at failed
  split at failed
  case h_1 source _ =>
    unfold Manifest.parse at failed
    split at failed
    case h_1 => cases failed
    case h_2 =>
      cases failed
      rfl
  case h_2 => cases failed
  case h_3 =>
    cases failed
    rfl

/-- What is reported for a package. -/
theorem reports_of_package (names : NamesPackage specifier)
    (failed : ((host fs workingDirectory).resolve specifier ctx).result = .error e)
    (notFound : e.isNotFound = true) :
    e.Misses specifier ctx.importer ∨ HidesExport fs workingDirectory specifier ctx e := by
  obtain missing | ⟨installed, place, ⟨e', read, unread⟩ | ⟨found, read, decided⟩⟩ :=
    resolve_package_cases names fs workingDirectory ctx
  · obtain rfl := Except.error.inj (missing.symm.trans failed)
    exact .inl (.inl rfl)
  · obtain rfl := Except.error.inj (unread.symm.trans failed)
    exact absurd notFound (by simp [isNotFound_of_read read])
  · rw [decided] at failed
    cases declared : (found.getD {}).exports with
    | none => exact .inl (misses_of_inPackage declared failed)
    | some exports =>
      obtain rfl | rfl := error_of_inPackage declared failed
      · exact .inl (.inl rfl)
      · exact .inr ⟨names, installed, found, exports, place, read, declared, rfl⟩

/-! ## Every specifier -/

/-- A private name is missed under its own name. -/
theorem misses_of_privateName (directories : List Path) :
    FailsWith (fun e => e.isNotFound = true → e.Misses specifier ctx.importer)
      (privateName fs specifier ctx directories) := by
  induction directories with
  | nil => exact .throw fun _ => .inl rfl
  | cons directory above ih =>
    have read : FailsWith (fun e => e.isNotFound = true → e.Misses specifier ctx.importer)
        (readManifest fs (Manifest.pathIn directory)) := by
      refine .bind (.of_succeeds fun t => ⟨(), _, runFrom_note _ t⟩) fun _ => .ofExcept fun e failed => ?_
      exact fun notFound => absurd notFound (by simp [isNotFound_of_read failed])
    unfold privateName
    refine .bind read fun found => ?_
    split
    case h_1 => exact ih
    case h_2 =>
      split
      case h_1 => exact .throw fun _ => .inl rfl
      case h_2 => exact .ofExcept fun e failed _ => misses_of_atPath failed

/-- When the host finds nothing, it says so of the specifier that it was asked for, or of the subpath that
this asks a package for. -/
theorem reports_of_resolve (failed : ((host fs workingDirectory).resolve specifier ctx).result = .error e)
    (notFound : e.isNotFound = true) :
    e.Misses specifier ctx.importer ∨ HidesExport fs workingDirectory specifier ctx e := by
  by_cases names : NamesPackage specifier
  · exact reports_of_package names failed notFound
  refine .inl ?_
  have fails : FailsWith (fun e => e.isNotFound = true → e.Misses specifier ctx.importer)
      (resolveSpecifier fs workingDirectory specifier ctx) := by
    have lookedAt (path : Path) :
        FailsWith (fun e => e.isNotFound = true → e.Misses specifier ctx.importer)
          (liftExcept (atPath fs specifier path ctx) : Hooked Unit _) :=
      .ofExcept fun e failed _ => misses_of_atPath failed
    unfold resolveSpecifier
    extract_lets base
    split
    case isTrue => exact .throw fun _ => .inl rfl
    case isFalse named =>
      split
      case h_1 => exact .pure _
      case h_2 unprovided =>
        split
        case isTrue =>
          split
          case h_1 => exact lookedAt _
          case h_2 => exact .throw fun told => absurd told Bool.false_ne_true
        case isFalse unfiled =>
          split
          case isTrue => exact misses_of_privateName _
          case isFalse shared =>
            split
            case isTrue => exact lookedAt _
            case isFalse unrelative =>
              split
              case isTrue => exact lookedAt _
              case isFalse unrooted =>
                split
                case isTrue => exact .throw fun told => absurd told Bool.false_ne_true
                case isFalse unaddressed =>
                  refine absurd ⟨?_, unprovided, ?_, shared, ?_, ?_, ?_⟩ names
                  all_goals simp_all
  exact fails _ e failed notFound

/-! ## Directories -/

/-- What is told to be a directory is not provided. -/
theorem unprovided_of_directory {s : Text} {importer : Option Path}
    (directory : ((host fs workingDirectory).resolve specifier ctx).result =
      .error (.directoryImport s importer)) : specifier ≠ [] ∧ builtinName? specifier = none := by
  have ran : ((resolveSpecifier fs workingDirectory specifier ctx).runFrom ⟨(), []⟩).1 =
      .error (.directoryImport s importer) := directory
  unfold resolveSpecifier at ran
  refine ⟨?_, ?_⟩
  · rintro rfl
    cases ran
  · cases provided : builtinName? specifier with
    | none => rfl
    | some name =>
      simp only [provided] at ran
      split at ran <;> cases ran

/-- A package that is told to be a directory was asked for a subpath, and has no exports. -/
theorem package_of_directory {s : Text} {importer : Option Path} (names : NamesPackage specifier)
    (directory : ((host fs workingDirectory).resolve specifier ctx).result =
      .error (.directoryImport s importer)) :
    ∃ name sub installed found, splitPackage specifier = (name, some sub) ∧
      installation? fs name (baseDirectory workingDirectory ctx).ancestors = some installed ∧
      Manifest.read fs (Manifest.pathIn installed) = .ok found ∧ (found.getD {}).exports = none := by
  obtain missing | ⟨installed, place, ⟨e, read, unread⟩ | ⟨found, read, decided⟩⟩ :=
    resolve_package_cases names fs workingDirectory ctx
  · exact nomatch missing.symm.trans directory
  · obtain rfl := Except.error.inj (unread.symm.trans directory)
    exact nomatch isNotFound_of_read read
  · rw [decided] at directory
    cases declared : (found.getD {}).exports with
    | some exports =>
      obtain other | other := error_of_inPackage declared directory <;> cases other
    | none =>
      cases asked : (splitPackage specifier).2 with
      | some sub => exact ⟨_, sub, installed, found, Prod.ext rfl asked, place, read, declared⟩
      | none =>
        unfold inPackage at directory
        rw [declared, asked] at directory
        dsimp only at directory
        unfold mainFile at directory
        split at directory <;> cases directory

/-- In what is told to be a directory, nothing is hidden by exports. -/
theorem misses_of_directory {s : Text} {importer : Option Path}
    (directory : ((host fs workingDirectory).resolve specifier ctx).result =
      .error (.directoryImport s importer))
    (failed : ((host fs workingDirectory).resolve (specifier ++ '/' :: t) ctx.probe).result = .error e)
    (notFound : e.isNotFound = true) : e.Misses (specifier ++ '/' :: t) ctx.importer := by
  obtain misses | ⟨namesToo, installedToo, foundToo, exports, placeToo, readToo, declared, -⟩ :=
    reports_of_resolve failed notFound
  · exact misses
  obtain ⟨named, unprovided⟩ := unprovided_of_directory directory
  -- The specifier names the same package, whose manifest was found to have no exports.
  obtain ⟨name, sub, installed, found, split, place, read, closed⟩ :=
    package_of_directory (namesToo.of_append named unprovided) directory
  rw [splitPackage_append split] at placeToo
  obtain rfl : installed = installedToo := Option.some.inj (place.symm.trans placeToo)
  obtain rfl : found = foundToo := Except.ok.inj (read.symm.trans readToo)
  exact nomatch closed.symm.trans declared

end

end ModuleHooks.FileHost
