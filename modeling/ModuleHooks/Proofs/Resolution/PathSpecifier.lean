import ModuleHooks.Engine.Resolution
import ModuleHooks.Host.FileHost
import ModuleHooks.Proofs.Computation
import ModuleHooks.Proofs.Path.Extension
import ModuleHooks.Proofs.Pieces

/-!
What specifiers are read as, and the ones that name a path and cross no dependency. Such a specifier
stays one when an extension or a name is added to it, it is never read as anything but a path, and the
host over files answers it from the path it names alone.
-/
namespace ModuleHooks.Specifier

open Text ModuleHooks.Path

/-! ## The kind of a specifier -/

/-- The specifier is neither a URL nor an alias for the root. -/
def isPlain (s : Text) : Bool := !hasScheme s && s.head? != some '~'

section

variable {ns s : Text}

theorem hasScheme_of_classify (kind : classify ns s = .url) : hasScheme s = true := by
  grind [classify, pathKind?]

theorem head?_of_classify (kind : classify ns s = .tildeAlias) : s.head? = some '~' := by
  grind [classify, pathKind?]

theorem isPlain_of_classify (located : classify ns s ≠ .url)
    (unaliased : classify ns s ≠ .tildeAlias) : isPlain s = true := by
  grind [classify, isPlain]

theorem afterNamespace?_of_classify (kind : classify ns s = .workspaceAlias) :
    ∃ rest, afterNamespace? ns s = some rest := by
  cases behind : afterNamespace? ns s with
  | some rest => exact ⟨rest, rfl⟩
  | none => grind [classify, pathKind?]

theorem pathKind?_of_bare (kind : classify ns s = .bare) : pathKind? s = none := by
  grind [classify, pathKind?]

theorem pathKind?_of_path (path : classify ns s = .relative ∨ classify ns s = .absolute) :
    (pathKind? s).isSome = true ∧ '*' ∉ s := by
  cases kind : pathKind? s <;> grind [classify]

/-- Text without a colon behind a specifier gives it no scheme and takes none from it. -/
theorem hasScheme_append {t : Text} (unmarked : ':' ∉ t) : hasScheme (s ++ t) = hasScheme s := by
  unfold hasScheme
  rw [cutAt?_append unmarked]
  cases cutAt? ':' s <;> rfl

end

/-! ## Specifiers that begin as a path does -/

/-- The specifier begins with a slash, behind a dot or two at most. -/
def Anchored (s : Text) : Prop :=
  ∃ lead, (lead = [] ∨ lead = ['.'] ∨ lead = ['.', '.']) ∧ lead ++ ['/'] <+: s

namespace Anchored

variable {s : Text}

/-- How the specifier goes on behind its start. -/
theorem cases (anchored : Anchored s) :
    (∃ r, s = '/' :: r) ∨ (∃ r, s = '.' :: '/' :: r) ∨ ∃ r, s = '.' :: '.' :: '/' :: r := by
  obtain ⟨lead, which, r, rfl⟩ := anchored
  obtain rfl | rfl | rfl := which
  · exact .inl ⟨r, rfl⟩
  · exact .inr (.inl ⟨r, rfl⟩)
  · exact .inr (.inr ⟨r, rfl⟩)

theorem of_slash (r : Text) : Anchored ('/' :: r) := ⟨[], .inl rfl, r, rfl⟩

theorem pathKind? (anchored : Anchored s) :
    Specifier.pathKind? s = some .relative ∨ Specifier.pathKind? s = some .absolute := by
  obtain ⟨r, rfl⟩ | ⟨r, rfl⟩ | ⟨r, rfl⟩ := anchored.cases
  · exact .inr rfl
  · exact .inl rfl
  · exact .inl rfl

theorem hasScheme (anchored : Anchored s) : Specifier.hasScheme s = false := by
  -- A scheme begins with a letter, and the specifier with a dot or a slash.
  have lettered {c : Char} (r : Text) (other : c ≠ ':') (letterless : c.isAlpha = false) :
      Specifier.hasScheme (c :: r) = false := by
    unfold Specifier.hasScheme
    rw [cutAt?, if_neg other]
    cases cutAt? ':' r with
    | none => rfl
    | some pieces => simp [letterless]
  obtain ⟨r, rfl⟩ | ⟨r, rfl⟩ | ⟨r, rfl⟩ := anchored.cases <;>
    exact lettered _ (by decide) (by decide)

theorem head?_ne (anchored : Anchored s) : s.head? ≠ some '~' := by
  obtain ⟨r, rfl⟩ | ⟨r, rfl⟩ | ⟨r, rfl⟩ := anchored.cases <;> simp

theorem isPlain (anchored : Anchored s) : Specifier.isPlain s = true := by
  simp [Specifier.isPlain, anchored.hasScheme, anchored.head?_ne]

theorem classify_ne_bare (anchored : Anchored s) (ns : Text) : classify ns s ≠ .bare := by
  intro kind
  obtain path | path := anchored.pathKind? <;>
    exact absurd (path.symm.trans (pathKind?_of_bare kind)) (by simp)

end Anchored

/-- A specifier that is read as a path is a dot or two, or begins as a path that goes on. -/
theorem anchored_of_classify {ns s : Text}
    (path : Specifier.classify ns s = .relative ∨ Specifier.classify ns s = .absolute)
    (more : s ≠ ['.'] ∧ s ≠ ['.', '.']) : Anchored s := by
  have kind := (pathKind?_of_path path).1
  have form : isRelative s = true ∨ isAbsolute s = true := by
    unfold pathKind? at kind
    by_cases relative : isRelative s = true
    · exact .inl relative
    · by_cases absolute : isAbsolute s = true
      · exact .inr absolute
      · simp [relative, absolute] at kind
  obtain relative | absolute := form
  · unfold isRelative at relative
    split at relative
    case h_1 => exact absurd rfl more.1
    case h_2 => exact absurd rfl more.2
    case h_3 r => exact ⟨['.'], by simp, r, rfl⟩
    case h_4 r => exact ⟨['.', '.'], by simp, r, rfl⟩
    case h_5 => exact nomatch relative
  · obtain ⟨r, rfl⟩ := List.head?_eq_some_iff.1 (eq_of_beq absolute)
    exact .of_slash r

/-! ## Specifiers that name a path -/

/-- The specifier is a path that goes on behind its start, without a star and without a dependency. -/
structure NamesPath (s : Text) : Prop where
  start : ∃ lead, (lead = [] ∨ lead = ['.'] ∨ lead = ['.', '.']) ∧ lead ++ ['/'] <+: s
  starless : '*' ∉ s
  clear : crossesDependency s = false

namespace NamesPath

variable {s t : Text}

theorem append (names : NamesPath s) (flat : ∀ c ∈ t, isSlash c = false) (starless : '*' ∉ t) :
    NamesPath (s ++ t) where
  start := by
    obtain ⟨lead, which, front⟩ := names.start
    exact ⟨lead, which, front.trans (List.prefix_append s t)⟩
  starless := by simp [names.starless, starless]
  clear := (crossesDependency_append flat).trans names.clear

/-- Another text in place of the extension. -/
theorem stem_append (names : NamesPath s) (flat : ∀ c ∈ t, isSlash c = false) (starless : '*' ∉ t) :
    NamesPath (stem s ++ t) := by
  have whole := stem_append_extension s
  have unmarked : '/' ∉ extension s := fun member => nomatch flat_of_mem_extension member
  refine append ⟨?_, fun member => names.starless ?_, ?_⟩ flat starless
  · obtain ⟨lead, which, front⟩ := names.start
    rw [← whole] at front
    exact ⟨lead, which, (prefix_append_of_notMem unmarked).1 front⟩
  · rw [← whole]
    exact List.mem_append_left _ member
  · rw [← crossesDependency_append fun c => flat_of_mem_extension, whole]
    exact names.clear

/-- A name in what does not end in the dependency directory. -/
theorem slash_append (names : NamesPath s)
    (outside : ¬ '/' :: dependencyDirectory <:+ replaceChar '\\' '/' s)
    (flat : ∀ c ∈ t, isSlash c = false) (starless : '*' ∉ t) : NamesPath (s ++ '/' :: t) where
  start := by
    obtain ⟨lead, which, front⟩ := names.start
    exact ⟨lead, which, front.trans (List.prefix_append s _)⟩
  starless := by simp [names.starless, starless]
  clear := crossesDependency_slash flat names.clear outside

theorem anchored (names : NamesPath s) : Anchored s := names.start

theorem afterNamespace? {ns : Text} (names : NamesPath s) (dotless : ns.head? ≠ some '.')
    (slashless : ns.head? ≠ some '/') : Specifier.afterNamespace? ns s = none := by
  cases ns with
  | nil => rfl
  | cons c ns =>
    have differ {d : Char} (lead r : Text) (other : c ≠ d) : after? (c :: lead) (d :: r) = none :=
      if_neg (by simpa using other)
    simp only [List.head?_cons, ne_eq, Option.some.injEq] at dotless slashless
    obtain ⟨r, rfl⟩ | ⟨r, rfl⟩ | ⟨r, rfl⟩ := names.anchored.cases
    · exact differ _ r slashless
    · exact differ _ ('/' :: r) dotless
    · exact differ _ ('.' :: '/' :: r) dotless

/-- The specifier is read as a path, unless the namespace looks like one itself. -/
theorem classify {ns : Text} (names : NamesPath s) (dotless : ns.head? ≠ some '.')
    (slashless : ns.head? ≠ some '/') :
    Specifier.classify ns s = .relative ∨ Specifier.classify ns s = .absolute := by
  have starless : s.contains '*' = false := by simpa using names.starless
  unfold Specifier.classify
  rw [names.anchored.hasScheme, if_neg (by simp), if_neg names.anchored.head?_ne, starless, Bool.and_false, if_neg (by simp),
    names.afterNamespace? dotless slashless, if_neg (by simp)]
  obtain kind | kind := names.anchored.pathKind? <;> simp [kind]

end NamesPath

/-- A specifier that is read as a path and crosses no dependency names one, unless it is a dot or
two. -/
theorem namesPath_of_classify {ns s : Text}
    (path : Specifier.classify ns s = .relative ∨ Specifier.classify ns s = .absolute)
    (more : s ≠ ['.'] ∧ s ≠ ['.', '.']) (clear : crossesDependency s = false) : NamesPath s where
  start := anchored_of_classify path more
  starless := (pathKind?_of_path path).2
  clear := clear

end ModuleHooks.Specifier

namespace ModuleHooks.FileHost

open Specifier

theorem builtinName?_path {s : Text} (names : NamesPath s) : builtinName? s = none := by
  have schemeless : Text.after? builtinScheme s = none := by
    obtain ⟨r, rfl⟩ | ⟨r, rfl⟩ | ⟨r, rfl⟩ := names.anchored.cases <;> rfl
  have segment : Text.upTo '/' s = [] ∨ Text.upTo '/' s = ['.'] ∨ Text.upTo '/' s = ['.', '.'] := by
    obtain ⟨r, rfl⟩ | ⟨r, rfl⟩ | ⟨r, rfl⟩ := names.anchored.cases <;> simp [Text.upTo]
  have unprovided : builtins.contains (Text.upTo '/' s) = false := by
    obtain whole | whole | whole := segment <;> rw [whole] <;> decide
  unfold builtinName?
  rw [schemeless, unprovided]
  rfl

/-- The place that a specifier names, seen from the importer. -/
def placeOf (workingDirectory : Path) (ctx : ResolveContext) (specifier : Text) : Path :=
  ((baseDirectory workingDirectory ctx).join ⟨specifier⟩).normalize

theorem resolveSpecifier_path {s : Text} (names : NamesPath s) (fs : FileSystem)
    (workingDirectory : Path) (ctx : ResolveContext) :
    resolveSpecifier fs workingDirectory s ctx =
      liftExcept (atPath fs s ((baseDirectory workingDirectory ctx).join ⟨s⟩) ctx) := by
  have builtin := builtinName?_path names
  obtain ⟨r, rfl⟩ | ⟨r, rfl⟩ | ⟨r, rfl⟩ := names.anchored.cases
  · simp only [resolveSpecifier, builtin]
    rfl
  · simp only [resolveSpecifier, builtin]
    rfl
  · simp only [resolveSpecifier, builtin]
    rfl

/-- The host over files looks at the place that a path names. -/
theorem resolve_path {s : Text} (names : NamesPath s) (fs : FileSystem) (workingDirectory : Path)
    (ctx : ResolveContext) :
    ((host fs workingDirectory).resolve s ctx).result =
      if fs.isFile (placeOf workingDirectory ctx s) then
        .ok (fileModule (placeOf workingDirectory ctx s))
      else if fs.isDirectory (placeOf workingDirectory ctx s) then
        .error (.directoryImport s ctx.importer)
      else .error (.moduleNotFound s ctx.importer) := by
  show ((resolveSpecifier fs workingDirectory s ctx).outcome ()).1 = _
  rw [resolveSpecifier_path names, Hooked.outcome_eq_runFrom, Hooked.runFrom_liftExcept]
  rfl

end ModuleHooks.FileHost
