import ModuleHooks.Proofs.Resolution.PathSpecifier

/-!
The probes of a specifier: the typed files that stand for it, and what the fallbacks try where it names
nothing. A probe keeps the beginning of the specifier that it is made from. So it is a URL or an alias
for the root only if that is one, and it begins as a path does if that does.
-/
namespace ModuleHooks.Engine

open Specifier

/-! ## Extensions -/

/-- An extension that is tried is a dot and a name. -/
theorem exists_of_mem_extensions {ext : Text} (member : ext ∈ typedExtensions ++ fallbackExtensions) :
    ∃ name, ext = '.' :: name ∧ (∀ c ∈ name, Path.isSlash c = false) ∧ '.' ∉ name ∧ '*' ∉ name := by
  simp only [typedExtensions, fallbackExtensions, List.map_cons, List.map_nil, List.cons_append,
    List.nil_append, List.mem_cons, List.not_mem_nil, or_false] at member
  rcases member with rfl | rfl | rfl | rfl | rfl | rfl | rfl | rfl | rfl <;>
    exact ⟨_, rfl, Path.flat_of_all rfl, by decide, by decide⟩

theorem flat_of_mem_extensions {ext : Text} (member : ext ∈ typedExtensions ++ fallbackExtensions) :
    (∀ c ∈ ext, Path.isSlash c = false) ∧ '*' ∉ ext ∧ ext ≠ [] := by
  obtain ⟨name, rfl, flat, -, starless⟩ := exists_of_mem_extensions member
  exact ⟨List.forall_mem_cons.2 ⟨rfl, flat⟩, by simp [starless], by simp⟩

theorem flat_of_mem_fallback {ext : Text} (member : ext ∈ fallbackExtensions) :
    (∀ c ∈ ext, Path.isSlash c = false) ∧ '*' ∉ ext ∧ ext ≠ [] :=
  flat_of_mem_extensions (List.mem_append_right typedExtensions member)

theorem mem_typedExtensions_of_typedCounterparts (ext : Text) :
    ∀ typed ∈ typedCounterparts ext, typed ∈ typedExtensions := by
  unfold typedCounterparts
  repeat' split
  all_goals decide

/-- A typed file is made from a specifier with an extension, by another one in its place. -/
theorem counterpart_of_mem_typedSpecifiers {specifier typed : Text} {ctx : ResolveContext}
    (member : typed ∈ typedSpecifiers specifier ctx) :
    Path.extension specifier ≠ [] ∧
      ∃ ext ∈ typedCounterparts (Path.extension specifier), typed = Path.stem specifier ++ ext := by
  unfold typedSpecifiers at member
  split at member
  · obtain ⟨ext, counterpart, rfl⟩ := List.mem_map.1 member
    refine ⟨fun none => ?_, ext, counterpart, rfl⟩
    rw [none] at counterpart
    exact nomatch counterpart
  · exact nomatch member

/-- A typed file has the stem of the script that it stands for, and an extension of its own. -/
theorem exists_of_mem_typedSpecifiers {specifier typed : Text} {ctx : ResolveContext}
    (member : typed ∈ typedSpecifiers specifier ctx) :
    ∃ ext ∈ typedExtensions, typed = Path.stem specifier ++ ext ∧ Path.extension typed = ext := by
  obtain ⟨some, ext, counterpart, rfl⟩ := counterpart_of_mem_typedSpecifiers member
  have known := mem_typedExtensions_of_typedCounterparts _ ext counterpart
  obtain ⟨name, rfl, flat, undotted, -⟩ :=
    exists_of_mem_extensions (List.mem_append_left fallbackExtensions known)
  exact ⟨_, known, rfl, Path.extension_append (Path.lastSegment_stem some) flat undotted⟩

/-- A typed file is not stood for by others. -/
theorem typedSpecifiers_typed {specifier typed : Text} {ctx : ResolveContext}
    (member : typed ∈ typedSpecifiers specifier ctx) (ctx' : ResolveContext) :
    typedSpecifiers typed ctx' = [] := by
  obtain ⟨ext, known, -, same⟩ := exists_of_mem_typedSpecifiers member
  have alone : ∀ ext ∈ typedExtensions, typedCounterparts ext = [] := by decide
  unfold typedSpecifiers
  rw [same, alone ext known, List.map_nil, ite_self]

/-- Only scripts have typed files, and none of their extensions holds a colon. -/
theorem notMem_of_mem_typedCounterparts {ext typed : Text} (member : typed ∈ typedCounterparts ext) :
    ':' ∉ ext := by
  unfold typedCounterparts at member
  split at member
  case isTrue same => rw [same]; decide
  case isFalse =>
    split at member
    case isTrue same => rw [same]; decide
    case isFalse =>
      split at member
      case isTrue same => rw [same]; decide
      case isFalse =>
        split at member
        case isTrue same => rw [same]; decide
        case isFalse => exact nomatch member

/-- What has a typed file has a stem, and an extension without a colon. -/
theorem script_of_mem_typedSpecifiers {specifier typed : Text} {ctx : ResolveContext}
    (member : typed ∈ typedSpecifiers specifier ctx) :
    Path.stem specifier ≠ [] ∧ ':' ∉ Path.extension specifier := by
  obtain ⟨some, ext, counterpart, -⟩ := counterpart_of_mem_typedSpecifiers member
  refine ⟨fun nothing => Path.lastSegment_stem some ?_, notMem_of_mem_typedCounterparts counterpart⟩
  rw [nothing]
  rfl

/-! ## What is probed -/

/-- What the fallbacks try for a specifier: the index in it, and an extension behind it where no slash
asks for the index. -/
def fallbackSpecifiers (specifier : Text) : List Text :=
  if specifier.endsWith ['/'] then fallbackExtensions.map (specifier ++ "index".toList ++ ·)
  else
    fallbackExtensions.map (specifier ++ "/index".toList ++ ·)
      ++ fallbackExtensions.map (specifier ++ ·)

/-- The probes of a specifier. A probe has no fallbacks, unless a slash asks for an index. -/
def probedSpecifiers (specifier : Text) (ctx : ResolveContext) : List Text :=
  if specifier.endsWith ['/'] then fallbackSpecifiers specifier
  else
    typedSpecifiers specifier ctx ++ if ctx.isProbe then [] else fallbackSpecifiers specifier

section

variable {specifier probe : Text} {ctx : ResolveContext}

theorem fallback_or_typed (member : probe ∈ probedSpecifiers specifier ctx) :
    probe ∈ fallbackSpecifiers specifier ∨
      probe ∈ typedSpecifiers specifier ctx ∧ specifier.endsWith ['/'] = false := by
  unfold probedSpecifiers at member
  split at member
  case isTrue => exact .inl member
  case isFalse file =>
    obtain typed | tried := List.mem_append.1 member
    · exact .inr ⟨typed, by simpa using file⟩
    · split at tried
      · exact nomatch tried
      · exact .inl tried

/-- A fallback adds the index with an extension, or only the extension. -/
theorem exists_of_mem_fallbackSpecifiers (member : probe ∈ fallbackSpecifiers specifier) :
    ∃ index ∈ [[], "index".toList, "/index".toList], ∃ ext ∈ fallbackExtensions,
      probe = specifier ++ (index ++ ext) := by
  unfold fallbackSpecifiers at member
  split at member
  · obtain ⟨ext, known, rfl⟩ := List.mem_map.1 member
    exact ⟨"index".toList, by simp, ext, known, List.append_assoc _ _ _⟩
  · obtain index | extended := List.mem_append.1 member
    · obtain ⟨ext, known, rfl⟩ := List.mem_map.1 index
      exact ⟨"/index".toList, by simp, ext, known, List.append_assoc _ _ _⟩
    · obtain ⟨ext, known, rfl⟩ := List.mem_map.1 extended
      exact ⟨[], by simp, ext, known, rfl⟩

/-- A probe asks for no index. -/
theorem endsWith_of_mem_probedSpecifiers (member : probe ∈ probedSpecifiers specifier ctx) :
    probe.endsWith ['/'] = false := by
  have extended {s ext : Text} (known : ext ∈ typedExtensions ++ fallbackExtensions) :
      (s ++ ext).endsWith ['/'] = false := by
    obtain ⟨flat, -, some⟩ := flat_of_mem_extensions known
    exact Path.endsWith_slash_append some flat
  obtain tried | ⟨typed, -⟩ := fallback_or_typed member
  · obtain ⟨index, -, ext, known, rfl⟩ := exists_of_mem_fallbackSpecifiers tried
    rw [← List.append_assoc]
    exact extended (List.mem_append_right _ known)
  · obtain ⟨ext, known, rfl, -⟩ := exists_of_mem_typedSpecifiers typed
    exact extended (List.mem_append_left _ known)

end

/-! ## Other ends -/

/-- The second text is the first with another end. No slash and no colon goes with the old end and no
colon comes with the new one; where nothing is left in front, the new end stands behind all there was
and is no alias. -/
def Varies (s t : Text) : Prop :=
  ∃ front old new, s = front ++ old ∧ t = front ++ new ∧ '/' ∉ old ∧ ':' ∉ old ∧ ':' ∉ new ∧
    (front = [] → old = [] ∧ new.head? ≠ some '~')

namespace Varies

variable {s t : Text}

theorem hasScheme (varies : Varies s t) : Specifier.hasScheme t = Specifier.hasScheme s := by
  obtain ⟨front, old, new, rfl, rfl, -, unmarked, unmarkedToo, -⟩ := varies
  rw [hasScheme_append unmarked, hasScheme_append unmarkedToo]

theorem isPlain (varies : Varies s t) (plain : Specifier.isPlain s = true) :
    Specifier.isPlain t = true := by
  have same := varies.hasScheme
  obtain ⟨front, old, new, rfl, rfl, -, -, -, alone⟩ := varies
  unfold Specifier.isPlain at plain ⊢
  rw [same]
  cases front with
  | nil =>
    obtain ⟨rfl, unaliased⟩ := alone rfl
    simp_all
  | cons c r => simpa using plain

/-- What begins as a path does still does. -/
theorem anchored (varies : Varies s t) (anchored : Anchored s) : Anchored t := by
  obtain ⟨front, old, new, rfl, rfl, unmarked, -⟩ := varies
  obtain ⟨lead, which, start⟩ := anchored
  have kept := (Text.prefix_append_of_notMem unmarked).1 start
  exact ⟨lead, which, kept.trans (List.prefix_append front new)⟩

/-- And so does what begins with a slash. -/
theorem head?_slash (varies : Varies s t) (rooted : s.head? = some '/') : t.head? = some '/' := by
  obtain ⟨front, old, new, rfl, rfl, -, -, -, alone⟩ := varies
  cases front with
  | nil =>
    obtain ⟨rfl, -⟩ := alone rfl
    exact nomatch rooted
  | cons c r => simpa using rooted

end Varies

/-- A probe is the specifier with another end. -/
theorem varies_of_mem_probedSpecifiers {specifier probe : Text} {ctx : ResolveContext}
    (member : probe ∈ probedSpecifiers specifier ctx) : Varies specifier probe := by
  obtain tried | ⟨typed, -⟩ := fallback_or_typed member
  · obtain ⟨index, which, ext, known, rfl⟩ := exists_of_mem_fallbackSpecifiers tried
    have ends : ∀ index ∈ [[], "index".toList, "/index".toList], ∀ ext ∈ fallbackExtensions,
        ':' ∉ index ++ ext ∧ (index ++ ext).head? ≠ some '~' := by decide
    obtain ⟨unmarked, unaliased⟩ := ends index which ext known
    exact ⟨specifier, [], index ++ ext, by simp, rfl, by simp, by simp, unmarked,
      fun _ => ⟨rfl, unaliased⟩⟩
  · obtain ⟨ext, known, rfl, -⟩ := exists_of_mem_typedSpecifiers typed
    have unmarked : ∀ ext ∈ typedExtensions, ':' ∉ ext := by decide
    obtain ⟨begun, script⟩ := script_of_mem_typedSpecifiers typed
    refine ⟨Path.stem specifier, Path.extension specifier, ext,
      (Path.stem_append_extension specifier).symm, rfl, ?_, script, unmarked ext known,
      fun nothing => absurd nothing begun⟩
    exact fun member => nomatch Path.flat_of_mem_extension member

end ModuleHooks.Engine
