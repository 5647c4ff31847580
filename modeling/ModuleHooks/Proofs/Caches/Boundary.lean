import ModuleHooks.Proofs.Caches.Agreement

/-!
The boundary of installed dependencies. The type of a script is a matter of the manifests in its own
directory and in those above it, up to the nearest dependency directory. What lies at that directory or
above it has no say, be it in a file or in what the caches remember (`detectFormat_bounded`).
-/
namespace ModuleHooks

open Hooked

namespace Engine

/-- The directories that have a say in the type of a file: its own and those above it, the nearest first,
up to the boundary of installed dependencies. -/
def scope (file : Path) : List Path :=
  ((file.parent?.map Path.ancestors).getD []).takeWhile (!isBoundary ·)

/-- The manifest of a directory declares this type, exactly. -/
def DeclaresType (fs : FileSystem) (directory : Path) (type : ModuleType) : Prop :=
  ∃ manifest, Manifest.read fs (Manifest.pathIn directory) = .ok (some manifest) ∧
    manifest.moduleType = some type.format.label

/-- A directory has no manifest, or one that declares neither type. -/
def IsSilent (fs : FileSystem) (directory : Path) : Prop :=
  ∃ manifest, Manifest.read fs (Manifest.pathIn directory) = .ok manifest ∧
    ∀ type : ModuleType, manifest.bind Manifest.moduleType ≠ some type.format.label

/-- The manifest of a directory settles the type: it declares one, or it cannot be read. -/
def Decides (fs : FileSystem) (directory : Path) : Except HookError ModuleType → Prop
  | .ok type => DeclaresType fs directory type
  | .error e => Manifest.read fs (Manifest.pathIn directory) = .error e

/-- The nearest of the directories that is not silent decides so. -/
def NearestDecides (fs : FileSystem) (directories : List Path) (r : Except HookError ModuleType) : Prop :=
  ∃ nearer directory further, directories = nearer ++ directory :: further ∧
    (∀ other ∈ nearer, IsSilent fs other) ∧ Decides fs directory r

section

variable {fs : FileSystem} {directory : Path} {directories : List Path} {type : ModuleType}
  {r : Except HookError ModuleType}

/-! ## The nearest declaration -/

theorem isBoundary_of_mem_scope {file : Path} (member : directory ∈ scope file) :
    isBoundary directory = false := by
  simpa using List.all_eq_true.1 List.all_takeWhile directory member

theorem declaredType_eq_some_iff {manifest : Manifest} :
    manifest.declaredType = some type ↔ manifest.moduleType = some type.format.label := by
  have exactly (label : Text) : ModuleType.ofLabel? label = some type ↔ label = type.format.label := by
    unfold ModuleType.ofLabel?
    cases type
    · by_cases other : label = ModuleFormat.module.label
      · subst other
        decide
      · simp [other, ModuleType.format]
    · by_cases same : label = ModuleFormat.module.label
      · simp [same, ModuleType.format]
      · simp [same, ModuleType.format]
  rw [Manifest.declaredType, Option.bind_eq_some_iff]
  constructor
  · rintro ⟨label, written, same⟩
    rw [written, (exactly label).1 same]
  · intro written
    exact ⟨_, written, (exactly _).2 rfl⟩

theorem IsSilent.of_undeclared
    (undeclared : (Manifest.read fs (Manifest.pathIn directory)).toOption.map (·.bind Manifest.moduleType) =
      some none) : IsSilent fs directory := by
  obtain ⟨manifest, read, nothing⟩ := Option.map_eq_some_iff.1 undeclared
  refine ⟨manifest, eq_ok_of_toOption read, ?_⟩
  intro type written
  exact nomatch nothing.symm.trans written

theorem DeclaresType.of_declared
    (declared : ((Manifest.read fs (Manifest.pathIn directory)).toOption.bind id).bind Manifest.moduleType =
      some type.format.label) : DeclaresType fs directory type := by
  obtain ⟨manifest, found, written⟩ := Option.bind_eq_some_iff.1 declared
  obtain ⟨_, read, rfl⟩ := Option.bind_eq_some_iff.1 found
  exact ⟨manifest, eq_ok_of_toOption read, written⟩

theorem IsSilent.not_decides (silent : IsSilent fs directory) : ¬Decides fs directory r := by
  obtain ⟨manifest, read, undeclared⟩ := silent
  intro decides
  cases r with
  | error e => exact nomatch read.symm.trans decides
  | ok type =>
    obtain ⟨found, readToo, declared⟩ := decides
    obtain rfl : manifest = some found := Except.ok.inj (read.symm.trans readToo)
    exact undeclared type declared

/-- A manifest settles one type, or one failure. -/
theorem Decides.unique {s : Except HookError ModuleType} (first : Decides fs directory r)
    (second : Decides fs directory s) : r = s := by
  cases r with
  | error e =>
    cases s with
    | error e' => rw [Except.error.inj (first.symm.trans second)]
    | ok type =>
      obtain ⟨manifest, read, -⟩ := second
      exact nomatch first.symm.trans read
  | ok type =>
    obtain ⟨manifest, read, written⟩ := first
    cases s with
    | error e => exact nomatch read.symm.trans second
    | ok own =>
      obtain ⟨found, readToo, writtenToo⟩ := second
      obtain rfl := Option.some.inj (Except.ok.inj (read.symm.trans readToo))
      have one := declaredType_eq_some_iff.2 written
      rw [Option.some.inj (one.symm.trans (declaredType_eq_some_iff.2 writtenToo))]

/-- A directory below the boundary decides, or it leaves the type to what is above. -/
theorem typeIn_cases (outside : isBoundary directory = false) :
    (∃ r, Decides fs directory r ∧ ∀ above, typeIn fs directory above = r) ∨
      (IsSilent fs directory ∧ ∀ above, typeIn fs directory above = above) := by
  simp only [typeIn, outside, Bool.false_eq_true, if_false]
  cases read : Manifest.read fs (Manifest.pathIn directory) with
  | error e => exact .inl ⟨.error e, read, fun _ => rfl⟩
  | ok manifest =>
    cases declared : manifest.bind Manifest.declaredType with
    | some own =>
      obtain ⟨found, rfl, same⟩ := Option.bind_eq_some_iff.1 declared
      exact .inl ⟨.ok own, ⟨found, read, declaredType_eq_some_iff.1 same⟩, fun _ => by simp [declared]⟩
    | none =>
      refine .inr ⟨⟨manifest, read, ?_⟩, fun _ => by simp [declared]⟩
      intro type written
      obtain ⟨found, rfl, same⟩ := Option.bind_eq_some_iff.1 written
      have declares : found.declaredType = some type := declaredType_eq_some_iff.2 same
      cases declared.symm.trans declares

theorem nearestDecides_cons :
    NearestDecides fs (directory :: directories) r ↔
      Decides fs directory r ∨ IsSilent fs directory ∧ NearestDecides fs directories r := by
  constructor
  · rintro ⟨nearer, nearest, further, whole, silent, decides⟩
    cases nearer with
    | nil =>
      obtain ⟨rfl, -⟩ := List.cons.inj whole
      exact .inl decides
    | cons first nearer =>
      obtain ⟨rfl, rfl⟩ := List.cons.inj whole
      obtain ⟨own, others⟩ := List.forall_mem_cons.1 silent
      exact .inr ⟨own, nearer, nearest, further, rfl, others, decides⟩
  · rintro (decides | ⟨own, nearer, nearest, further, rfl, silent, decides⟩)
    · exact ⟨[], directory, directories, rfl, nofun, decides⟩
    · exact ⟨directory :: nearer, nearest, further, rfl, List.forall_mem_cons.2 ⟨own, silent⟩, decides⟩

/-- What directories below the boundary come to: what the nearest manifest that is not silent decides, and plain
script if all are silent. -/
theorem foldr_typeIn_eq_iff (outside : ∀ directory ∈ directories, isBoundary directory = false) :
    directories.foldr (typeIn fs) (.ok .commonJs) = r ↔
      NearestDecides fs directories r ∨
        (∀ directory ∈ directories, IsSilent fs directory) ∧ r = .ok .commonJs := by
  induction directories with
  | nil =>
    constructor
    · intro same
      exact .inr ⟨nofun, same.symm⟩
    · rintro (⟨nearer, nearest, further, nothing, -⟩ | ⟨-, rfl⟩)
      · simp at nothing
      · rfl
  | cons directory directories ih =>
    obtain ⟨own, others⟩ := List.forall_mem_cons.1 outside
    rw [List.foldr_cons, nearestDecides_cons, List.forall_mem_cons]
    obtain ⟨s, decides, settled⟩ | ⟨silent, passes⟩ := @typeIn_cases fs _ own
    · rw [settled]
      have loud : ¬IsSilent fs directory := fun silent => silent.not_decides decides
      have same : Decides fs directory r ↔ s = r := by
        constructor
        · exact decides.unique
        · rintro rfl
          exact decides
      simp [loud, same]
    · rw [passes, ih others]
      simp [silent, silent.not_decides]

/-! ## What is looked at -/

/-- At the boundary the type is settled, so what is above it has no say. -/
theorem foldr_typeIn_takeWhile (directories : List Path) :
    directories.foldr (typeIn fs) (.ok .commonJs) =
      (directories.takeWhile (!isBoundary ·)).foldr (typeIn fs) (.ok .commonJs) := by
  induction directories with
  | nil => rfl
  | cons directory above ih =>
    by_cases boundary : isBoundary directory = true
    · rw [List.foldr_cons, typeIn, if_pos boundary, List.takeWhile_cons_of_neg (by simp [boundary])]
      rfl
    · rw [List.takeWhile_cons_of_pos (by simp [boundary]), List.foldr_cons, List.foldr_cons, ih]

/-- Files with the same manifests come to the same type. -/
theorem foldr_typeIn_congr {other : FileSystem}
    (agree : ∀ directory ∈ directories,
      fs.readText (Manifest.pathIn directory) = other.readText (Manifest.pathIn directory)) :
    directories.foldr (typeIn fs) (.ok .commonJs) = directories.foldr (typeIn other) (.ok .commonJs) := by
  induction directories with
  | nil => rfl
  | cons directory above ih =>
    obtain ⟨own, others⟩ := List.forall_mem_cons.1 agree
    have read : Manifest.read fs (Manifest.pathIn directory) =
        Manifest.read other (Manifest.pathIn directory) := by
      unfold Manifest.read FileSystem.readOptional
      rw [own]
    rw [List.foldr_cons, List.foldr_cons, ih others, typeIn, typeIn, read]

/-- Only manifests below the boundary are read on the way up. -/
theorem searchType_reads {P : Event → Prop}
    (allowed : ∀ directory ∈ directories.takeWhile (!isBoundary ·),
      P (.readManifest (Manifest.pathIn directory))) :
    Within (Only P) (searchType fs directories) := by
  have repeats : Repeats (Only P : Caches → _) := Only.repeats P
  induction directories with
  | nil => exact .pure repeats _
  | cons directory above ih =>
    unfold searchType
    split
    case isTrue => exact .pure repeats _
    case isFalse inside =>
      rw [List.takeWhile_cons_of_pos (by simp [inside]), List.forall_mem_cons] at allowed
      obtain ⟨own, others⟩ := allowed
      refine .bind repeats (.state repeats) fun caches => ?_
      split
      · exact .pure repeats _
      · refine .bind repeats ?_ fun manifest => ?_
        · refine .bind repeats (.state repeats) fun caches => ?_
          split
          · exact .pure repeats _
          · apply Within.bind repeats (.note fun _ => by simpa [Only] using own)
            intro _
            apply Within.bind repeats (.ofExcept repeats _)
            intro manifest
            apply Within.bind repeats (.update fun _ => by simp [Only])
            intro _
            exact .pure repeats _
        · split
          · exact .pure repeats _
          · exact .bind repeats (ih others) fun _ => .pure repeats _

end

/-! ## Formats -/

/-- The format of a file by what the manifests in its scope say. -/
def formatOf (fs : FileSystem) (file : Path) : Except HookError (Option ModuleFormat) :=
  match ModuleFormat.ofExtension? file with
  | some format => .ok (some format)
  | none =>
    if scriptExtensions.contains (Path.extension file.text) then
      ((scope file).foldr (typeIn fs) (.ok .commonJs)).map fun type => some type.format
    else .ok none

section

variable {fs : FileSystem} {file : Path}

/-- Caches that agree with the files leave the format to the manifests in the scope. -/
theorem detectFormat_answers (reaches : ∀ directory ∈ scope file, fs.Reaches directory) :
    Answers fs (detectFormat fs file) (formatOf fs file) := by
  unfold detectFormat formatOf scope
  unfold scope at reaches
  cases ModuleFormat.ofExtension? file with
  | some format => exact .pure fs _
  | none =>
    dsimp only
    split
    case isFalse => exact .pure fs _
    case isTrue script =>
      cases inside : file.parent? with
      | none => exact .pure fs _
      | some directory =>
        rw [inside, Option.map_some, Option.getD_some] at reaches
        have answer := typeOfDirectory_answers reaches
        rw [typeOf, foldr_typeIn_takeWhile] at answer
        dsimp only [Option.map_some, Option.getD_some]
        cases walked : (directory.ancestors.takeWhile (!isBoundary ·)).foldr (typeIn fs) (.ok .commonJs) with
        | error e =>
          rw [walked] at answer
          exact answer.bind_error _
        | ok type =>
          rw [walked] at answer
          exact answer.bind_ok (.pure fs _)

/-- A format is detected by reading manifests in the scope, and nothing else. -/
theorem detectFormat_reads (fs : FileSystem) (file : Path) :
    Within (Only fun e => ∃ directory ∈ scope file, e = .readManifest (Manifest.pathIn directory))
      (detectFormat fs file) := by
  have repeats : Repeats (Only (fun e => ∃ directory ∈ scope file,
      e = .readManifest (Manifest.pathIn directory)) : Caches → _) := Only.repeats _
  unfold detectFormat
  split
  · exact .pure repeats _
  · split
    · split
      · exact .pure repeats _
      · rename_i directory found
        refine .bind repeats ?_ fun _ => .pure repeats _
        apply Within.bind repeats
        · apply searchType_reads
          intro nearby member
          refine ⟨nearby, ?_, rfl⟩
          rw [scope, found]
          exact member
        · intro answer
          apply Within.bind repeats (.update fun _ => by simp [Only])
          intro _
          exact .pure repeats _
    · exact .pure repeats _

end

theorem map_format_inj {r s : Except HookError ModuleType} :
    r.map (fun type => some type.format) = s.map (fun type => some type.format) ↔ r = s := by
  refine ⟨fun same => ?_, congrArg _⟩
  cases r <;> cases s
  case error.error => rw [Except.error.inj same]
  case error.ok => exact nomatch same
  case ok.error => exact nomatch same
  case ok.ok type own =>
    have formats := Option.some.inj (Except.ok.inj same)
    cases type <;> cases own <;> first | rfl | exact nomatch formats

/-! ## Detection behind any past -/

/-- Detection stops at the boundary of installed dependencies. Two engines may have served any requests, each over
its own files; where the files agree on the manifests in the scope of a file, and reach them as they are spelled
there, both detect the same format, and neither reads a manifest outside. The nearest manifest in the scope that
declares a type or cannot be read decides on a script, and it is plain script if there is none. -/
theorem detectFormat_bounded (fs other : FileSystem) (file : Path) (engine engineToo : Engine)
    (config configToo : EngineConfig) (transformer transformerToo : Transformer)
    (history historyToo : List (Host × Request)) :
    let detected := (detectFormat fs file).outcome (engine.cachesBehind fs config transformer history)
    let detectedToo := (detectFormat other file).outcome
      (engineToo.cachesBehind other configToo transformerToo historyToo)
    ((∀ directory ∈ scope file,
        fs.readText (Manifest.pathIn directory) = other.readText (Manifest.pathIn directory)) →
      (∀ directory ∈ scope file, fs.Reaches directory ∧ other.Reaches directory) →
        detected.1 = detectedToo.1) ∧
      (∀ e ∈ detected.2.trace ++ detectedToo.2.trace,
        ∃ directory ∈ scope file, e = .readManifest (Manifest.pathIn directory)) ∧
      (scriptExtensions.contains (Path.extension file.text) = true →
        (∀ directory ∈ scope file, fs.Reaches directory) → ∀ r : Except HookError ModuleType,
          detected.1 = r.map (fun type => some type.format) ↔
            NearestDecides fs (scope file) r ∨
              (∀ directory ∈ scope file, IsSilent fs directory) ∧ r = .ok .commonJs) := by
  intro detected detectedToo
  have answer (reaches : ∀ directory ∈ scope file, fs.Reaches directory) : detected.1 = formatOf fs file :=
    (detectFormat_answers reaches ⟨_, []⟩ (.behind engine fs config transformer history)).1
  refine ⟨fun agree reaches => ?_, ?_, ?_⟩
  · have answerToo : detectedToo.1 = formatOf other file :=
      (detectFormat_answers (fun directory member => (reaches directory member).2) ⟨_, []⟩
        (.behind engineToo other configToo transformerToo historyToo)).1
    rw [answer fun directory member => (reaches directory member).1, answerToo, formatOf, formatOf,
      foldr_typeIn_congr agree]
  · intro e member
    obtain member | member := List.mem_append.1 member
    · exact (detectFormat_reads fs file).outcome _ e member
    · exact (detectFormat_reads other file).outcome _ e member
  · intro script reaches r
    rw [answer reaches, formatOf, ofExtension?_script script,
      ← foldr_typeIn_eq_iff fun _ => isBoundary_of_mem_scope]
    dsimp only
    rw [if_pos script]
    exact map_format_inj

/-- A script of the installed package is plain script, whatever type the package around it has and the caches
remember, on a disk and in memory. -/
theorem detectFormat_bounded_installed :
    let fs := (installedTree .module).walking
    let other := (installedTree .commonJs).lexical
    let file : Path := ⟨"/p/node_modules/d/lib/i.js".toList⟩
    let config : EngineConfig := { root := ⟨"/p".toList⟩ }
    let engine : Engine := ⟨config, none, none, none, Transformer.passthrough⟩
    let served (files : FileSystem) : List (Host × Request) :=
      [(FileHost.host files Path.rootDirectory, .load (.file ⟨"/p/a.js".toList⟩) { kind := .module })]
    let past (files : FileSystem) := cachesBehind engine files config engine.transformer (served files)
    (∀ directory ∈ scope file,
        fs.readText (Manifest.pathIn directory) = other.readText (Manifest.pathIn directory)) ∧
      (∀ directory ∈ scope file, fs.Reaches directory ∧ other.Reaches directory) ∧
      ((detectFormat fs file).outcome (past fs)).1 = .ok (some .commonJs) ∧
      ((detectFormat other file).outcome (past other)).1 = .ok (some .commonJs) := by
  intro fs other file config engine served past
  have inside : scope file = [⟨"/p/node_modules/d/lib".toList⟩, ⟨"/p/node_modules/d".toList⟩] := by
    decide +kernel
  have cases {P : Path → Prop} (lib : P ⟨"/p/node_modules/d/lib".toList⟩)
      (package : P ⟨"/p/node_modules/d".toList⟩) : ∀ directory ∈ scope file, P directory := by
    rw [inside]
    exact List.forall_mem_cons.2 ⟨lib, List.forall_mem_cons.2 ⟨package, List.forall_mem_nil _⟩⟩
  have agree : ∀ directory ∈ scope file,
      fs.readText (Manifest.pathIn directory) = other.readText (Manifest.pathIn directory) := by
    apply cases <;> decide +kernel
  have short : ∀ directory ∈ scope file,
      (Utf8.encode (Manifest.pathIn directory).text).length ≤ FileTree.pathLimit := by decide +kernel
  have reaches : ∀ directory ∈ scope file, fs.Reaches directory ∧ other.Reaches directory :=
    fun directory member => ⟨FileTree.walking_reaches _ (short directory member), FileTree.lexical_reaches _ directory⟩
  have silent : ∀ directory ∈ scope file, IsSilent fs directory := by
    apply cases <;> exact .of_undeclared (by decide +kernel)
  obtain ⟨same, -, decides⟩ := detectFormat_bounded fs other file engine engine config config
    engine.transformer engine.transformer (served fs) (served other)
  have detected := (decides (by decide +kernel) (fun directory member => (reaches directory member).1)
    (.ok .commonJs)).2 (.inr ⟨silent, rfl⟩)
  exact ⟨agree, reaches, detected, (same agree reaches).symm.trans detected⟩

/-- A package of modules with a directory whose manifest is no JSON. -/
def brokenTree : FileTree :=
  ⟨[(["p".toList, "package.json".toList], .text "\x7b\"type\":\"module\"\x7d".toList),
    (["p".toList, "src".toList, "package.json".toList], .text "\x7b nope".toList)], []⟩

/-- A script whose name is too long for a disk has the type that its directory is remembered with, and none where
nothing is remembered; and a manifest that is no JSON hides the type that is declared above it. -/
theorem detectFormat_bounded_padded :
    let fs := (installedTree .module).walking
    let config : EngineConfig := { root := ⟨"/p".toList⟩ }
    let engine : Engine := ⟨config, none, none, none, Transformer.passthrough⟩
    let served := [(FileHost.host fs Path.rootDirectory,
      Request.load (.file ⟨"/p/a.js".toList⟩) { kind := .module })]
    ((detectFormat fs (Path.padded FileTree.pathLimit ⟨"/p/a.js".toList⟩)).outcome
        (cachesBehind engine fs config engine.transformer served)).1 = .ok (some .module) ∧
      ((detectFormat fs (Path.padded FileTree.pathLimit ⟨"/p/a.js".toList⟩)).outcome
        (cachesBehind engine fs config engine.transformer [])).1 =
        .error (.unreadable (Manifest.pathIn (Path.padded FileTree.pathLimit ⟨"/p".toList⟩)) (.failed .tooLong)) ∧
      DeclaresType brokenTree.lexical ⟨"/p".toList⟩ .module ∧
      ((detectFormat brokenTree.lexical ⟨"/p/src/a.js".toList⟩).outcome {}).1 =
        .error (.manifestMalformed ⟨"/p/src/package.json".toList⟩) := by
  intro fs config engine served
  have known : (cachesBehind engine fs config engine.transformer served).moduleTypes.get? ⟨"/p".toList⟩ =
      some .module := by decide +kernel
  obtain ⟨tsconfigs, nothing⟩ := engine.cachesBehind_nil fs config engine.transformer
  rw [detectFormat_padded_known fs FileTree.pathLimit known, nothing,
    detectFormat_padded_fresh _ tsconfigs (Nat.le_refl _)]
  refine ⟨rfl, rfl, ?_, ?_⟩
  · exact .of_declared (by decide +kernel)
  · exact eq_error_of_failure? (by decide +kernel)

end Engine
end ModuleHooks
