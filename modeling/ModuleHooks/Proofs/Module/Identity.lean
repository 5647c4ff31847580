import ModuleHooks.Module.Identity
import ModuleHooks.Proofs.Path.Normal
import ModuleHooks.Proofs.Text.Base64

/-!
Aggregates and the paths that identify them. The name of an aggregate says its loader and its pattern, and
no other name does; so reading the path of an aggregate gives the aggregate back, and reading any path
gives an aggregate with that path or none at all (`identity_lossless`). The directory is taken as a path:
its spelling does not matter.
-/
namespace ModuleHooks.VirtualModule

open ModuleHooks.Path

/-- Aggregates of one pattern for one loader, seen from one directory. -/
structure Same (m n : VirtualModule) : Prop where
  pattern : m.pattern = n.pattern
  kind : m.kind = n.kind
  directory : m.importerDirectory.components = n.importerDirectory.components

/-! ## Names -/

theorem ofLabel?_label (kind : LoaderKind) : LoaderKind.ofLabel? kind.label = some kind := by
  cases kind <;> rfl

theorem label_of_ofLabel? {s : Text} {kind : LoaderKind} (found : LoaderKind.ofLabel? s = some kind) :
    kind.label = s := by
  unfold LoaderKind.ofLabel? at found
  split at found
  case isTrue script =>
    obtain rfl := Option.some.inj found
    exact script.symm
  case isFalse =>
    split at found
    case isTrue module =>
      obtain rfl := Option.some.inj found
      exact module.symm
    case isFalse => exact nomatch found

/-- A name is read back. -/
theorem ofName?_name (m : VirtualModule) : ofName? m.name = some (m.kind, m.pattern) := by
  have unmarked : ':' ∉ m.kind.label := by cases m.kind <;> decide
  have encoded : (Base64.decode? Base64.nameDigits (Base64.inName (Utf8.encode m.pattern))).bind
      Utf8.decode? = some m.pattern := by
    rw [Base64.inName, Base64.isAlphabet_nameDigits.decode?_encode, Option.bind_some, Utf8.decode?_encode]
  rw [ofName?, name, List.append_assoc, Text.after?_append, Option.bind_eq_bind, Option.bind_some,
    Text.cutAt?_append_mark unmarked, Option.bind_eq_bind, Option.bind_some]
  dsimp only
  rw [ofLabel?_label, encoded]
  rfl

/-- A name that is read is the name of the aggregate that is read. -/
theorem name_of_ofName? {name : Text} {m : VirtualModule} (read : ofName? name = some (m.kind, m.pattern)) :
    m.name = name := by
  obtain ⟨rest, start, read⟩ := Option.bind_eq_some_iff.1 read
  obtain ⟨⟨label, encoded⟩, cut, read⟩ := Option.bind_eq_some_iff.1 read
  obtain ⟨kind, loader, read⟩ := Option.bind_eq_some_iff.1 read
  obtain ⟨pattern, decoded, same⟩ := Option.bind_eq_some_iff.1 read
  obtain ⟨rfl, rfl⟩ := Prod.mk.inj (Option.some.inj same)
  obtain ⟨bytes, digits, characters⟩ := Option.bind_eq_some_iff.1 decoded
  have pieces := (Text.cutAt?_eq_some cut).1
  calc
    m.name = nameStart ++ m.kind.label ++ ':' :: Base64.inName (Utf8.encode m.pattern) := rfl
    _ = nameStart ++ (label ++ ':' :: encoded) := by
      rw [label_of_ofLabel? loader, Utf8.encode_of_decode? characters, Base64.inName,
        Base64.isAlphabet_nameDigits.encode_of_decode? digits, List.append_assoc]
    _ = name := by rw [← pieces, Text.append_of_after? start]

theorem name_eq (m : VirtualModule) :
    m.name = '_' :: ("_virtual__:".toList ++ m.kind.label ++ ':' :: Base64.inName (Utf8.encode m.pattern)) :=
  rfl

/-- The name of an aggregate can stand in a directory. -/
theorem isName_name (m : VirtualModule) : IsName m.name where
  unmarked := by
    have digits : '/' ∉ Base64.inName (Utf8.encode m.pattern) := fun member =>
      absurd (Base64.isAlphabet_nameDigits.mem_of_mem_encode member) (by decide)
    have label : '/' ∉ m.kind.label := by cases m.kind <;> decide
    have start : '/' ∉ nameStart := by decide
    simp [name, digits, label, start]
  named := by rw [name_eq]; rfl
  down := by rw [name_eq]; simp

/-! ## Paths -/

theorem components_toPath (m : VirtualModule) :
    m.toPath.components = m.importerDirectory.components ++ [.name m.name] :=
  components_child _ m.isName_name.unmarked m.isName_name.named m.isName_name.down

/-- The path of an aggregate is read as that aggregate. -/
theorem ofPath?_toPath (m : VirtualModule) : ∃ n, ofPath? m.toPath = some n ∧ n.Same m := by
  have whole := m.components_toPath
  have fileName : m.toPath.fileName? = some m.name := by simp [fileName?, whole]
  obtain ⟨-, top⟩ | ⟨above, last, found, components, -⟩ := parent?_cases m.toPath
  · rw [whole] at top
    obtain top | top := top
    · simp at top
    · exact absurd (congrArg List.getLast? top) (by simp)
  · have directory : above.components = m.importerDirectory.components :=
      (List.append_inj' (components.symm.trans whole) rfl).1
    refine ⟨⟨m.pattern, above, m.kind⟩, ?_, rfl, rfl, directory⟩
    simp [ofPath?, fileName, found, ofName?_name]

/-- A path that is read as an aggregate is the path of that aggregate. -/
theorem components_of_ofPath? {p : Path} {m : VirtualModule} (read : ofPath? p = some m) :
    m.toPath.components = p.components := by
  obtain ⟨name, fileName, read⟩ := Option.bind_eq_some_iff.1 read
  obtain ⟨⟨kind, pattern⟩, spelled, read⟩ := Option.bind_eq_some_iff.1 read
  obtain ⟨above, found, same⟩ := Option.bind_eq_some_iff.1 read
  obtain rfl := Option.some.inj same
  obtain ⟨top, -⟩ | ⟨above', last, foundToo, components, -⟩ := parent?_cases p
  · exact nomatch top.symm.trans found
  · obtain rfl := Option.some.inj (foundToo.symm.trans found)
    have named : last = .name name := by
      unfold fileName? at fileName
      rw [components, List.getLast?_concat] at fileName
      split at fileName
      case h_1 n here =>
        obtain rfl := Option.some.inj here
        rw [Option.some.inj fileName]
      case h_2 => exact nomatch fileName
    have spelled : VirtualModule.name ⟨pattern, above', kind⟩ = name := name_of_ofName? spelled
    rw [components_toPath, components, named, spelled]

/-- Every aggregate is read back from its path, also by way of its identity as text; a path that is read as
an aggregate is the path of that aggregate; and so no two paths are read as one aggregate. -/
theorem identity_lossless :
    (∀ m : VirtualModule, ∃ n, ofPath? m.toPath = some n ∧ n.Same m ∧
      ModuleId.ofPath (Path.ofText (ModuleId.virtual m).text) = .virtual n) ∧
    (∀ p m, ofPath? p = some m → m.toPath.components = p.components) ∧
    ∀ p q m n, ofPath? p = some m → ofPath? q = some n → m.Same n → p.components = q.components := by
  refine ⟨fun m => ?_, fun p m => components_of_ofPath?, fun p q m n read readToo same => ?_⟩
  · obtain ⟨n, read, same⟩ := m.ofPath?_toPath
    refine ⟨n, read, same, ?_⟩
    show ModuleId.ofPath m.toPath = _
    rw [ModuleId.ofPath, read]
  · obtain ⟨pattern, kind, directory⟩ := same
    have name : m.name = n.name := by rw [name, name, pattern, kind]
    rw [← components_of_ofPath? read, ← components_of_ofPath? readToo, components_toPath,
      components_toPath, directory, name]

theorem identity_lossless_spelled :
    let p : Path := ⟨"/repo//src/./__virtual__:esm:Li_OuyoudHM/".toList⟩
    let m : VirtualModule := ⟨"./λ*.ts".toList, ⟨"/repo//src".toList⟩, .module⟩
    ofPath? p = some m ∧ m.toPath.components = p.components := by
  intro p m
  have read : ofPath? p = some m := by decide +kernel
  exact ⟨read, identity_lossless.2.1 p m read⟩

end ModuleHooks.VirtualModule
