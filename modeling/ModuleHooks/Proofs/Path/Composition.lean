import ModuleHooks.Proofs.Path.Tidying

/-!
Normal forms of joined paths. The normal form of a path is where its components lead, one after another, from the
empty path (`normalize_eq_foldl`). Of a path that something is joined to only the normal form counts
(`normalize_join`), and a step up leads to the path above the normal form (`normalize_child_up`). There is none above
the root and above the empty path, so steps up from there are lost (`normalize_join_climb`). The laws stand together
in `normalize_composes`.
-/
namespace ModuleHooks.Path

open Text

variable {rooted : Bool} {names : List Text} {p : Path}

/-! ## Following components -/

/-- Where a component leads from a path: the root leads to the directory at the top, a dot stays where it is, two dots
lead to the path above, if there is one, and a name to what it names below. -/
def follow (p : Path) : Component → Path
  | .root => p.join rootDirectory
  | .here => p
  | .up => p.parent?.getD p
  | .name n => p.child n

theorem follow_up_ofNames (proper : ∀ name ∈ names, IsName name) :
    (ofNames rooted names).follow .up = ofNames rooted names.dropLast := by
  unfold follow
  obtain ⟨top, single⟩ | ⟨above, -, found, -⟩ := parent?_cases (ofNames rooted names)
  · have nothing : names = [] := by
      rw [components_ofNames proper] at single
      cases rooted <;> simpa [List.map_eq_singleton_iff] using single
    rw [top, nothing]
    rfl
  · rw [found, parent?_ofNames proper found]
    rfl

/-- A component leads from the path of names to that of the names that it is taken onto. -/
theorem follow_ofNames {component : Component} (proper : ∀ name ∈ names, IsName name)
    (below : component ≠ .root) (named : ∀ name, component = .name name → IsName name) :
    (ofNames rooted names.reverse).follow component = ofNames rooted (step names component).reverse := by
  have properToo : ∀ name ∈ names.reverse, IsName name := fun name member =>
    proper name (List.mem_reverse.1 member)
  cases component with
  | root => exact absurd rfl below
  | here => rfl
  | up => rw [follow_up_ofNames properToo, List.dropLast_reverse, step]
  | name n =>
    rw [step, List.reverse_cons]
    exact child_ofNames properToo (named n rfl)

theorem foldl_follow_ofNames {components : List Component} (proper : ∀ name ∈ names, IsName name)
    (below : .root ∉ components) (named : ∀ name, .name name ∈ components → IsName name) :
    components.foldl follow (ofNames rooted names.reverse) =
      ofNames rooted (components.foldl step names).reverse := by
  induction components generalizing names with
  | nil => rfl
  | cons component rest ih =>
    obtain ⟨other, others⟩ := List.ne_and_not_mem_of_not_mem_cons below
    have here : ∀ name, component = .name name → IsName name := fun name same =>
      named name (same ▸ List.mem_cons_self)
    rw [List.foldl_cons, List.foldl_cons, follow_ofNames proper other.symm here]
    exact ih (isName_of_mem_step here proper) others fun name member =>
      named name (List.mem_cons_of_mem _ member)

/-- The normal form of a path is where its components lead from the empty path. -/
theorem normalize_eq_foldl (p : Path) : p.normalize = p.components.foldl follow ⟨[]⟩ := by
  obtain ⟨front, fronts, whole⟩ := exists_leading p
  have below : .root ∉ componentsOf (splitAt '/' p.text) := root_notMem_componentsOf _
  have named : ∀ name, .name name ∈ componentsOf (splitAt '/' p.text) → IsName name := fun name member =>
    isName_of_mem_components (p := p) (by rw [whole]; exact List.mem_append_right _ member)
  -- The root can only stand in front, so from there on it is known whether the path is absolute.
  have start : front.foldl follow ⟨[]⟩ = ofNames p.isAbsolute [] := by
    have absolute : p.isAbsolute = decide (.root ∈ front) := by
      rw [Bool.eq_iff_iff, isAbsolute_iff, whole, List.mem_append, or_iff_left below, decide_eq_true_iff]
    rw [absolute]
    rcases fronts with rfl | rfl | rfl <;> rfl
  have nothing : ∀ name ∈ ([] : List Text), IsName name := List.forall_mem_nil _
  rw [whole, List.foldl_append, start, normalize_eq_ofNames, normalNames_eq]
  exact (foldl_follow_ofNames nothing below named).symm

theorem dots_notMem_components_normalize (p : Path) :
    .here ∉ p.normalize.components ∧ .up ∉ p.normalize.components := by
  rw [components_normalize]
  cases p.isAbsolute <;> simp

/-- Between the slashes of a path made of names there are the names, and nothing where it starts. -/
theorem eq_nil_or_mem_of_mem_splitAt_ofNames {piece : Text} (proper : ∀ name ∈ names, IsName name)
    (member : piece ∈ splitAt '/' (ofNames rooted names).text) : piece = [] ∨ piece ∈ names := by
  have behind : piece ∈ splitAt '/' (joinWith '/' names) → piece = [] ∨ piece ∈ names := by
    obtain cut | ⟨-, cut⟩ := splitAt_names proper
    · exact fun member => .inr (cut ▸ member)
    · exact fun member => .inl (by simpa [cut] using member)
  cases rooted with
  | true => exact (List.mem_cons.1 member).elim .inl behind
  | false => exact behind member

/-- Between the slashes of a normal path there are no dots. -/
theorem not_isDots_of_mem_splitAt_normalize {piece : Text} (member : piece ∈ splitAt '/' p.normalize.text) :
    ¬IsDots piece := by
  have proper : ∀ name ∈ p.normalNames, IsName name := fun _ => isName_of_mem_normalNames
  intro dots
  rcases eq_nil_or_mem_of_mem_splitAt_ofNames proper member with rfl | named
  · exact dots.isPiece.filled rfl
  · exact dots.not_isName (proper piece named)

/-! ## Joining -/

/-- What is joined to a path is joined to its normal form. -/
theorem normalize_join (p q : Path) : (p.join q).normalize = (p.normalize.join q).normalize := by
  obtain ⟨t⟩ := q
  cases last : isAbsolute ⟨t⟩ with
  | true => rw [join_of_isAbsolute last, join_of_isAbsolute last]
  | false =>
    rw [normalize_eq_ofNames, normalize_eq_ofNames (p.normalize.join ⟨t⟩), isAbsolute_join_eq_or,
      isAbsolute_join_eq_or, isAbsolute_normalize, normalNames_join p last, normalNames_join p.normalize last,
      normalNames_normalize]

theorem normalize_join_nil (p : Path) : (p.join ⟨[]⟩).normalize = p.normalize := by
  rw [normalize_eq_ofNames, normalNames_join p rfl, isAbsolute_join_eq_or]
  exact congrArg (ofNames p.isAbsolute) (List.reverse_reverse _)

/-! ## Steps up -/

/-- Two dots behind a path lead to the path above its normal form, or nowhere if there is none. -/
theorem normalize_child_up (p : Path) :
    (p.child ['.', '.']).normalize = p.normalize.parent?.getD p.normalize := by
  have start : (p.child ['.', '.']).isAbsolute = p.isAbsolute := isAbsolute_join_eq_or p ⟨['.', '.']⟩
  calc
    (p.child ['.', '.']).normalize = ofNames p.isAbsolute p.normalNames.dropLast := by
      rw [normalize_eq_ofNames, start, (normalNames_child_dots p).2]
    _ = p.normalize.parent?.getD p.normalize :=
      (follow_up_ofNames fun _ => isName_of_mem_normalNames).symm

/-- The path of so many steps up. -/
def climb (n : Nat) : Path := ofNames false (List.replicate n ['.', '.'])

theorem climb_succ (n : Nat) : climb (n + 1) = (climb n).child ['.', '.'] := by
  have up : IsPiece ['.', '.'] := IsDots.isPiece (.inr rfl)
  have pieces : ∀ piece ∈ List.replicate n ['.', '.'], IsPiece piece := fun piece member =>
    List.eq_of_mem_replicate member ▸ up
  rw [climb, List.replicate_succ']
  exact (child_ofPieces pieces up).symm

/-- Where there is no path above, steps up lead nowhere. -/
theorem normalize_join_climb (top : p.normalize.parent? = none) (n : Nat) :
    (p.join (climb n)).normalize = p.normalize := by
  induction n with
  | zero => exact normalize_join_nil p
  | succ n ih =>
    have last : p.join (climb (n + 1)) = (p.join (climb n)).child ['.', '.'] := by
      rw [climb_succ, child, child, join_join]
    rw [last, normalize_child_up, ih, top]
    rfl

/-- So they have no part in the place that is seen from there. -/
theorem normalize_join_climb_join (top : p.normalize.parent? = none) (n : Nat) (q : Path) :
    (p.join ((climb n).join q)).normalize = (p.join q).normalize := by
  rw [← join_join, normalize_join, normalize_join_climb top, ← normalize_join]

/-- A normal path has no dots, is written as its own normal form and starts at the root where the path does. What is
joined to a path may as well be joined to its normal form. A step up leads to the path above, and those at the root
and at the start of a relative path are left out. All in all, the normal form is where the components lead. -/
theorem normalize_composes (p q : Path) (n : Nat) :
    (.here ∉ p.normalize.components ∧ .up ∉ p.normalize.components ∧
      ∀ piece ∈ splitAt '/' p.normalize.text, ¬IsDots piece) ∧
    p.normalize.normalize = p.normalize ∧
    (p.join q).normalize = (p.normalize.join q).normalize ∧
    (p.isAbsolute = true ↔ p.normalize.isAbsolute = true) ∧
    (p.child ['.', '.']).normalize = p.normalize.parent?.getD p.normalize ∧
    (rootDirectory.join ((climb n).join q)).normalize = (rootDirectory.join q).normalize ∧
    ((climb n).join q).normalize = q.normalize ∧
    p.normalize = p.components.foldl follow ⟨[]⟩ := by
  obtain ⟨here, up⟩ := dots_notMem_components_normalize p
  refine ⟨⟨here, up, fun _ => not_isDots_of_mem_splitAt_normalize⟩, normalize_normalize p, normalize_join p q, ?_,
    normalize_child_up p, normalize_join_climb_join rfl n q, ?_, normalize_eq_foldl p⟩
  · rw [isAbsolute_normalize]
  · have start (r : Path) : join ⟨[]⟩ r = r := ite_self r
    have lost := normalize_join_climb_join (p := ⟨[]⟩) rfl n q
    rwa [start, start] at lost

example : normalize ⟨"/a/../../b/./..//c/".toList⟩ = ⟨"/c".toList⟩ := by decide

end ModuleHooks.Path
