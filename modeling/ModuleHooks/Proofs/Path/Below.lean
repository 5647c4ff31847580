import ModuleHooks.Proofs.Path.Tidying

/-!
What lies below a directory. For normal paths that is a matter of texts: what lies below a directory goes on
behind its text and a slash (`exists_text_of_isBelow`), and a text that goes on so behind the text of a
directory lies below it only if the directory is written in its normal form and is not the one at the top
(`isBelow_of_text`). The directories above a normal path are those that contain it
(`mem_ancestors_iff`), the closest first (`pairwise_ancestors`).
-/
namespace ModuleHooks.Path

open Text

variable {path directory : Path}

/-- The path lies in the directory and is not the directory itself. -/
def IsBelow (path directory : Path) : Prop :=
  directory.Contains path ∧ directory.components ≠ path.components

instance (path directory : Path) : Decidable (path.IsBelow directory) :=
  inferInstanceAs (Decidable (_ ∧ _))

/-! ## By text -/

theorem exists_names (normal : path.normalize = path) (absolute : path.isAbsolute = true) :
    ∃ names, path = ofNames true names ∧ ∀ name ∈ names, IsName name := by
  refine ⟨path.normalNames, ?_, fun _ => isName_of_mem_normalNames⟩
  rw [← absolute, ← normalize_eq_ofNames, normal]

/-- Below a directory there are the paths with more names. -/
theorem isBelow_ofNames {names above : List Text} (proper : ∀ name ∈ names, IsName name)
    (properAbove : ∀ name ∈ above, IsName name) :
    (ofNames true names).IsBelow (ofNames true above) ↔ ∃ rest, rest ≠ [] ∧ names = above ++ rest := by
  have inject : Function.Injective Component.name := fun _ _ same => Component.name.inj same
  unfold IsBelow Contains
  simp only [components_ofNames proper, components_ofNames properAbove, if_true, List.singleton_append,
    List.cons_prefix_cons, true_and, ne_eq, List.cons.injEq, List.map_inj_right inject]
  constructor
  · rintro ⟨inside, other⟩
    obtain ⟨rest, rfl⟩ := (List.prefix_map_iff_of_injective inject).1 inside
    exact ⟨rest, fun nothing => other (by rw [nothing, List.append_nil]), rfl⟩
  · rintro ⟨rest, some, rfl⟩
    rw [List.map_append]
    exact ⟨List.prefix_append _ _, fun same => some (List.append_right_eq_self.1 same.symm)⟩

/-- What lies below a directory goes on behind the text of the directory with a slash at its end. -/
theorem exists_text_of_isBelow (normal : path.normalize = path) (normalAbove : directory.normalize = directory)
    (absolute : directory.isAbsolute = true) (below : path.IsBelow directory) :
    ∃ rest, path.text = slashed directory.text ++ rest := by
  have rooted : path.isAbsolute = true :=
    path.isAbsolute_iff.2 (below.1.subset (directory.isAbsolute_iff.1 absolute))
  obtain ⟨names, rfl, proper⟩ := exists_names normal rooted
  obtain ⟨above, rfl, properAbove⟩ := exists_names normalAbove absolute
  obtain ⟨rest, some, rfl⟩ := (isBelow_ofNames proper properAbove).1 below
  refine ⟨joinWith '/' rest, ?_⟩
  obtain rfl | ⟨init, last, rfl⟩ := List.eq_nil_or_concat above
  · rfl
  · rw [List.concat_eq_append] at properAbove ⊢
    have named : IsName last := properAbove last (by simp)
    have closed := slashed_joinWith ['/'] init named.unmarked (ne_nil_of_not_idle named.named)
    show '/' :: joinWith '/' (init ++ [last] ++ rest) = slashed (['/'] ++ joinWith '/' (init ++ [last])) ++ _
    rw [closed, joinWith_append (by simp) some]
    simp

theorem slashed_of_normal (normal : directory.normalize = directory) (absolute : directory.isAbsolute = true)
    (inner : directory ≠ rootDirectory) : slashed directory.text = directory.text ++ ['/'] := by
  obtain ⟨names, rfl, proper⟩ := exists_names normal absolute
  obtain rfl | ⟨init, last, rfl⟩ := List.eq_nil_or_concat names
  · exact absurd rfl inner
  · rw [List.concat_eq_append] at proper ⊢
    have named : IsName last := proper last (by simp)
    exact slashed_joinWith ['/'] init named.unmarked (ne_nil_of_not_idle named.named)

/-- Where a normal path goes on behind the text of a directory and a slash, the directory is written as its
names, and there are some. -/
theorem isBelow_of_text {rest : Text} (normal : path.normalize = path) (absolute : directory.isAbsolute = true)
    (whole : path.text = directory.text ++ '/' :: rest) :
    directory.normalize = directory ∧ directory ≠ rootDirectory ∧ path.IsBelow directory := by
  obtain ⟨body, rooted⟩ : ∃ body, directory.text = '/' :: body :=
    List.head?_eq_some_iff.1 (beq_iff_eq.1 absolute)
  have absolutePath : path.isAbsolute = true := by
    rw [isAbsolute, whole, rooted]
    rfl
  obtain ⟨names, rfl, proper⟩ := exists_names normal absolutePath
  -- The names of the path are the pieces of the directory's text and those of what follows it.
  have text : joinWith '/' names = body ++ '/' :: rest := by
    rw [rooted] at whole
    exact (List.cons.inj whole).2
  have cut : names = splitAt '/' body ++ splitAt '/' rest := by
    have pieces := congrArg (splitAt '/') text
    rw [splitAt_append_mark] at pieces
    obtain same | ⟨rfl, -⟩ := splitAt_names proper
    · exact same.symm.trans pieces
    · exact absurd text (by simp [joinWith])
  have properAbove : ∀ name ∈ splitAt '/' body, IsName name := fun name member =>
    proper name (by rw [cut]; exact List.mem_append_left _ member)
  obtain rfl : directory = ofNames true (splitAt '/' body) := by
    obtain ⟨s⟩ := directory
    obtain rfl : s = '/' :: body := rooted
    rw [ofNames, joinWith_splitAt]
    rfl
  refine ⟨normalize_ofNames properAbove, fun top => ?_, ?_⟩
  · have components := congrArg components top
    rw [components_ofNames properAbove] at components
    exact splitAt_ne_nil '/' body (List.map_eq_nil_iff.1 (List.cons.inj components).2)
  · exact (isBelow_ofNames proper properAbove).2 ⟨_, splitAt_ne_nil '/' rest, cut⟩

/-! ## The directories above a path -/

theorem contains_of_mem_ancestors {p q : Path} (member : q ∈ p.ancestors) : q.Contains p := by
  induction p using above_induction with
  | top p top =>
    rw [ancestors_top top, List.mem_singleton] at member
    exact member ▸ List.prefix_refl _
  | below p above found ih =>
    rw [ancestors_below found, List.mem_cons] at member
    obtain rfl | member := member
    · exact List.prefix_refl _
    · obtain ⟨top, -⟩ | ⟨aboveToo, last, foundToo, whole, -⟩ := parent?_cases p
      · exact nomatch top.symm.trans found
      · obtain rfl := Option.some.inj (foundToo.symm.trans found)
        exact (ih member).trans (whole ▸ List.prefix_append _ _)

/-- Above a normal path there are the normal directories that contain it. -/
theorem mem_ancestors_iff {p q : Path} (normal : p.normalize = p) (absolute : p.isAbsolute = true) :
    q ∈ p.ancestors ↔ q.normalize = q ∧ q.isAbsolute = true ∧ q.Contains p := by
  constructor
  · intro member
    exact ⟨normalize_of_mem_ancestors normal member, isAbsolute_of_mem_ancestors member absolute,
      contains_of_mem_ancestors member⟩
  rintro ⟨normalAbove, absoluteAbove, inside⟩
  have same {p : Path} (normal : p.normalize = p) (same : q.components = p.components) : q = p := by
    rw [← normalAbove, ← normal, normalize_congr same]
  induction p using above_induction with
  | top p top =>
    rw [ancestors_top top, List.mem_singleton]
    obtain ⟨-, nothing | only⟩ | ⟨above, -, found, -⟩ := parent?_cases p
    · exact absurd (p.isAbsolute_iff.1 absolute) (by simp [nothing])
    · refine same normal (inside.eq_of_length_le ?_)
      rw [only]
      exact List.length_pos_of_mem (q.isAbsolute_iff.1 absoluteAbove)
    · exact nomatch top.symm.trans found
  | below p above found ih =>
    rw [ancestors_below found, List.mem_cons]
    obtain ⟨top, -⟩ | ⟨aboveToo, last, foundToo, whole, -⟩ := parent?_cases p
    · exact nomatch top.symm.trans found
    · obtain rfl := Option.some.inj (foundToo.symm.trans found)
      rw [Contains, whole, List.prefix_concat_iff] at inside
      obtain here | further := inside
      · exact .inl (same normal (here.trans whole.symm))
      · exact .inr (ih (normalize_parent? normal found) (isAbsolute_parent? found absolute) further)

/-- The closest of them comes first. -/
theorem pairwise_ancestors (p : Path) : p.ancestors.Pairwise fun near far => far.Contains near := by
  induction p using above_induction with
  | top p top => simp [ancestors_top top]
  | below p above found ih =>
    have whole := ancestors_below found
    rw [whole]
    refine List.pairwise_cons.2 ⟨fun far member => contains_of_mem_ancestors ?_, ih⟩
    rw [whole]
    exact List.mem_cons_of_mem _ member

end ModuleHooks.Path
