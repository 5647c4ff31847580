import ModuleHooks.Proofs.Path.Components

/-!
Normal paths. The names that remain when every step up is taken are names proper, so they are the
components of the normal path, and taking the normal form again changes nothing. Above a normal path and
at a name in it all is normal (`normalize_of_mem_ancestors`, `normalize_child`). What is seen from a
directory without a step up stays in it (`contains_child`).
-/
namespace ModuleHooks.Path

open Text

/-- A text between slashes that stands for a name. -/
structure IsName (name : Text) : Prop where
  unmarked : '/' ∉ name
  named : isIdle name = false
  down : name ≠ ['.', '.']

instance (name : Text) : Decidable (IsName name) :=
  decidable_of_iff ('/' ∉ name ∧ isIdle name = false ∧ name ≠ ['.', '.'])
    ⟨fun ⟨unmarked, named, down⟩ => ⟨unmarked, named, down⟩, fun h => ⟨h.unmarked, h.named, h.down⟩⟩

/-- A text between slashes that is not empty: a name, or dots. -/
structure IsPiece (t : Text) : Prop where
  unmarked : '/' ∉ t
  filled : t ≠ []

theorem IsName.isPiece {name : Text} (named : IsName name) : IsPiece name where
  unmarked := named.unmarked
  filled := by
    rintro rfl
    exact nomatch named.named

/-- The dots of a directory: its name for itself and for the one above it. -/
def IsDots (t : Text) : Prop := t = ['.'] ∨ t = ['.', '.']

theorem IsDots.isPiece {t : Text} (dots : IsDots t) : IsPiece t := by
  rcases dots with rfl | rfl <;> exact ⟨by decide, by decide⟩

theorem IsDots.not_isName {t : Text} (dots : IsDots t) : ¬IsName t := by
  rcases dots with rfl | rfl <;> decide

theorem isName_of_mem_components {p : Path} {name : Text} (member : .name name ∈ p.components) :
    IsName name := by
  rw [components_eq, List.mem_append] at member
  obtain member | member := member
  · unfold leading at member
    split at member <;> simp at member
  · obtain ⟨piece, kept, same⟩ := List.mem_map.1 member
    obtain ⟨inside, named⟩ := List.mem_filter.1 kept
    unfold componentOf at same
    split at same
    case isTrue => exact nomatch same
    case isFalse down =>
      obtain rfl : piece = name := Component.name.inj same
      exact ⟨notMem_of_mem_splitAt inside, by simpa using named, down⟩

/-- Taking a component onto names leaves names. -/
theorem isName_of_mem_step {component : Component} {names : List Text}
    (proper : ∀ name, component = .name name → IsName name) (before : ∀ name ∈ names, IsName name) :
    ∀ name ∈ step names component, IsName name := by
  cases component with
  | root => exact before
  | here => exact before
  | up => exact fun name member => before name (List.mem_of_mem_tail member)
  | name n => exact List.forall_mem_cons.2 ⟨proper n rfl, before⟩

private theorem isName_of_mem_foldl {components : List Component} {names : List Text}
    (proper : ∀ name, .name name ∈ components → IsName name) (before : ∀ name ∈ names, IsName name) :
    ∀ name ∈ components.foldl step names, IsName name := by
  induction components generalizing names with
  | nil => exact before
  | cons component rest ih =>
    refine ih (fun name member => proper name (List.mem_cons_of_mem _ member)) ?_
    exact isName_of_mem_step (fun name same => proper name (same ▸ List.mem_cons_self)) before

theorem isName_of_mem_normalNames {p : Path} {name : Text} (member : name ∈ p.normalNames) :
    IsName name :=
  isName_of_mem_foldl (fun _ => isName_of_mem_components) (by simp) name (List.mem_reverse.1 member)

theorem componentsOf_names {names : List Text} (proper : ∀ name ∈ names, IsName name) :
    componentsOf names = names.map .name := by
  induction names with
  | nil => rfl
  | cons name rest ih =>
    obtain ⟨first, others⟩ := List.forall_mem_cons.1 proper
    rw [componentsOf_cons_of_not_idle rest first.named, ih others, componentOf, if_neg first.down,
      List.map_cons]

/-! ## Paths by their names -/

theorem root_notMem_componentsOf (pieces : List Text) : Component.root ∉ componentsOf pieces := by
  intro member
  obtain ⟨piece, -, same⟩ := List.mem_map.1 member
  unfold componentOf at same
  split at same <;> exact nomatch same

/-- A path starts at the root if its components do. -/
theorem isAbsolute_iff (p : Path) : p.isAbsolute = true ↔ .root ∈ p.components := by
  have front : .root ∈ p.components ↔ .root ∈ leading (split p.text).1 := by
    rw [components_eq, List.mem_append, or_iff_left (root_notMem_componentsOf _)]
  rw [front, isAbsolute]
  unfold split
  split
  case h_4 body rooted _ _ =>
    cases text : p.text with
    | nil => simp [leading]
    | cons c r =>
      have other : c ≠ '/' := fun slash => rooted r (by rw [text, slash])
      simp [leading, other]
  all_goals simp [leading, *]

/-- The path with these names, from the root or not. -/
def ofNames (rooted : Bool) (names : List Text) : Path :=
  if rooted then ⟨'/' :: joinWith '/' names⟩ else ⟨joinWith '/' names⟩

theorem normalize_eq_ofNames (p : Path) : p.normalize = ofNames p.isAbsolute p.normalNames := rfl

section

variable {rooted : Bool} {names : List Text}

/-- The pieces of names between slashes are the names, with an idle one if there is none. -/
theorem splitAt_names (proper : ∀ name ∈ names, IsName name) :
    splitAt '/' (joinWith '/' names) = names ∨ names = [] ∧ splitAt '/' (joinWith '/' names) = [[]] := by
  cases names with
  | nil => exact .inr ⟨rfl, rfl⟩
  | cons name rest =>
    exact .inl (splitAt_joinWith (by simp) fun n member => (proper n member).unmarked)

theorem split_ofNames (proper : ∀ name ∈ names, IsName name) :
    split (ofNames rooted names).text = (if rooted then ['/'] else [], joinWith '/' names) := by
  cases rooted with
  | true => rfl
  | false =>
    cases names with
    | nil => rfl
    | cons name rest =>
      exact split_of_not_idle (splitAt_joinWith (by simp) fun n member => (proper n member).unmarked)
        (proper name List.mem_cons_self).named

theorem components_ofNames (proper : ∀ name ∈ names, IsName name) :
    (ofNames rooted names).components = (if rooted then [.root] else []) ++ names.map .name := by
  have pieces : componentsOf (splitAt '/' (joinWith '/' names)) = names.map .name := by
    obtain cut | ⟨rfl, cut⟩ := splitAt_names proper
    · rw [cut, componentsOf_names proper]
    · rw [cut]
      rfl
  rw [components_eq, split_ofNames proper, pieces]
  cases rooted <;> rfl

theorem isAbsolute_ofNames (proper : ∀ name ∈ names, IsName name) :
    (ofNames rooted names).isAbsolute = rooted := by
  rw [Bool.eq_iff_iff, isAbsolute_iff, components_ofNames proper]
  cases rooted <;> simp

private theorem foldl_step_names (names before : List Text) :
    (names.map Component.name).foldl step before = names.reverse ++ before := by
  induction names generalizing before with
  | nil => rfl
  | cons name rest ih => simp [step, ih]

theorem normalNames_ofNames (proper : ∀ name ∈ names, IsName name) :
    (ofNames rooted names).normalNames = names := by
  rw [normalNames, components_ofNames proper, List.foldl_append]
  have nothing : (if rooted then [Component.root] else []).foldl step [] = [] := by cases rooted <;> rfl
  rw [nothing, foldl_step_names, List.append_nil, List.reverse_reverse]

theorem normalize_ofNames (proper : ∀ name ∈ names, IsName name) :
    (ofNames rooted names).normalize = ofNames rooted names := by
  rw [normalize_eq_ofNames, isAbsolute_ofNames proper, normalNames_ofNames proper]

end

/-- The components of a normal path are its names. -/
theorem components_normalize (p : Path) :
    p.normalize.components =
      (if p.isAbsolute then [.root] else []) ++ p.normalNames.map .name :=
  components_ofNames fun _ => isName_of_mem_normalNames

theorem isAbsolute_normalize (p : Path) : p.normalize.isAbsolute = p.isAbsolute :=
  isAbsolute_ofNames fun _ => isName_of_mem_normalNames

theorem normalNames_normalize (p : Path) : p.normalize.normalNames = p.normalNames :=
  normalNames_ofNames fun _ => isName_of_mem_normalNames

/-- The normal form of a normal path is the path itself. -/
theorem normalize_normalize (p : Path) : p.normalize.normalize = p.normalize :=
  normalize_ofNames fun _ => isName_of_mem_normalNames

/-- The normal form depends on the components alone. -/
theorem normalize_congr {p q : Path} (same : p.components = q.components) :
    p.normalize = q.normalize := by
  have rooted : p.isAbsolute = q.isAbsolute := by
    rw [Bool.eq_iff_iff, isAbsolute_iff, isAbsolute_iff, same]
  rw [normalize, normalize, normalNames, normalNames, same, rooted]

/-! ## Absolute paths -/

theorem isAbsolute_parent? {p q : Path} (found : p.parent? = some q) (absolute : p.isAbsolute = true) :
    q.isAbsolute = true := by
  obtain ⟨top, -⟩ | ⟨above, last, foundToo, whole, -, named⟩ := parent?_cases p
  · exact absurd (found.symm.trans top) (by simp)
  · obtain rfl : q = above := Option.some.inj (found.symm.trans foundToo)
    rw [isAbsolute_iff, whole, List.mem_append, List.mem_singleton] at absolute
    exact q.isAbsolute_iff.2 (absolute.resolve_right (Ne.symm named))

theorem isAbsolute_of_mem_ancestors {p q : Path} (member : q ∈ p.ancestors)
    (absolute : p.isAbsolute = true) : q.isAbsolute = true := by
  induction p using above_induction with
  | top p top =>
    rw [ancestors_top top, List.mem_singleton] at member
    exact member ▸ absolute
  | below p above found ih =>
    rw [ancestors_below found, List.mem_cons] at member
    obtain rfl | member := member
    · exact absolute
    · exact ih member (isAbsolute_parent? found absolute)

/-- What is seen from a path starts at the root if it does so itself or the path does. -/
theorem isAbsolute_join_eq_or (p q : Path) :
    (p.join q).isAbsolute = (q.isAbsolute || p.isAbsolute) := by
  unfold join
  split
  case isTrue absolute => rw [absolute, Bool.true_or]
  case isFalse relative =>
    rw [Bool.eq_false_iff.2 relative, Bool.false_or]
    obtain ⟨s⟩ := p
    cases s with
    | nil => exact Bool.eq_false_iff.2 relative
    | cons c r => split <;> rfl

theorem isAbsolute_join {p : Path} (q : Path) (absolute : p.isAbsolute = true) :
    (p.join q).isAbsolute = true := by
  rw [isAbsolute_join_eq_or, absolute, Bool.or_true]

/-! ## Around a normal path -/

section

variable {rooted : Bool} {names : List Text}

theorem parent?_ofNames {q : Path} (proper : ∀ name ∈ names, IsName name)
    (found : (ofNames rooted names).parent? = some q) : q = ofNames rooted names.dropLast := by
  have kept {pieces : List Text} (named : ∀ piece ∈ pieces, IsName piece) : trimIdle pieces = pieces := by
    obtain rfl | ⟨init, last, rfl⟩ := List.eq_nil_or_concat pieces
    · rfl
    · have last := (named last (by simp)).named
      simp [trimIdle, last]
  have notHere : (if rooted then ['/'] else [] : Text) ≠ ['.'] := by cases rooted <;> simp
  simp only [parent?, split_ofNames proper] at found
  obtain cut | ⟨rfl, cut⟩ := splitAt_names proper
  · rw [cut, kept proper] at found
    cases names with
    | nil => simp [notHere] at found
    | cons name rest =>
      have below := kept fun piece member => proper piece (List.dropLast_subset _ member)
      simp only [below] at found
      rw [← Option.some.inj found]
      cases rooted <;> rfl
  · rw [cut] at found
    have nothing : trimIdle [[]] = [] := rfl
    simp [nothing, notHere] at found

/-- The path of a piece behind other pieces, names or not. -/
theorem child_ofPieces (proper : ∀ piece ∈ names, IsPiece piece) {name : Text} (piece : IsPiece name) :
    (ofNames rooted names).child name = ofNames rooted (names ++ [name]) := by
  unfold child join
  rw [isAbsolute_of_notMem piece.unmarked, if_neg Bool.false_ne_true]
  obtain rfl | ⟨init, last, rfl⟩ := List.eq_nil_or_concat names
  · cases rooted <;> rfl
  rw [List.concat_eq_append] at proper ⊢
  obtain ⟨unmarked, filled⟩ := proper last (by simp)
  have longer := joinWith_concat '/' name (List.append_ne_nil_of_right_ne_nil init (List.cons_ne_nil last []))
  obtain ⟨before, ends⟩ : ∃ before, (ofNames rooted (init ++ [last])).text = before ++ last := by
    cases init with
    | nil => exact ⟨if rooted then ['/'] else [], by cases rooted <;> rfl⟩
    | cons first rest =>
      have whole := joinWith_concat '/' last (List.cons_ne_nil first rest)
      rw [List.cons_append] at whole
      refine ⟨(ofNames rooted (first :: rest)).text ++ ['/'], ?_⟩
      cases rooted <;> simp [ofNames, whole]
  have unslashed : ¬((ofNames rooted (init ++ [last])).text.isEmpty ||
      (ofNames rooted (init ++ [last])).text.getLast? == Option.some '/') = true := by
    rw [ends]
    obtain rfl | ⟨start, c, rfl⟩ := List.eq_nil_or_concat last
    · exact absurd rfl filled
    · have other : c ≠ '/' := fun slash => unmarked (by simp [slash])
      simp [other]
  rw [if_neg unslashed, ofNames, ofNames, longer]
  cases rooted <;> rfl

theorem child_ofNames (proper : ∀ name ∈ names, IsName name) {name : Text} (named : IsName name) :
    (ofNames rooted names).child name = ofNames rooted (names ++ [name]) :=
  child_ofPieces (fun n member => (proper n member).isPiece) named.isPiece

theorem ofNames_inj {more : List Text} (proper : ∀ piece ∈ names, IsPiece piece)
    (properToo : ∀ piece ∈ more, IsPiece piece) (same : ofNames rooted names = ofNames rooted more) :
    names = more := by
  have text : joinWith '/' names = joinWith '/' more := by
    cases rooted
    · exact congrArg Path.text same
    · exact (List.cons.inj (congrArg Path.text same)).2
  have filled {pieces : List Text} (proper : ∀ piece ∈ pieces, IsPiece piece)
      (empty : joinWith '/' pieces = []) : pieces = [] := by
    cases pieces with
    | nil => rfl
    | cons piece pieces =>
      have inside : piece ⊆ [] := empty ▸ subset_joinWith List.mem_cons_self
      exact absurd (List.subset_nil.1 inside) (proper piece List.mem_cons_self).filled
  cases names with
  | nil => exact (filled properToo text.symm).symm
  | cons name names =>
    cases more with
    | nil => exact filled proper text
    | cons other more =>
      have pieces := congrArg (splitAt '/') text
      rwa [splitAt_joinWith (List.cons_ne_nil _ _) fun n member => (proper n member).unmarked,
        splitAt_joinWith (List.cons_ne_nil _ _) fun n member => (properToo n member).unmarked] at pieces

end

theorem normalize_parent? {p q : Path} (normal : p.normalize = p) (found : p.parent? = some q) :
    q.normalize = q := by
  have proper : ∀ name ∈ p.normalNames, IsName name := fun _ => isName_of_mem_normalNames
  rw [← normal, normalize_eq_ofNames] at found
  rw [parent?_ofNames proper found]
  exact normalize_ofNames fun name member => proper name (List.dropLast_subset _ member)

/-- Every path above a normal path is normal. -/
theorem normalize_of_mem_ancestors {p q : Path} (normal : p.normalize = p) (member : q ∈ p.ancestors) :
    q.normalize = q := by
  induction p using above_induction with
  | top p top =>
    rw [ancestors_top top, List.mem_singleton] at member
    exact member ▸ normal
  | below p above found ih =>
    rw [ancestors_below found, List.mem_cons] at member
    obtain rfl | member := member
    · exact normal
    · exact ih (normalize_parent? normal found) member

/-- A name in a normal directory has a normal path. -/
theorem normalize_child {p : Path} (normal : p.normalize = p) {name : Text} (named : IsName name) :
    (p.child name).normalize = p.child name := by
  have proper : ∀ name ∈ p.normalNames, IsName name := fun _ => isName_of_mem_normalNames
  have below : p.normalize.child name = _ := child_ofNames proper named
  rw [normal] at below
  rw [below]
  exact normalize_ofNames (List.forall_mem_append.2 ⟨proper, List.forall_mem_singleton.2 named⟩)

/-! ## Containment -/

/-- The path is the directory or lies below it. -/
def Contains (directory path : Path) : Prop := directory.components <+: path.components

instance (directory path : Path) : Decidable (Contains directory path) :=
  inferInstanceAs (Decidable (_ <+: _))

/-- What stands in front of the names has no part in the normal form. -/
theorem normalNames_eq (p : Path) :
    p.normalNames = ((componentsOf (splitAt '/' p.text)).foldl step []).reverse := by
  obtain ⟨s⟩ := p
  obtain ⟨body, rfl⟩ | rfl | ⟨body, rfl⟩ | rfl | ⟨piece, pieces, cut, named⟩ := split_cases s
  · rfl
  · rfl
  · rfl
  · rfl
  · rw [normalNames, components_eq]
    simp only [split_of_not_idle cut named]
    rfl

/-- The pieces of what is seen from a path are added to its pieces, up to idle ones. -/
theorem componentsOf_join (p : Path) {t : Text} (relative : isAbsolute ⟨t⟩ = false) :
    componentsOf (splitAt '/' (p.join ⟨t⟩).text) =
      componentsOf (splitAt '/' p.text) ++ componentsOf (splitAt '/' t) := by
  obtain ⟨s⟩ := p
  unfold join
  rw [relative, if_neg Bool.false_ne_true]
  obtain rfl | ⟨init, last, rfl⟩ := List.eq_nil_or_concat s
  · rfl
  rw [List.concat_eq_append]
  by_cases slashed : last = '/'
  · subst slashed
    have closed : componentsOf (splitAt '/' (init ++ ['/'])) = componentsOf (splitAt '/' init) := by
      rw [splitAt_append_mark, componentsOf_append]
      exact List.append_nil _
    rw [if_pos (by simp), closed, ← componentsOf_append, ← splitAt_append_mark]
    simp
  · rw [if_neg (by simp [slashed]), ← componentsOf_append, ← splitAt_append_mark]

/-- What is seen from a path takes its components onto the names of the path. -/
theorem normalNames_join (p : Path) {t : Text} (relative : isAbsolute ⟨t⟩ = false) :
    (p.join ⟨t⟩).normalNames =
      ((componentsOf (splitAt '/' t)).foldl step p.normalNames.reverse).reverse := by
  rw [normalNames_eq, componentsOf_join p relative, List.foldl_append, normalNames_eq p,
    List.reverse_reverse]

/-- The dots of a directory are the directory itself and the one above it. -/
theorem normalNames_child_dots (directory : Path) :
    (directory.child ['.']).normalNames = directory.normalNames ∧
      (directory.child ['.', '.']).normalNames = directory.normalNames.dropLast := by
  constructor
  · exact (normalNames_join directory rfl).trans (List.reverse_reverse _)
  · rw [← List.reverse_reverse directory.normalNames.dropLast, ← List.tail_reverse]
    exact normalNames_join directory rfl

/-- A target without a step up adds its names to those of the directory that it is seen from. -/
theorem normalNames_child (directory : Path) {target : Text} (relative : isAbsolute ⟨target⟩ = false)
    (level : ['.', '.'] ∉ splitAt '/' target) :
    (directory.child target).normalNames =
      directory.normalNames ++ (splitAt '/' target).filter (!isIdle ·) := by
  have names : componentsOf (splitAt '/' target) =
      ((splitAt '/' target).filter (!isIdle ·)).map .name := by
    refine List.map_congr_left fun piece member => if_neg ?_
    rintro rfl
    exact level (List.mem_filter.1 member).1
  rw [child, normalNames_join directory relative, names, foldl_step_names, List.reverse_append,
    List.reverse_reverse, List.reverse_reverse]

/-- So the place that it names lies in the directory. -/
theorem contains_child (directory : Path) {target : Text} (relative : isAbsolute ⟨target⟩ = false)
    (level : ['.', '.'] ∉ splitAt '/' target) :
    directory.normalize.Contains (directory.child target).normalize := by
  have start : (directory.child target).isAbsolute = directory.isAbsolute := by
    rw [child, isAbsolute_join_eq_or, relative, Bool.false_or]
  unfold Contains
  rw [components_normalize, components_normalize, start, normalNames_child directory relative level,
    List.map_append, ← List.append_assoc]
  exact List.prefix_append _ _

end ModuleHooks.Path
