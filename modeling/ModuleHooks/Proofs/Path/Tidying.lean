import Mathlib.Logic.Relation
import ModuleHooks.Proofs.Path.Normal

/-!
Paths with fewer pieces that mean nothing. A slash behind a slash, a dot between slashes and the dot in front
of a relative path can be left out one after another (`Tidies`), also below a directory (`Tidies.join`). What
is left of the path of a package's manifest names it by its directory and its last name
(`tidiesTo_named`).
-/
namespace ModuleHooks.Path

open Text

/-- One piece that means nothing is left out: a slash behind a slash, a dot between slashes, or the dot that
something relative stands behind. -/
inductive Tidies : Path → Path → Prop
  | slash (s t : Text) : Tidies ⟨s ++ '/' :: '/' :: t⟩ ⟨s ++ '/' :: t⟩
  | dot (s t : Text) : Tidies ⟨s ++ '/' :: '.' :: '/' :: t⟩ ⟨s ++ '/' :: t⟩
  | start {c : Char} (relative : c ≠ '/') (t : Text) : Tidies ⟨'.' :: '/' :: c :: t⟩ ⟨c :: t⟩

/-- Any number of pieces that mean nothing are left out. -/
abbrev TidiesTo : Path → Path → Prop := Relation.ReflTransGen Tidies

/-! ## Joining -/

/-- The text with a slash behind it, unless it is empty or ends in one. -/
def slashed (s : Text) : Text := if s.isEmpty || s.getLast? == some '/' then s else s ++ ['/']

variable {p q : Path} {s t v name : Text}

theorem join_of_relative (relative : q.isAbsolute = false) : p.join q = ⟨slashed p.text ++ q.text⟩ := by
  unfold join slashed
  rw [relative, if_neg Bool.false_ne_true]
  split
  · rfl
  · rw [List.append_assoc, List.singleton_append]

theorem join_of_isAbsolute (absolute : q.isAbsolute = true) : p.join q = q := if_pos absolute

theorem slashed_cases (s : Text) : s = [] ∧ slashed s = [] ∨ ∃ t, slashed s = t ++ ['/'] := by
  unfold slashed
  obtain rfl | ⟨init, last, rfl⟩ := List.eq_nil_or_concat s
  · exact .inl ⟨rfl, rfl⟩
  · rw [List.concat_eq_append]
    by_cases closed : last = '/'
    · exact .inr ⟨init, by simp [closed]⟩
    · exact .inr ⟨init ++ [last], by simp [closed]⟩

theorem slashed_slashed (s : Text) : slashed (slashed s) = slashed s := by
  obtain ⟨-, nothing⟩ | ⟨t, closed⟩ := slashed_cases s
  · rw [nothing]
    rfl
  · rw [closed]
    simp [slashed]

theorem slashed_append (s : Text) (some : t ≠ []) : slashed (s ++ t) = s ++ slashed t := by
  unfold slashed
  obtain ⟨init, last, rfl⟩ := (List.eq_nil_or_concat t).resolve_left some
  rw [List.concat_eq_append]
  by_cases closed : last = '/'
  · simp [closed]
  · simp [closed]

/-- What is seen from a path that is itself seen from another. -/
theorem join_join (p q r : Path) : (p.join q).join r = p.join (q.join r) := by
  cases last : r.isAbsolute with
  | true => rw [join_of_isAbsolute last, join_of_isAbsolute last, join_of_isAbsolute last]
  | false =>
    cases middle : q.isAbsolute with
    | true => rw [join_of_isAbsolute middle, join_of_isAbsolute (isAbsolute_join r middle)]
    | false =>
      obtain ⟨s⟩ := q
      rw [join_of_relative last, join_of_relative middle, join_of_relative last]
      cases s with
      | nil =>
        rw [List.append_nil, slashed_slashed]
        exact (join_of_relative last).symm
      | cons c s =>
        have relative : isAbsolute ⟨slashed (c :: s) ++ r.text⟩ = false := by
          rw [← middle]
          unfold slashed
          split <;> rfl
        rw [join_of_relative relative, slashed_append _ (List.cons_ne_nil c s), List.append_assoc]

/-- A name is relative, and there is something to it. -/
theorem IsName.relative (named : IsName name) : ∃ c t, name = c :: t ∧ c ≠ '/' := by
  cases name with
  | nil => exact nomatch named.named
  | cons c t => exact ⟨c, t, rfl, fun slash => named.unmarked (by simp [slash])⟩

theorem IsName.isAbsolute (named : IsName name) : isAbsolute ⟨name⟩ = false :=
  isAbsolute_of_notMem named.unmarked

/-- The text of a name behind a path. -/
theorem child_eq (p : Path) (named : IsName name) : p.child name = ⟨slashed p.text ++ name⟩ :=
  join_of_relative named.isAbsolute

/-- What stands behind a slash has no part in where a path starts. -/
theorem isAbsolute_append_slash (s t u : Text) : isAbsolute ⟨s ++ '/' :: t⟩ = isAbsolute ⟨s ++ '/' :: u⟩ := by
  cases s <;> rfl

/-- What is left out below a path is left out of the whole. -/
theorem Tidies.join (root : Path) (step : Tidies p q) : Tidies (root.join p) (root.join q) := by
  cases step with
  | slash s t =>
    have too := isAbsolute_append_slash s t ('/' :: t)
    cases absolute : isAbsolute ⟨s ++ '/' :: '/' :: t⟩ with
    | true =>
      rw [join_of_isAbsolute absolute, join_of_isAbsolute (too.trans absolute)]
      exact .slash s t
    | false =>
      rw [join_of_relative absolute, join_of_relative (too.trans absolute), ← List.append_assoc,
        ← List.append_assoc]
      exact .slash _ t
  | dot s t =>
    have too := isAbsolute_append_slash s t ('.' :: '/' :: t)
    cases absolute : isAbsolute ⟨s ++ '/' :: '.' :: '/' :: t⟩ with
    | true =>
      rw [join_of_isAbsolute absolute, join_of_isAbsolute (too.trans absolute)]
      exact .dot s t
    | false =>
      rw [join_of_relative absolute, join_of_relative (too.trans absolute), ← List.append_assoc,
        ← List.append_assoc]
      exact .dot _ t
  | @start c relative t =>
    have plain : isAbsolute ⟨c :: t⟩ = false := by simpa [isAbsolute] using relative
    rw [join_of_relative rfl, join_of_relative plain]
    obtain ⟨-, nothing⟩ | ⟨front, closed⟩ := slashed_cases root.text
    · rw [nothing]
      exact .start relative t
    · rw [closed, List.append_assoc, List.append_assoc]
      exact .dot front (c :: t)

theorem TidiesTo.join (root : Path) (tidies : TidiesTo p q) : TidiesTo (root.join p) (root.join q) :=
  Relation.ReflTransGen.lift (root.join ·) (fun _ _ step => step.join root) _ _ tidies

/-! ## In front and between -/

/-- So many dots for the starting directory, each with its slash. -/
def here (n : Nat) : Text := (List.replicate n ['.', '/']).flatten

theorem here_succ_append (n : Nat) (s : Text) : here (n + 1) ++ s = '.' :: '/' :: (here n ++ s) := rfl

theorem slashed_here_append (n : Nat) (s : Text) : slashed (here n ++ s) = here n ++ slashed s := by
  cases s with
  | nil =>
    rw [List.append_nil, show slashed [] = [] from rfl, List.append_nil]
    induction n with
    | zero => rfl
    | succ n ih =>
      cases n with
      | zero => rfl
      | succ n => exact (slashed_append ['.', '/'] (List.cons_ne_nil '.' _)).trans (congrArg _ ih)
  | cons c s => exact slashed_append _ (List.cons_ne_nil c s)

/-- A name behind dots for the starting directory stands behind what follows them. -/
theorem child_here_append (n : Nat) (s : Text) (named : IsName name) :
    child ⟨here n ++ s⟩ name = ⟨here n ++ (child ⟨s⟩ name).text⟩ := by
  rw [child_eq _ named, child_eq _ named, slashed_here_append, List.append_assoc]

theorem tidiesTo_here (n : Nat) {c : Char} (relative : c ≠ '/') (t : Text) :
    TidiesTo ⟨here n ++ c :: t⟩ ⟨c :: t⟩ := by
  induction n with
  | zero => exact .refl
  | succ n ih =>
    rw [here_succ_append]
    refine Relation.ReflTransGen.head ?_ ih
    cases n with
    | zero => exact .start relative t
    | succ n => exact .start (by decide) ('/' :: (here n ++ c :: t))

/-- What stands behind dots for the starting directory is found without them. -/
theorem tidiesTo_join_here (root : Path) (n : Nat)
    (first : n = 0 ∨ ∃ c t, s = c :: t ∧ c ≠ '/') :
    TidiesTo (root.join ⟨here n ++ s⟩) (root.join ⟨s⟩) := by
  rcases first with rfl | ⟨c, t, rfl, relative⟩
  · exact .refl
  · exact (tidiesTo_here n relative t).join root

/-- A name behind something relative is relative. -/
theorem relative_child (relative : isAbsolute ⟨s⟩ = false) (named : IsName name) :
    ∃ c t, (child ⟨s⟩ name).text = c :: t ∧ c ≠ '/' := by
  rw [child_eq _ named]
  cases s with
  | nil => exact named.relative
  | cons c s =>
    have other : c ≠ '/' := by simpa [isAbsolute] using relative
    obtain ⟨t, whole⟩ : ∃ t, slashed (c :: s) = c :: t := by
      unfold slashed
      split
      · exact ⟨s, rfl⟩
      · exact ⟨s ++ ['/'], rfl⟩
    exact ⟨c, t ++ name, by rw [whole]; rfl, other⟩

/-- Pieces that mean nothing are left out behind a slash. -/
theorem tidiesTo_idle (s : Text) {idle rest : List Text} (nothing : ∀ piece ∈ idle, isIdle piece = true)
    (some : rest ≠ []) :
    TidiesTo ⟨s ++ '/' :: joinWith '/' (idle ++ rest)⟩ ⟨s ++ '/' :: joinWith '/' rest⟩ := by
  induction idle with
  | nil => exact .refl
  | cons piece idle ih =>
    obtain ⟨first, others⟩ := List.forall_mem_cons.1 nothing
    rw [List.cons_append, joinWith_cons '/' piece (List.append_ne_nil_of_right_ne_nil idle some)]
    refine Relation.ReflTransGen.head ?_ (ih others)
    obtain rfl | rfl : piece = [] ∨ piece = ['.'] := by simpa [isIdle] using first
    · exact .slash s _
    · exact .dot s _

/-- So many slashes at the end of a path are one when a name follows. -/
theorem tidiesTo_slashes (n : Nat) (filled : s ≠ []) (unclosed : s.getLast? ≠ some '/') (named : IsName name) :
    TidiesTo (child ⟨s ++ List.replicate n '/'⟩ name) (child ⟨s⟩ name) := by
  have one : slashed s = s ++ ['/'] := by
    cases s with
    | nil => exact absurd rfl filled
    | cons c s => simpa [slashed] using unclosed
  have many (n : Nat) : slashed (s ++ List.replicate (n + 1) '/') = s ++ List.replicate (n + 1) '/' := by
    simp [slashed, List.replicate_succ']
  rw [child_eq _ named, child_eq _ named, one]
  cases n with
  | zero =>
    rw [List.replicate_zero, List.append_nil, one]
  | succ n =>
    rw [many]
    induction n with
    | zero => exact .refl
    | succ n ih =>
      refine Relation.ReflTransGen.head ?_ ih
      have long := Tidies.slash s (List.replicate n '/' ++ name)
      simpa [List.replicate_succ] using long

/-! ## The last name of a path -/

theorem componentsOf_here (n : Nat) (s : Text) :
    componentsOf (splitAt '/' (here n ++ s)) = componentsOf (splitAt '/' s) := by
  induction n with
  | zero => rfl
  | succ n ih => exact ih

theorem componentsOf_slashes (m : Nat) (s : Text) :
    componentsOf (splitAt '/' (s ++ List.replicate m '/')) = componentsOf (splitAt '/' s) := by
  induction m with
  | zero => rw [List.replicate_zero, List.append_nil]
  | succ m ih =>
    have closed := splitAt_append_mark '/' (s ++ List.replicate m '/') []
    rw [List.replicate_succ', ← List.append_assoc, closed, componentsOf_append, ih]
    exact List.append_nil _

/-- The components of a path are those of its pieces, behind what it starts with. -/
theorem exists_leading (p : Path) :
    ∃ front, (front = [] ∨ front = [.root] ∨ front = [.here]) ∧
      p.components = front ++ componentsOf (splitAt '/' p.text) := by
  obtain ⟨s⟩ := p
  obtain ⟨body, rfl⟩ | rfl | ⟨body, rfl⟩ | rfl | ⟨piece, pieces, cut, first⟩ := split_cases s
  · exact ⟨[.root], by simp, rfl⟩
  · exact ⟨[.here], by simp, rfl⟩
  · exact ⟨[.here], by simp, rfl⟩
  · exact ⟨[], by simp, rfl⟩
  · refine ⟨[], by simp, ?_⟩
    rw [components_eq]
    simp only [split_of_not_idle cut first]
    rfl

/-- The last name of a path is that of its pieces. -/
theorem fileName?_eq (p : Path) :
    p.fileName? =
      match (componentsOf (splitAt '/' p.text)).getLast? with
      | some (.name n) => some n
      | _ => none := by
  obtain ⟨front, fronts, whole⟩ := exists_leading p
  rw [fileName?, whole]
  generalize componentsOf (splitAt '/' p.text) = names
  obtain rfl | ⟨init, last, rfl⟩ := List.eq_nil_or_concat names
  · rcases fronts with rfl | rfl | rfl <;> rfl
  · cases last <;> simp only [List.concat_eq_append, ← List.append_assoc, List.getLast?_concat]

theorem fileName?_congr
    (same : componentsOf (splitAt '/' p.text) = componentsOf (splitAt '/' q.text)) :
    p.fileName? = q.fileName? := by
  rw [fileName?_eq, fileName?_eq, same]

/-- A path with a last name has a path above it. -/
theorem exists_parent? (last : p.fileName? = some name) :
    ∃ above, p.parent? = some above := by
  obtain ⟨-, top | top⟩ | ⟨above, -, found, -⟩ := parent?_cases p
  · exact absurd last (by simp [fileName?, top])
  · exact absurd last (by simp [fileName?, top])
  · exact ⟨above, found⟩

theorem fileName?_child (p : Path) (named : IsName name) : (p.child name).fileName? = some name := by
  rw [fileName?, components_child p named.unmarked named.named named.down, List.getLast?_concat]

theorem slashed_piece (unmarked : '/' ∉ s) (some : s ≠ []) : slashed s = s ++ ['/'] := by
  obtain ⟨init, last, rfl⟩ := (List.eq_nil_or_concat s).resolve_left some
  rw [List.concat_eq_append] at unmarked ⊢
  have other : last ≠ '/' := fun slash => unmarked (by simp [slash])
  simp [slashed, other]

theorem slashed_joinWith (front : Text) (pieces : List Text) (unmarked : '/' ∉ s) (some : s ≠ []) :
    slashed (front ++ joinWith '/' (pieces ++ [s])) = front ++ joinWith '/' (pieces ++ [s]) ++ ['/'] := by
  cases pieces with
  | nil => exact (slashed_append front some).trans (by rw [slashed_piece unmarked some]; simp [joinWith])
  | cons piece pieces =>
    rw [joinWith_concat '/' s (List.cons_ne_nil piece pieces), slashed_append front (by simp),
      slashed_append _ (List.cons_ne_nil '/' s), show '/' :: s = ['/'] ++ s from rfl,
      slashed_append ['/'] some, slashed_piece unmarked some]
    simp

theorem child_joinWith {front : Text} {pieces : List Text} (some : pieces ≠ [])
    (closed : slashed (front ++ joinWith '/' pieces) = front ++ joinWith '/' pieces ++ ['/'])
    (named : IsName name) :
    child ⟨front ++ joinWith '/' pieces⟩ name = ⟨front ++ joinWith '/' (pieces ++ [name])⟩ := by
  rw [child_eq _ named, closed, joinWith_concat '/' name some]
  simp

/-- The last name of a path is a piece of it with only idle ones behind it, and the path above ends with what
means something in front of it. -/
theorem exists_pieces {slug : Text} {above : Path} (last : fileName? ⟨v⟩ = some slug)
    (found : parent? ⟨v⟩ = some above) :
    ∃ init idle, splitAt '/' (split v).2 = init ++ slug :: idle ∧ (∀ piece ∈ idle, isIdle piece = true) ∧
      above = ⟨(split v).1 ++ joinWith '/' (trimIdle init)⟩ ∧ IsName slug := by
  obtain ⟨idle, whole, nothing⟩ := exists_idle (splitAt '/' (split v).2)
  have ends : (components ⟨v⟩).getLast? = some (.name slug) := by
    unfold fileName? at last
    split at last
    case h_1 n ends => rw [ends, Option.some.inj last]
    case h_2 => exact nomatch last
  have named : IsName slug := isName_of_mem_components (List.mem_of_getLast? ends)
  rw [components_eq, ← componentsOf_trimIdle] at ends
  obtain empty | ⟨init, piece, trimmed⟩ := List.eq_nil_or_concat (trimIdle (splitAt '/' (split v).2))
  · rw [empty, componentsOf_nil, List.append_nil] at ends
    unfold leading at ends
    split at ends <;> simp at ends
  · rw [List.concat_eq_append] at trimmed
    have kept := isIdle_of_trimIdle trimmed
    rw [trimmed, componentsOf_append, componentsOf_cons_of_not_idle [] kept, componentsOf_nil,
      ← List.append_assoc, List.getLast?_concat, componentOf] at ends
    obtain rfl : piece = slug := by
      split at ends
      · simp at ends
      · simpa using ends
    refine ⟨init, idle, by rw [whole, trimmed]; simp, nothing, ?_, named⟩
    simp only [parent?, trimmed] at found
    cases init with
    | nil => exact (Option.some.inj found).symm
    | cons first init =>
      simp only [List.cons_append] at found
      rw [← List.cons_append, List.dropLast_concat] at found
      exact (Option.some.inj found).symm

theorem joinWith_append {pieces more : List Text} (some : pieces ≠ []) (further : more ≠ []) :
    joinWith '/' (pieces ++ more) = joinWith '/' pieces ++ '/' :: joinWith '/' more := by
  induction pieces with
  | nil => exact absurd rfl some
  | cons piece rest ih =>
    cases rest with
    | nil => exact joinWith_cons '/' piece further
    | cons next rest =>
      rw [List.cons_append, joinWith_cons '/' piece (by simp), joinWith_cons '/' piece (by simp),
        ih (by simp), List.append_assoc]
      rfl

/-- In front of the names of a path without a dot at its start there is a slash or nothing, and nothing only
if the first piece means something. -/
theorem front_cases (plain : ¬['.', '/'] <+: v) (named : (fileName? ⟨v⟩).isSome = true) :
    (split v).1 = ['/'] ∨
      (split v).1 = [] ∧ ∃ piece pieces, splitAt '/' (split v).2 = piece :: pieces ∧ isIdle piece = false := by
  obtain ⟨body, rfl⟩ | rfl | ⟨body, rfl⟩ | rfl | ⟨piece, pieces, cut, first⟩ := split_cases v
  · exact .inl rfl
  · exact nomatch named
  · exact absurd ⟨body, rfl⟩ plain
  · exact nomatch named
  · have whole := split_of_not_idle cut first
    rw [whole]
    exact .inr ⟨rfl, piece, pieces, cut, first⟩

/-- Idle pieces between others are left out. -/
theorem tidiesTo_between (front : Text) {kept idle rest : List Text} (some : kept ≠ [])
    (nothing : ∀ piece ∈ idle, isIdle piece = true) (further : rest ≠ []) :
    TidiesTo ⟨front ++ joinWith '/' (kept ++ (idle ++ rest))⟩ ⟨front ++ joinWith '/' (kept ++ rest)⟩ := by
  rw [joinWith_append some (List.append_ne_nil_of_right_ne_nil idle further), joinWith_append some further,
    ← List.append_assoc, ← List.append_assoc]
  exact tidiesTo_idle _ nothing further

theorem ne_nil_of_not_idle {piece : Text} (meaning : isIdle piece = false) : piece ≠ [] :=
  fun empty => Bool.false_ne_true (meaning.symm.trans (congrArg isIdle empty))

/-- Two names behind what a path starts with. -/
theorem child_child_front {front slug : Text} (fronts : front = [] ∨ front = ['/']) (proper : IsName slug)
    (named : IsName name) : child (child ⟨front⟩ slug) name = ⟨front ++ joinWith '/' [slug, name]⟩ := by
  have filled := ne_nil_of_not_idle proper.named
  rw [child_eq _ proper, child_eq _ named, slashed_append _ filled, slashed_piece proper.unmarked filled]
  rcases fronts with rfl | rfl <;> simp [joinWith, slashed]

/-- Two names behind pieces of which the last means something. -/
theorem child_child_joinWith {slug last : Text} (front : Text) (pieces : List Text) (unmarked : '/' ∉ last)
    (meaning : isIdle last = false) (proper : IsName slug) (named : IsName name) :
    child (child ⟨front ++ joinWith '/' (pieces ++ [last])⟩ slug) name =
      ⟨front ++ joinWith '/' (pieces ++ [last] ++ [slug, name])⟩ := by
  rw [child_joinWith (by simp) (slashed_joinWith front pieces unmarked (ne_nil_of_not_idle meaning)) proper,
    child_joinWith (by simp) (slashed_joinWith front _ proper.unmarked (ne_nil_of_not_idle proper.named)) named]
  simp

/-- The idle pieces in front of two names are left out, if the path does not start with one. -/
theorem tidiesTo_trimIdle {front slug : Text} {init : List Text}
    (starts : front = ['/'] ∨ front = [] ∧ ∀ piece ∈ init.head?, isIdle piece = false)
    (unmarked : ∀ piece ∈ init, '/' ∉ piece) (proper : IsName slug) (named : IsName name) :
    TidiesTo ⟨front ++ joinWith '/' (init ++ [slug, name])⟩
      (child (child ⟨front ++ joinWith '/' (trimIdle init)⟩ slug) name) := by
  obtain ⟨between, whole, nothing⟩ := exists_idle init
  obtain kept | ⟨more, last, kept⟩ := List.eq_nil_or_concat (trimIdle init)
  · rw [kept, List.nil_append] at whole
    rw [kept, joinWith, List.append_nil,
      child_child_front (starts.symm.imp_left And.left) proper named, whole]
    obtain rfl | ⟨rfl, first⟩ := starts
    · exact tidiesTo_idle [] nothing (List.cons_ne_nil slug _)
    · cases between with
      | nil => exact .refl
      | cons piece rest =>
        have meaning := first piece (by rw [whole]; rfl)
        exact absurd (nothing piece List.mem_cons_self) (Bool.eq_false_iff.1 meaning)
  · rw [List.concat_eq_append] at kept
    have inside : last ∈ init := by rw [whole, kept]; simp
    rw [kept, child_child_joinWith front more (unmarked last inside) (isIdle_of_trimIdle kept) proper named]
    rw [kept] at whole
    rw [whole, List.append_assoc]
    exact tidiesTo_between front (List.append_ne_nil_of_right_ne_nil more (List.cons_ne_nil last [])) nothing
      (List.cons_ne_nil slug _)

/-- What is in a directory that a path names is found there under the last name of the path in the path above. -/
theorem tidiesTo_named {slug : Text} {above : Path} (plain : ¬['.', '/'] <+: v)
    (closed : slashed v = v ++ ['/']) (last : fileName? ⟨v⟩ = some slug) (found : parent? ⟨v⟩ = some above)
    (named : IsName name) : TidiesTo (child ⟨v⟩ name) ((above.child slug).child name) := by
  obtain ⟨init, idle, cut, nothing, rfl, proper⟩ := exists_pieces last found
  have text : v = (split v).1 ++ joinWith '/' (init ++ slug :: idle) := by
    rw [← cut, joinWith_splitAt, split_append]
  have unmarked : ∀ piece ∈ init, '/' ∉ piece := fun piece member =>
    notMem_of_mem_splitAt (s := (split v).2) (by rw [cut]; exact List.mem_append_left _ member)
  have starts : (split v).1 = ['/'] ∨ (split v).1 = [] ∧ ∀ piece ∈ init.head?, isIdle piece = false := by
    refine (front_cases plain (by rw [last]; rfl)).imp_right fun ⟨nothing, piece, pieces, cutToo, meaning⟩ =>
      ⟨nothing, fun first leads => ?_⟩
    obtain ⟨rest, rfl⟩ := List.head?_eq_some_iff.1 leads
    obtain rfl : first = piece := (List.cons.inj (cut.symm.trans cutToo)).1
    exact meaning
  -- The idle pieces behind the last name go first, then those in front of it.
  have short : TidiesTo (child ⟨v⟩ name) ⟨(split v).1 ++ joinWith '/' (init ++ [slug, name])⟩ := by
    generalize (split v).1 = front at text
    rw [text] at closed
    rw [text, child_joinWith (by simp) closed named]
    simpa using tidiesTo_between front (List.append_ne_nil_of_right_ne_nil init (List.cons_ne_nil slug []))
      nothing (List.cons_ne_nil name [])
  exact short.trans (tidiesTo_trimIdle starts unmarked proper named)

end ModuleHooks.Path
