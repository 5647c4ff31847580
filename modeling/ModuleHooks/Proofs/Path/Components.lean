import ModuleHooks.Path.Normal
import ModuleHooks.Proofs.Pieces

/-!
Paths by their components. The path above another one has its components but the last, and the path of
a name in a directory has one component more; so the directories above a path are, up to spelling, a
matter of its components.
-/
namespace ModuleHooks.Path

open Text

/-- The components that pieces between slashes stand for. -/
def componentsOf (pieces : List Text) : List Component :=
  (pieces.filter (!isIdle ·)).map componentOf

@[simp] theorem componentsOf_nil : componentsOf [] = [] := rfl

theorem componentsOf_append (pieces more : List Text) :
    componentsOf (pieces ++ more) = componentsOf pieces ++ componentsOf more := by
  simp [componentsOf]

theorem componentsOf_cons_of_idle {piece : Text} (pieces : List Text) (idle : isIdle piece = true) :
    componentsOf (piece :: pieces) = componentsOf pieces := by
  simp [componentsOf, idle]

theorem componentsOf_cons_of_not_idle {piece : Text} (pieces : List Text)
    (named : isIdle piece = false) :
    componentsOf (piece :: pieces) = componentOf piece :: componentsOf pieces := by
  simp [componentsOf, named]

theorem componentsOf_eq_nil {pieces : List Text} (idle : ∀ piece ∈ pieces, isIdle piece = true) :
    componentsOf pieces = [] := by
  simpa [componentsOf, List.filter_eq_nil_iff] using idle

theorem isIdle_nil : isIdle [] = true := rfl

/-! ## Idle pieces at the end -/

/-- Pieces are those that are kept and idle ones behind them. -/
theorem exists_idle (pieces : List Text) :
    ∃ idle, pieces = trimIdle pieces ++ idle ∧ ∀ piece ∈ idle, isIdle piece = true := by
  refine ⟨(pieces.reverse.takeWhile isIdle).reverse, ?_, fun piece member => ?_⟩
  · rw [trimIdle, ← List.reverse_append, List.takeWhile_append_dropWhile, List.reverse_reverse]
  · exact List.all_eq_true.1 List.all_takeWhile piece (List.mem_reverse.1 member)

theorem componentsOf_trimIdle (pieces : List Text) :
    componentsOf (trimIdle pieces) = componentsOf pieces := by
  obtain ⟨idle, whole, nothing⟩ := exists_idle pieces
  calc
    componentsOf (trimIdle pieces) = componentsOf (trimIdle pieces) ++ componentsOf idle := by
      rw [componentsOf_eq_nil nothing, List.append_nil]
    _ = componentsOf pieces := by rw [← componentsOf_append, ← whole]

theorem isIdle_of_trimIdle {pieces init : List Text} {last : Text}
    (trimmed : trimIdle pieces = init ++ [last]) : isIdle last = false := by
  have reversed : pieces.reverse.dropWhile isIdle = last :: init.reverse := by
    rw [← List.reverse_reverse (pieces.reverse.dropWhile isIdle), ← trimIdle, trimmed]
    simp
  have kept := List.head?_dropWhile_not isIdle pieces.reverse
  rw [reversed] at kept
  simpa using kept

theorem notMem_of_mem_trimIdle {mark : Char} {s piece : Text}
    (member : piece ∈ trimIdle (splitAt mark s)) : mark ∉ piece := by
  obtain ⟨idle, whole, -⟩ := exists_idle (splitAt mark s)
  refine notMem_of_mem_splitAt (s := s) ?_
  rw [whole]
  exact List.mem_append_left idle member

/-! ## A path from its pieces -/

theorem components_slash {pieces : List Text} (unmarked : ∀ piece ∈ pieces, '/' ∉ piece) :
    components ⟨'/' :: joinWith '/' pieces⟩ = .root :: componentsOf pieces := by
  cases pieces with
  | nil => rfl
  | cons piece rest =>
    show leading ['/'] ++ componentsOf (splitAt '/' (joinWith '/' (piece :: rest))) = _
    rw [splitAt_joinWith (by simp) unmarked]
    rfl

theorem components_here {pieces : List Text} (unmarked : ∀ piece ∈ pieces, '/' ∉ piece) :
    components ⟨'.' :: '/' :: joinWith '/' pieces⟩ = .here :: componentsOf pieces := by
  show leading ['.'] ++ componentsOf (splitAt '/' ('/' :: joinWith '/' pieces)) = _
  have opened : splitAt '/' ('/' :: joinWith '/' pieces) = [] :: splitAt '/' (joinWith '/' pieces) := rfl
  rw [opened, componentsOf_cons_of_idle _ isIdle_nil]
  cases pieces with
  | nil => rfl
  | cons piece rest =>
    rw [splitAt_joinWith (by simp) unmarked]
    rfl

/-- A text whose first piece means something has nothing in front of its names. -/
theorem split_of_not_idle {s piece : Text} {pieces : List Text}
    (cut : splitAt '/' s = piece :: pieces) (named : isIdle piece = false) : split s = ([], s) := by
  unfold split
  split
  case h_1 body =>
    obtain rfl : [] = piece := (List.cons.inj cut).1
    exact nomatch named
  case h_2 =>
    obtain rfl : ['.'] = piece := (List.cons.inj cut).1
    exact nomatch named
  case h_3 body =>
    obtain rfl : ['.'] = piece := (List.cons.inj cut).1
    exact nomatch named
  case h_4 => rfl

theorem components_names {piece : Text} {pieces : List Text}
    (unmarked : ∀ p ∈ piece :: pieces, '/' ∉ p) (named : isIdle piece = false) :
    components ⟨joinWith '/' (piece :: pieces)⟩ = componentsOf (piece :: pieces) := by
  have cut := splitAt_joinWith (by simp) unmarked
  unfold components
  simp only [split_of_not_idle cut named, cut]
  rfl

/-- How a text begins: with a slash, with a dot for the starting directory, or with a piece that means
something, unless it is empty. -/
theorem split_cases (s : Text) :
    (∃ body, s = '/' :: body) ∨ s = ['.'] ∨ (∃ body, s = '.' :: '/' :: body) ∨ s = [] ∨
      ∃ piece pieces, splitAt '/' s = piece :: pieces ∧ isIdle piece = false := by
  cases s with
  | nil => simp
  | cons c r =>
    by_cases slash : c = '/'
    · simp [slash]
    obtain ⟨piece, pieces, cut⟩ := List.exists_cons_of_ne_nil (splitAt_ne_nil '/' r)
    by_cases dot : c = '.'
    · subst dot
      cases r with
      | nil => simp
      | cons d t =>
        by_cases slashed : d = '/'
        · simp [slashed]
        obtain ⟨next, rest, cutRest⟩ := List.exists_cons_of_ne_nil (splitAt_ne_nil '/' t)
        refine .inr (.inr (.inr (.inr ⟨_, _, splitAt_cons_of_ne slash
          (splitAt_cons_of_ne slashed cutRest), by simp [isIdle]⟩)))
    · exact .inr (.inr (.inr (.inr ⟨_, _, splitAt_cons_of_ne slash cut, by simp [isIdle, dot]⟩)))

/-! ## The path above -/

theorem split_append (s : Text) : (split s).1 ++ (split s).2 = s := by
  unfold split
  split <;> rfl

theorem components_eq (p : Path) :
    p.components = leading (split p.text).1 ++ componentsOf (splitAt '/' (split p.text).2) := rfl

/-- What is kept of pieces begins with the first of them, unless nothing is kept. -/
theorem trimIdle_cons (piece : Text) (pieces : List Text) :
    trimIdle (piece :: pieces) = [] ∧ isIdle piece = true ∨
      ∃ kept, trimIdle (piece :: pieces) = piece :: kept := by
  obtain ⟨idle, whole, nothing⟩ := exists_idle (piece :: pieces)
  cases trimmed : trimIdle (piece :: pieces) with
  | nil =>
    rw [trimmed, List.nil_append] at whole
    exact .inl ⟨rfl, nothing piece (by simp [← whole])⟩
  | cons first kept =>
    rw [trimmed, List.cons_append] at whole
    obtain rfl : piece = first := (List.cons.inj whole).1
    exact .inr ⟨kept, rfl⟩

theorem head_of_trimIdle {piece last : Text} {pieces init : List Text}
    (trimmed : trimIdle (piece :: pieces) = init ++ [last]) :
    init = [] ∧ last = piece ∨ ∃ more, init = piece :: more := by
  obtain ⟨nothing, -⟩ | ⟨kept, some⟩ := trimIdle_cons piece pieces
  · exact absurd (nothing.symm.trans trimmed) (by simp)
  rw [some] at trimmed
  cases init with
  | nil => exact .inl ⟨rfl, (List.cons.inj trimmed).1.symm⟩
  | cons first more =>
    obtain rfl : piece = first := (List.cons.inj trimmed).1
    exact .inr ⟨more, rfl⟩

private theorem components_here_trimIdle {init : List Text}
    (unmarked : ∀ piece ∈ trimIdle ([] :: init), '/' ∉ piece) :
    components ⟨'.' :: joinWith '/' (trimIdle ([] :: init))⟩ = .here :: componentsOf ([] :: init) := by
  rw [← componentsOf_trimIdle ([] :: init)]
  obtain ⟨nothing, -⟩ | ⟨more, some⟩ := trimIdle_cons [] init
  · rw [nothing]
    rfl
  · rw [some] at unmarked ⊢
    cases more with
    | nil => rfl
    | cons next more =>
      rw [joinWith_cons '/' [] (by simp), componentsOf_cons_of_idle _ isIdle_nil]
      exact components_here (List.forall_mem_cons.1 unmarked).2

private theorem components_names_trimIdle {piece : Text} {init : List Text}
    (unmarked : ∀ p ∈ trimIdle (piece :: init), '/' ∉ p) (named : isIdle piece = false) :
    components ⟨joinWith '/' (trimIdle (piece :: init))⟩ = componentsOf (piece :: init) := by
  rw [← componentsOf_trimIdle (piece :: init)]
  obtain ⟨-, idle⟩ | ⟨more, some⟩ := trimIdle_cons piece init
  · exact absurd (named.symm.trans idle) (by simp)
  · rw [some] at unmarked ⊢
    exact components_names unmarked named

/-- Where the last name is taken off, the front stays in front. -/
theorem components_front {s : Text} {init : List Text} {last : Text}
    (trimmed : trimIdle (splitAt '/' (split s).2) = init ++ [last]) :
    components ⟨(split s).1 ++ joinWith '/' (trimIdle init)⟩ =
      leading (split s).1 ++ componentsOf init := by
  have unmarked : ∀ piece ∈ trimIdle init, '/' ∉ piece := by
    intro piece member
    obtain ⟨idle, whole, -⟩ := exists_idle init
    refine notMem_of_mem_trimIdle (s := (split s).2) ?_
    rw [trimmed, whole, List.append_assoc]
    exact List.mem_append_left _ member
  obtain ⟨body, rfl⟩ | rfl | ⟨body, rfl⟩ | rfl | ⟨piece, pieces, cut, named⟩ := split_cases s
  · rw [← componentsOf_trimIdle init]
    exact components_slash unmarked
  · exact absurd trimmed (by simp [split, splitAt, trimIdle, isIdle])
  · -- The piece in front of the slash is idle, so it is not the last of those that are kept.
    have opened : splitAt '/' (split ('.' :: '/' :: body)).2 = [] :: splitAt '/' body := rfl
    rw [opened] at trimmed
    obtain ⟨-, rfl⟩ | ⟨more, rfl⟩ := head_of_trimIdle trimmed
    · exact absurd (isIdle_of_trimIdle trimmed) (by simp [isIdle_nil])
    · exact components_here_trimIdle unmarked
  · exact absurd trimmed (by simp [split, splitAt, trimIdle, isIdle])
  · have whole := split_of_not_idle cut named
    simp only [whole] at trimmed ⊢
    rw [cut] at trimmed
    obtain ⟨rfl, -⟩ | ⟨more, rfl⟩ := head_of_trimIdle trimmed
    · rfl
    · exact components_names_trimIdle unmarked named

/-- The text without its last name is shorter. -/
theorem length_front {s : Text} {init : List Text} {last : Text}
    (trimmed : trimIdle (splitAt '/' (split s).2) = init ++ [last]) :
    ((split s).1 ++ joinWith '/' (trimIdle init)).length < s.length := by
  obtain ⟨idle, whole, -⟩ := exists_idle (splitAt '/' (split s).2)
  obtain ⟨idleInside, inside, -⟩ := exists_idle init
  have named : 0 < last.length := by
    cases last with
    | nil => exact nomatch isIdle_of_trimIdle trimmed
    | cons c r => simp
  have text : (split s).2 = joinWith '/' (init ++ [last] ++ idle) := by
    rw [← trimmed, ← whole, joinWith_splitAt]
  have kept := length_joinWith_le '/' (trimIdle init) idleInside
  have taken := length_joinWith_append '/' init last
  have beyond := length_joinWith_le '/' (init ++ [last]) idle
  rw [← inside] at kept
  rw [← text] at beyond
  have total := congrArg List.length (split_append s)
  rw [List.length_append] at total ⊢
  omega

theorem leading_split (s : Text) :
    leading (split s).1 = [] ∨ leading (split s).1 = [.root] ∨ (split s).1 = ['.'] := by
  unfold split
  split <;> simp [leading]

/-- The path above is spelled without the last piece that means something. -/
theorem parent?_of_trimIdle {p : Path} {init : List Text} {last : Text}
    (trimmed : trimIdle (splitAt '/' (split p.text).2) = init ++ [last]) :
    p.parent? = some ⟨(split p.text).1 ++ joinWith '/' (trimIdle init)⟩ := by
  unfold parent?
  simp only [trimmed]
  cases init with
  | nil => rfl
  | cons first init =>
    simp only [List.cons_append]
    rw [← List.cons_append, List.dropLast_concat]

/-- A path is at the top, or the path above it has its components but the last and a shorter text. -/
theorem parent?_cases (p : Path) :
    p.parent? = none ∧ (p.components = [] ∨ p.components = [.root]) ∨
      ∃ q last, p.parent? = some q ∧ p.components = q.components ++ [last] ∧
        q.text.length < p.text.length ∧ last ≠ .root := by
  obtain nothing | ⟨init, last, trimmed⟩ :=
    List.eq_nil_or_concat (trimIdle (splitAt '/' (split p.text).2))
  · have unnamed : p.components = leading (split p.text).1 := by
      rw [components_eq, ← componentsOf_trimIdle, nothing, componentsOf_nil, List.append_nil]
    by_cases here : (split p.text).1 = ['.']
    · refine .inr ⟨⟨[]⟩, .here, ?_, ?_, ?_, by simp⟩
      · simp [parent?, nothing, here]
      · rw [unnamed, here]
        rfl
      · have total := congrArg List.length (split_append p.text)
        rw [List.length_append, here] at total
        simp only [List.length_cons] at total ⊢
        omega
    · refine .inl ⟨by simp [parent?, nothing, here], ?_⟩
      rw [unnamed]
      exact (leading_split p.text).imp_right (Or.resolve_right · here)
  · rw [List.concat_eq_append] at trimmed
    refine .inr ⟨_, componentOf last, parent?_of_trimIdle trimmed, ?_, length_front trimmed, ?_⟩
    · rw [components_front trimmed, components_eq, ← componentsOf_trimIdle (splitAt _ _), trimmed,
        componentsOf_append, componentsOf_cons_of_not_idle [] (isIdle_of_trimIdle trimmed),
        List.append_assoc]
      rfl
    · unfold componentOf
      split <;> simp

private theorem not_at_top {init : List Component} {last : Component} (named : last ≠ .root) :
    ¬(init ++ [last] = [] ∨ init ++ [last] = [.root]) := by
  cases init <;> simp [named]

/-- Paths with the same components are both at the top, or have paths with the same components above
them. -/
theorem parent?_congr {p q : Path} (same : p.components = q.components) :
    p.parent? = none ∧ q.parent? = none ∨
      ∃ above aboveToo, p.parent? = some above ∧ q.parent? = some aboveToo ∧
        above.components = aboveToo.components := by
  obtain ⟨top, whole⟩ | ⟨above, last, found, whole, -, named⟩ := parent?_cases p <;>
    obtain ⟨topToo, wholeToo⟩ | ⟨aboveToo, lastToo, foundToo, wholeToo, -, namedToo⟩ := parent?_cases q
  · exact .inl ⟨top, topToo⟩
  · rw [same, wholeToo] at whole
    exact absurd whole (not_at_top namedToo)
  · rw [← same, whole] at wholeToo
    exact absurd wholeToo (not_at_top named)
  · rw [whole, wholeToo] at same
    exact .inr ⟨above, aboveToo, found, foundToo, (List.append_inj' same rfl).1⟩

/-! ## All the paths above -/

theorem length_parent? {p q : Path} (found : p.parent? = some q) : q.text.length < p.text.length := by
  obtain ⟨top, -⟩ | ⟨above, last, foundToo, -, shorter, -⟩ := parent?_cases p
  · exact absurd (found.symm.trans top) (by simp)
  · obtain rfl : q = above := Option.some.inj (found.symm.trans foundToo)
    exact shorter

theorem length_components_parent? {p q : Path} (found : p.parent? = some q) :
    p.components.length = q.components.length + 1 := by
  obtain ⟨top, -⟩ | ⟨above, last, foundToo, whole, -⟩ := parent?_cases p
  · exact absurd (found.symm.trans top) (by simp)
  · obtain rfl : q = above := Option.some.inj (found.symm.trans foundToo)
    simp [whole]

/-- What holds of the paths at the top, and of a path when it holds of the one above it, holds of every
path. -/
theorem above_induction {motive : Path → Prop} (top : ∀ p, p.parent? = none → motive p)
    (below : ∀ p q, p.parent? = some q → motive q → motive p) (p : Path) : motive p := by
  cases found : p.parent? with
  | none => exact top p found
  | some q => exact below p q found (above_induction top below q)
termination_by p.text.length
decreasing_by exact length_parent? found

/-- The length of a path is fuel enough for all the paths above it. -/
theorem ancestorsWithin_eq {p : Path} {fuel : Nat} (enough : p.text.length ≤ fuel) :
    ancestorsWithin fuel p = p.ancestors := by
  unfold ancestors
  generalize length : p.text.length = least at enough
  replace length := Nat.le_of_eq length
  induction least generalizing p fuel with
  | zero =>
    cases found : p.parent? with
    | none => cases fuel <;> simp [ancestorsWithin, found]
    | some q => exact absurd (length_parent? found) (by omega)
  | succ least ih =>
    cases fuel with
    | zero => omega
    | succ fuel =>
      cases found : p.parent? with
      | none => simp [ancestorsWithin, found]
      | some q =>
        have shorter := length_parent? found
        have same : ancestorsWithin fuel q = ancestorsWithin least q := ih (by omega) (by omega)
        simp [ancestorsWithin, found, same]

theorem ancestors_top {p : Path} (top : p.parent? = none) : p.ancestors = [p] := by
  unfold ancestors
  cases p.text.length <;> simp [ancestorsWithin, top]

theorem ancestors_below {p q : Path} (found : p.parent? = some q) : p.ancestors = p :: q.ancestors := by
  have shorter := length_parent? found
  unfold ancestors
  cases length : p.text.length with
  | zero => omega
  | succ fuel =>
    rw [ancestorsWithin, found]
    exact congrArg (p :: ·) (ancestorsWithin_eq (by omega))

theorem exists_ancestors (p : Path) : ∃ above, p.ancestors = p :: above := by
  cases found : p.parent? with
  | none => exact ⟨[], ancestors_top found⟩
  | some q => exact ⟨q.ancestors, ancestors_below found⟩

theorem length_of_mem_ancestors {p q : Path} (member : q ∈ p.ancestors) :
    q.components.length ≤ p.components.length := by
  induction p using above_induction with
  | top p top =>
    rw [ancestors_top top, List.mem_singleton] at member
    exact member ▸ Nat.le_refl _
  | below p above found ih =>
    rw [ancestors_below found, List.mem_cons] at member
    obtain rfl | member := member
    · exact Nat.le_refl _
    · have longer := length_components_parent? found
      have lower := ih member
      omega

/-! ## A name in a directory -/

/-- What goes on behind a slash adds its components. -/
theorem components_append_slash {s : Text} (t : Text) (some : s ≠ []) :
    components ⟨s ++ '/' :: t⟩ = components ⟨s⟩ ++ componentsOf (splitAt '/' t) := by
  have pieces := splitAt_append_mark '/' s t
  obtain ⟨body, rfl⟩ | rfl | ⟨body, rfl⟩ | rfl | ⟨piece, rest, cut, named⟩ := split_cases s
  · show leading ['/'] ++ componentsOf (splitAt '/' (body ++ '/' :: t)) = _
    rw [splitAt_append_mark, componentsOf_append]
    rfl
  · rfl
  · show leading ['.'] ++ componentsOf (splitAt '/' (('/' :: body) ++ '/' :: t)) = _
    rw [splitAt_append_mark, componentsOf_append]
    rfl
  · exact absurd rfl some
  · rw [cut, List.cons_append] at pieces
    simp only [components_eq, split_of_not_idle cut named, split_of_not_idle pieces named, cut, pieces]
    rw [← List.cons_append, componentsOf_append, List.append_assoc]

/-- A text without a slash is no path from the root. -/
theorem isAbsolute_of_notMem {s : Text} (unmarked : '/' ∉ s) : isAbsolute ⟨s⟩ = false := by
  cases s with
  | nil => rfl
  | cons c r =>
    have other : c ≠ '/' := fun slash => unmarked (by simp [slash])
    simpa [isAbsolute] using other

/-- A name that is neither idle nor a step up is one more component. -/
theorem components_child (p : Path) {name : Text} (unmarked : '/' ∉ name) (named : isIdle name = false)
    (down : name ≠ ['.', '.']) : (p.child name).components = p.components ++ [.name name] := by
  have alone : splitAt '/' name = [name] := splitAt_of_notMem unmarked
  have one : componentsOf [name] = [.name name] := by
    rw [componentsOf_cons_of_not_idle [] named, componentOf, if_neg down]
    rfl
  have behind {s : Text} (some : s ≠ []) :
      components ⟨s ++ '/' :: name⟩ = components ⟨s⟩ ++ [.name name] := by
    rw [components_append_slash name some, alone, one]
  obtain ⟨s⟩ := p
  unfold child join
  rw [isAbsolute_of_notMem unmarked, if_neg Bool.false_ne_true]
  obtain rfl | ⟨init, last, rfl⟩ := List.eq_nil_or_concat s
  · exact (components_names (by simpa using unmarked) named).trans one
  rw [List.concat_eq_append]
  by_cases slashed : last = '/'
  · subst slashed
    rw [if_pos (by simp), List.append_assoc, List.singleton_append]
    cases init with
    | nil =>
      rw [← one]
      have only : ∀ piece ∈ [name], '/' ∉ piece := by simpa using unmarked
      exact components_slash only
    | cons c r =>
      have closed : components ⟨c :: r ++ ['/']⟩ = components ⟨c :: r⟩ :=
        (components_append_slash [] (by simp)).trans (List.append_nil _)
      rw [behind (by simp), closed]
  · rw [if_neg (by simp [slashed])]
    exact behind (by simp)

end ModuleHooks.Path
