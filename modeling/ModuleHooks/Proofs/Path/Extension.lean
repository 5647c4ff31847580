import ModuleHooks.Path.Normal
import ModuleHooks.Proofs.Pieces

/-!
What becomes of a text when its extension changes. The extension lies behind the last slash, so another
one leaves everything up to that slash as it was; in particular whether a dependency directory is
crossed.
-/
namespace ModuleHooks

namespace Text

theorem hasInfix_iff {needle s : Text} : hasInfix needle s = true ↔ needle <:+: s := by
  induction s with
  | nil => simp [hasInfix, List.infix_nil]
  | cons c r ih => simp [hasInfix, List.infix_cons_iff, ih]

/-- A part without the mark at the end of the whole is empty. -/
private theorem eq_nil_of_concat {lead front back : Text} {mark : Char}
    (whole : lead ++ [mark] = front ++ back) (unmarked : mark ∉ back) : back = [] := by
  obtain rfl | ⟨init, last, rfl⟩ := List.eq_nil_or_concat back
  · rfl
  · rw [List.concat_eq_append, ← List.append_assoc] at whole
    obtain ⟨-, same⟩ := List.append_inj' whole rfl
    obtain rfl : mark = last := by simpa using same
    exact absurd (by simp) unmarked

/-- What ends with a mark does not reach into a text without it. -/
theorem infix_append_of_notMem {lead s t : Text} {mark : Char} (unmarked : mark ∉ t) :
    lead ++ [mark] <:+: s ++ t ↔ lead ++ [mark] <:+: s := by
  refine ⟨fun inside => ?_, fun inside => inside.trans (List.prefix_append s t).isInfix⟩
  obtain inside | inside | ⟨front, back, whole, suffix, pre⟩ := List.infix_append_iff.1 inside
  · exact inside
  · exact absurd (inside.subset (by simp)) unmarked
  · obtain rfl := eq_nil_of_concat whole fun member => unmarked (pre.subset member)
    rw [whole, List.append_nil]
    exact suffix.isInfix

theorem prefix_append_of_notMem {lead s t : Text} {mark : Char} (unmarked : mark ∉ t) :
    lead ++ [mark] <+: s ++ t ↔ lead ++ [mark] <+: s := by
  refine ⟨fun front => ?_, fun front => front.trans (List.prefix_append s t)⟩
  obtain ⟨rest, whole⟩ := front
  obtain ⟨more, same, -⟩ | ⟨back, same, tail⟩ := List.append_eq_append_iff.1 whole
  · exact ⟨more, same.symm⟩
  · obtain rfl := eq_nil_of_concat same fun member => unmarked (tail ▸ List.mem_append_left rest member)
    have whole : lead ++ [mark] = s := same.trans (List.append_nil s)
    exact whole ▸ List.prefix_refl s

end Text

namespace Path

open Text

/-! ## The last segment -/

/-- Whether a character is a slash of either kind. -/
def isSlash (c : Char) : Bool := c == '/' || c == '\\'

theorem flat_of_all {t : Text} (all : (t.all fun c => !isSlash c) = true) :
    ∀ c ∈ t, isSlash c = false := by
  intro c member
  simpa using List.all_eq_true.1 all c member

theorem endsWith_slash_append {s t : Text} (some : t ≠ []) (flat : ∀ c ∈ t, isSlash c = false) :
    (s ++ t).endsWith ['/'] = false := by
  rw [← Bool.not_eq_true, Text.endsWith, List.isSuffixOf_iff_suffix]
  rintro ⟨front, whole⟩
  exact some (eq_nil_of_concat whole fun member => nomatch flat '/' member)

theorem lastSegment_append {s t : Text} (flat : ∀ c ∈ t, isSlash c = false) :
    lastSegment (s ++ t) = lastSegment s ++ t := by
  have kept : ∀ c ∈ t.reverse, (c != '/' && c != '\\') = true := by
    intro c member
    simpa [isSlash] using flat c (List.mem_reverse.1 member)
  unfold lastSegment
  rw [List.reverse_append, List.takeWhile_append_of_pos kept, List.reverse_append,
    List.reverse_reverse]

theorem lastSegment_suffix (s : Text) : lastSegment s <:+ s := by
  rw [← List.reverse_prefix]
  unfold lastSegment
  rw [List.reverse_reverse]
  exact List.takeWhile_prefix _

theorem flat_of_mem_lastSegment {s : Text} {c : Char} (member : c ∈ lastSegment s) :
    isSlash c = false := by
  have kept := List.all_eq_true.1 List.all_takeWhile c (List.mem_reverse.1 member)
  simpa [isSlash] using kept

/-! ## The extension -/

/-- An extension is a dot and what follows it, behind the beginning of the last segment. -/
theorem extension_cases (s : Text) :
    extension s = [] ∨ ∃ name, name ≠ [] ∧ lastSegment s = name ++ extension s := by
  unfold extension
  generalize lastSegment s = segment
  dsimp only
  split
  case isTrue longer =>
    refine .inr ?_
    obtain ⟨rest, whole⟩ : ∃ rest, segment.reverse.dropWhile (· != '.') = '.' :: rest := by
      cases dropped : segment.reverse.dropWhile (· != '.') with
      | nil =>
        have all := List.takeWhile_append_dropWhile (p := (· != '.')) (l := segment.reverse)
        rw [dropped, List.append_nil] at all
        rw [all, List.reverse_reverse] at longer
        omega
      | cons c rest =>
        have stopped := List.head?_dropWhile_not (· != '.') segment.reverse
        rw [dropped] at stopped
        obtain rfl : c = '.' := by simpa using stopped
        exact ⟨rest, rfl⟩
    have cut := List.takeWhile_append_dropWhile (p := (· != '.')) (l := segment.reverse)
    rw [whole] at cut
    generalize segment.reverse.takeWhile (· != '.') = tail at cut longer ⊢
    have named : segment = rest.reverse ++ '.' :: tail.reverse := by
      rw [← List.reverse_reverse segment, ← cut]
      simp
    refine ⟨rest.reverse, fun nothing => ?_, named⟩
    rw [named, nothing] at longer
    simp at longer
  case isFalse => exact .inl rfl

theorem extension_suffix (s : Text) : extension s <:+ s := by
  obtain none | ⟨name, -, whole⟩ := extension_cases s
  · rw [none]
    exact List.nil_suffix
  · exact (whole ▸ List.suffix_append name (extension s)).trans (lastSegment_suffix s)

theorem stem_append_extension (s : Text) : stem s ++ extension s = s := by
  obtain ⟨front, whole⟩ := extension_suffix s
  have length := congrArg List.length whole
  rw [List.length_append] at length
  have least : s.length - (extension s).length = front.length := by omega
  calc
    stem s ++ extension s = (front ++ extension s).take front.length ++ extension s := by
      rw [stem, least, whole]
    _ = s := by rw [List.take_left, whole]

theorem flat_of_mem_extension {s : Text} {c : Char} (member : c ∈ extension s) : isSlash c = false := by
  obtain none | ⟨name, -, whole⟩ := extension_cases s
  · rw [none] at member
    exact nomatch member
  · exact flat_of_mem_lastSegment (whole ▸ List.mem_append_right name member)

/-- A dot and a name behind a segment that has begun are its extension. -/
theorem extension_append {s t : Text} (begun : lastSegment s ≠ []) (flat : ∀ c ∈ t, isSlash c = false)
    (undotted : '.' ∉ t) : extension (s ++ '.' :: t) = '.' :: t := by
  have segment : lastSegment (s ++ '.' :: t) = lastSegment s ++ '.' :: t :=
    lastSegment_append (List.forall_mem_cons.2 ⟨rfl, flat⟩)
  have tail : ((lastSegment s ++ '.' :: t).reverse.takeWhile (· != '.')).reverse = t := by
    have kept : ∀ c ∈ t.reverse, (c != '.') = true := by
      intro c member
      have other : c ≠ '.' := fun same => undotted (same ▸ List.mem_reverse.1 member)
      simpa using other
    rw [List.reverse_append, List.reverse_cons, List.append_assoc, List.takeWhile_append_of_pos kept]
    simp
  have longer : t.length + 1 < (lastSegment s ++ '.' :: t).length := by
    have some := List.length_pos_iff.2 begun
    rw [List.length_append, List.length_cons]
    omega
  unfold extension
  simp only [segment, tail]
  rw [if_pos longer]

/-- A text with an extension has begun its last segment in front of it. -/
theorem lastSegment_stem {s : Text} (some : extension s ≠ []) : lastSegment (stem s) ≠ [] := by
  obtain none | ⟨name, begun, whole⟩ := extension_cases s
  · exact absurd none some
  · have segment : lastSegment s = lastSegment (stem s) ++ extension s := by
      rw [← lastSegment_append fun c => flat_of_mem_extension, stem_append_extension]
    rw [whole] at segment
    rwa [← (List.append_inj' segment rfl).1]

/-! ## Dependencies -/

theorem crossesDependency_iff {s : Text} :
    crossesDependency s = true ↔
      ('/' :: dependencyDirectory) ++ ['/'] <:+: s ∨
        ('/' :: dependencyDirectory) ++ ['/'] <:+: replaceChar '\\' '/' s := by
  unfold crossesDependency
  rw [Bool.or_eq_true, hasInfix_iff, hasInfix_iff]
  rfl

theorem replaceChar_flat {t : Text} (flat : ∀ c ∈ t, isSlash c = false) :
    replaceChar '\\' '/' t = t :=
  replaceChar_of_notMem '/' fun member => nomatch flat '\\' member

/-- What goes on without a slash crosses what is crossed already. -/
theorem crossesDependency_append {s t : Text} (flat : ∀ c ∈ t, isSlash c = false) :
    crossesDependency (s ++ t) = crossesDependency s := by
  have unmarked : '/' ∉ t := fun member => nomatch flat '/' member
  have replaced : replaceChar '\\' '/' (s ++ t) = replaceChar '\\' '/' s ++ t := by
    rw [replaceChar, List.map_append, ← replaceChar, ← replaceChar, replaceChar_flat flat]
  rw [Bool.eq_iff_iff, crossesDependency_iff, crossesDependency_iff, infix_append_of_notMem unmarked,
    replaced, infix_append_of_notMem unmarked]

private theorem suffix_of_infix_concat {lead s : Text} {mark : Char} (clear : ¬lead ++ [mark] <:+: s)
    (inside : lead ++ [mark] <:+: s ++ [mark]) : lead <:+ s := by
  obtain suffix | inside := List.infix_concat_iff.1 inside
  · obtain ⟨front, whole⟩ := suffix
    rw [← List.append_assoc] at whole
    exact ⟨front, (List.append_inj' whole rfl).1⟩
  · exact absurd inside clear

/-- A name in what does not end in the dependency directory crosses none either. -/
theorem crossesDependency_slash {s t : Text} (flat : ∀ c ∈ t, isSlash c = false)
    (clear : crossesDependency s = false)
    (outside : ¬ '/' :: dependencyDirectory <:+ replaceChar '\\' '/' s) :
    crossesDependency (s ++ '/' :: t) = false := by
  rw [List.append_cons, crossesDependency_append flat]
  rw [← Bool.not_eq_true, crossesDependency_iff, not_or] at clear ⊢
  have replaced : replaceChar '\\' '/' (s ++ ['/']) = replaceChar '\\' '/' s ++ ['/'] := by
    rw [replaceChar, List.map_append, ← replaceChar]
    rfl
  rw [replaced]
  refine ⟨fun inside => outside ?_, fun inside => outside (suffix_of_infix_concat clear.2 inside)⟩
  have suffix := (suffix_of_infix_concat clear.1 inside).map fun c => if c = '\\' then '/' else c
  exact suffix

/-! ## Forward slashes -/

theorem toSlash_of_notMem {p : Path} (unmarked : '\\' ∉ p.text) : p.toSlash = p.text :=
  replaceChar_of_notMem '/' unmarked

end Path

end ModuleHooks
