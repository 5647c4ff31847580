import ModuleHooks.Package.Targets
import ModuleHooks.Proofs.Json.Members
import ModuleHooks.Proofs.Pieces
import ModuleHooks.Proofs.Text.Order

/-!
The pattern that a subpath selects. Two keys that match one text have leads of different lengths or, behind
one lead, are of different lengths themselves (`Matches.eq_or_beats`); so of all that match one is the most
specific, and the pass over the members ends with it (`bestPattern?_spec`) in whatever order they stand.
-/
namespace ModuleHooks.Package

/-- The name is a pattern with one star, in which `star` stands in the place of the star. -/
inductive Matches : Text → Text → Text → Prop
  | fill {lead tail star : Text} (plainLead : '*' ∉ lead) (plainTail : '*' ∉ tail) (some : star ≠ []) :
      Matches (lead ++ '*' :: tail) (lead ++ star ++ tail) star

/-- The text in front of the star of a pattern. -/
def leadOf (pattern : Text) : Text := Text.upTo '*' pattern

/-- The pattern `a` has more text in front of its star than `b`, or as much and more text in all. -/
def Beats (a b : Text) : Prop :=
  (leadOf b).length < (leadOf a).length ∨
    (leadOf a).length = (leadOf b).length ∧ b.length < a.length

/-! ## Patterns that match -/

section

variable {a b key name lead tail star other : Text}

theorem leadOf_append (plain : '*' ∉ lead) : leadOf (lead ++ '*' :: tail) = lead := by
  have inside : ∀ c ∈ lead, (c != '*') = true := by
    intro c member
    exact bne_iff_ne.2 fun same => plain (same ▸ member)
  exact (Text.span_append inside (by simp)).1

theorem notMem_of_once (once : (lead ++ '*' :: tail).count '*' = 1) (plain : '*' ∉ lead) : '*' ∉ tail := by
  rw [List.count_append, List.count_cons_self, List.count_eq_zero.2 plain] at once
  exact List.count_eq_zero.1 (by omega)

/-- The star of a pattern is found, and nothing else is taken for one. -/
theorem starOf?_eq_some_iff : key.count '*' = 1 ∧ starOf? key name = some star ↔ Matches key name star := by
  constructor
  · rintro ⟨once, found⟩
    obtain ⟨⟨lead, tail⟩, cut, inside⟩ := Option.bind_eq_some_iff.1 found
    obtain ⟨inner, between, kept⟩ := Option.bind_eq_some_iff.1 inside
    obtain ⟨rest, after, before⟩ := Option.bind_eq_some_iff.1 between
    obtain ⟨rfl, plainLead⟩ := Text.cutAt?_eq_some cut
    have plainTail : '*' ∉ tail := notMem_of_once once plainLead
    have whole : name = lead ++ inner ++ tail := by
      rw [Text.append_of_after? after, Text.append_of_before? before, List.append_assoc]
    by_cases empty : inner = []
    · simp [empty] at kept
    · obtain rfl : inner = star := by simpa [empty] using kept
      exact whole ▸ .fill plainLead plainTail empty
  · rintro ⟨plainLead, plainTail, some⟩
    constructor
    · simp [List.count_append, List.count_eq_zero.2 plainLead, List.count_eq_zero.2 plainTail]
    · simp [starOf?, Text.cutAt?_append_mark plainLead, List.append_assoc, Text.after?_append,
        Text.before?_append, some]

theorem Matches.star_unique (first : Matches key name star) (second : Matches key name other) :
    star = other := by
  have found := (starOf?_eq_some_iff.2 first).2
  rw [(starOf?_eq_some_iff.2 second).2] at found
  exact (Option.some.inj found).symm

theorem Beats.irrefl (a : Text) : ¬Beats a a := by
  rintro (more | ⟨-, more⟩)
  · exact Nat.lt_irrefl _ more
  · exact Nat.lt_irrefl _ more

theorem Beats.asymm (beats : Beats a b) : ¬Beats b a := by
  unfold Beats at *
  omega

theorem Beats.trans {c : Text} (first : Beats a b) (second : Beats b c) : Beats a c := by
  unfold Beats at *
  omega

/-- Of two patterns that match one name, one beats the other: with leads of one length and the same length
in all they cut the name in the same places. -/
theorem Matches.eq_or_beats (first : Matches a name star) (second : Matches b name other) :
    a = b ∨ Beats a b ∨ Beats b a := by
  obtain ⟨plainA, -, -⟩ := first
  generalize whole : _ ++ star ++ _ = name at second
  obtain ⟨plainB, -, -⟩ := second
  rename_i leadA tailA leadB tailB
  unfold Beats
  rw [leadOf_append plainA, leadOf_append plainB]
  obtain shorter | same | longer := Nat.lt_trichotomy leadA.length leadB.length
  · exact .inr (.inr (.inl shorter))
  · obtain less | equal | more := Nat.lt_trichotomy tailA.length tailB.length
    · exact .inr (.inr (.inr ⟨same.symm, by simp; omega⟩))
    · have leads : leadA = leadB := by
        rw [List.append_assoc, List.append_assoc] at whole
        exact (List.append_inj whole same).1
      have tails : tailA = tailB := (List.append_inj' whole equal).2
      exact .inl (by rw [leads, tails])
    · exact .inr (.inl (.inr ⟨same, by simp; omega⟩))
  · exact .inr (.inl (.inl longer))

theorem moreSpecific_eq (a b : Text) :
    moreSpecific a b =
      (((compare (leadOf b).length (leadOf a).length).then (compare b.length a.length)).then
        (Text.order a b) == .lt) := rfl

/-- The comparison of the pass decides between patterns that match one name. -/
theorem moreSpecific_iff (first : Matches a name star) (second : Matches b name other) :
    moreSpecific a b = true ↔ Beats a b := by
  rw [moreSpecific_eq]
  rcases first.eq_or_beats second with rfl | beats | beaten
  · have same : Text.order a a = .eq := Text.order_eq_iff.2 rfl
    simp [same, Beats.irrefl]
  · refine iff_of_true ?_ beats
    rcases beats with longer | ⟨same, longer⟩
    · rw [Nat.compare_eq_lt.2 longer]
      rfl
    · rw [Nat.compare_eq_eq.2 same.symm, Nat.compare_eq_lt.2 longer]
      rfl
  · refine iff_of_false ?_ beaten.asymm
    rcases beaten with longer | ⟨same, longer⟩
    · rw [Nat.compare_eq_gt.2 longer]
      exact Bool.false_ne_true
    · rw [Nat.compare_eq_eq.2 same, Nat.compare_eq_gt.2 longer]
      exact Bool.false_ne_true

end

/-! ## The pass over the members -/

/-- What a pass has found among the members that it has seen: nothing if none of them matches the name, or
the key that beats all others of them that do, with its target and its star. -/
def IsBest (name : Text) (seen : Members Json) : Option (Text × Json × Text) → Prop
  | none => ∀ member ∈ seen, ∀ star, ¬Matches member.1 name star
  | some (key, target, star) =>
    (key, target) ∈ seen ∧ Matches key name star ∧
      ∀ member ∈ seen, ∀ other, Matches member.1 name other → member.1 = key ∨ Beats key member.1

section

variable {name key star : Text} {target : Json} {seen : Members Json}
  {found : Option (Text × Json × Text)}

theorem better_of_unmatched (unmatched : ∀ star, ¬Matches key name star) :
    better name found key target = found := by
  unfold better
  split
  case isTrue once =>
    cases read : starOf? key name with
    | none => rfl
    | some star => exact absurd (starOf?_eq_some_iff.1 ⟨once, read⟩) (unmatched star)
  case isFalse => rfl

theorem better_of_matches (matching : Matches key name star) :
    better name found key target =
      match found with
      | none => some (key, target, star)
      | some (bestKey, _, _) => if moreSpecific key bestKey then some (key, target, star) else found := by
  obtain ⟨once, read⟩ := starOf?_eq_some_iff.2 matching
  unfold better
  rw [if_pos once, read]
  cases found <;> rfl

/-- One more member leaves the best of those that were seen. -/
theorem IsBest.better (best : IsBest name seen found) (key : Text) (target : Json) :
    IsBest name (seen ++ [(key, target)]) (better name found key target) := by
  by_cases matching : ∃ star, Matches key name star
  · obtain ⟨star, matching⟩ := matching
    have last : (key, target) ∈ seen ++ [(key, target)] := by simp
    rw [better_of_matches matching]
    cases found with
    | none =>
      refine ⟨last, matching, fun member inside other matched => ?_⟩
      obtain before | rfl := by simpa using inside
      · exact absurd matched (best member before other)
      · exact .inl rfl
    | some found =>
      obtain ⟨bestKey, bestTarget, bestStar⟩ := found
      obtain ⟨there, bestMatches, beats⟩ := best
      dsimp only
      split
      case isTrue more =>
        have above : Beats key bestKey := (moreSpecific_iff matching bestMatches).1 more
        refine ⟨last, matching, fun member inside other matched => ?_⟩
        obtain before | rfl := by simpa using inside
        · rcases beats member before other matched with same | below
          · exact .inr (same ▸ above)
          · exact .inr (above.trans below)
        · exact .inl rfl
      case isFalse less =>
        refine ⟨List.mem_append_left _ there, bestMatches, fun member inside other matched => ?_⟩
        obtain before | rfl := by simpa using inside
        · exact beats member before other matched
        · have under : ¬Beats key bestKey := fun above =>
            less ((moreSpecific_iff matching bestMatches).2 above)
          rcases matching.eq_or_beats bestMatches with same | above | below
          · exact .inl same
          · exact absurd above under
          · exact .inr below
  · have unmatched : ∀ star, ¬Matches key name star := not_exists.1 matching
    rw [better_of_unmatched unmatched]
    cases found with
    | none =>
      intro member inside other
      obtain before | rfl := by simpa using inside
      · exact best member before other
      · exact unmatched other
    | some found =>
      obtain ⟨there, bestMatches, beats⟩ := best
      refine ⟨List.mem_append_left _ there, bestMatches, fun member inside other matched => ?_⟩
      obtain before | rfl := by simpa using inside
      · exact beats member before other matched
      · exact absurd matched (unmatched other)

/-- A pass over further members leaves the best of all. -/
theorem IsBest.foldl (best : IsBest name seen found) (rest : Members Json) :
    IsBest name (seen ++ rest)
      (rest.foldl (fun best (key, target) => Package.better name best key target) found) := by
  induction rest generalizing seen found with
  | nil => simpa using best
  | cons member rest ih =>
    have further := ih (best.better member.1 member.2)
    rwa [List.append_assoc, List.singleton_append] at further

/-- The pass over a map ends with the best of its members. -/
theorem exists_isBest (map : Members Json) (name : Text) :
    ∃ found, bestPattern? map name = found.map (·.2) ∧ IsBest name map found := by
  have start : IsBest name [] none := nofun
  exact ⟨_, rfl, start.foldl map⟩

end

end ModuleHooks.Package
