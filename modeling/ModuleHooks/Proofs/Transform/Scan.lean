import ModuleHooks.Transform.CodeToken

/-!
Scanning source code, whatever it holds. A step goes on from a later place of the same text
(`step_rest`), so a scan comes to the end of every source, and what it finds is the only thing that steps
can find (`scans_iff`). Each token stands in the source where it was found, and no two in one place.
-/
namespace ModuleHooks.CodeToken

/-- A scan from a position on: steps through the text up to its end, with the tokens that they find. -/
inductive Scans : Nat → Bool → List Nat → Text → List (Nat × CodeToken) → Prop
  | done (pos : Nat) (regex : Bool) (templates : List Nat) : Scans pos regex templates [] []
  | silent {pos : Nat} {regex : Bool} {templates : List Nat} {c : Char} {rest : Text}
      {found : List (Nat × CodeToken)} (silent : (step regex templates c rest).token = none)
      (further : Scans (pos + (rest.length + 1 - (step regex templates c rest).rest.length)) regex
        (step regex templates c rest).templates (step regex templates c rest).rest found) :
      Scans pos regex templates (c :: rest) found
  | token {pos : Nat} {regex : Bool} {templates : List Nat} {c : Char} {rest : Text}
      {found : List (Nat × CodeToken)} {token : CodeToken}
      (shows : (step regex templates c rest).token = some token)
      (further : Scans (pos + (rest.length + 1 - (step regex templates c rest).rest.length))
        token.beforeRegex (step regex templates c rest).templates (step regex templates c rest).rest found) :
      Scans pos regex templates (c :: rest) ((pos, token) :: found)

/-- The text starts with what the token was read from: the letters of a word, the character of a mark. -/
def Starts : CodeToken → Text → Prop
  | word w, s => w <+: s
  | mark c, s => [c] <+: s
  | literal, s | templateCode, s => s ≠ []

/-! ## Steps -/

theorem afterBlockComment_suffix (s : Text) : afterBlockComment s <:+ s := by
  fun_induction afterBlockComment s with
  | case1 rest => exact ⟨['*', '/'], rfl⟩
  | case2 c rest _ ih => exact ih.trans (List.suffix_cons c rest)
  | case3 => exact List.suffix_rfl

theorem afterString_suffix (quote : Char) (s : Text) : afterString quote s <:+ s := by
  fun_induction afterString quote s with
  | case1 c rest ih => exact ih.trans ⟨['\\', c], rfl⟩
  | case2 => exact List.nil_suffix
  | case3 => exact List.suffix_rfl
  | case4 => exact List.suffix_cons _ _
  | case5 c rest _ _ _ _ ih => exact ih.trans (List.suffix_cons c rest)
  | case6 => exact List.suffix_rfl

theorem afterRegexBody_suffix (inClass : Bool) (s : Text) : afterRegexBody inClass s <:+ s := by
  fun_induction afterRegexBody inClass s with
  | case1 inClass c rest ih => exact ih.trans ⟨['\\', c], rfl⟩
  | case2 => exact List.nil_suffix
  | case3 => exact List.suffix_rfl
  | case4 inClass rest _ _ _ ih => exact ih.trans (List.suffix_cons _ rest)
  | case5 inClass rest _ _ _ _ ih => exact ih.trans (List.suffix_cons _ rest)
  | case6 => exact List.suffix_cons _ _
  | case7 inClass c rest _ _ _ _ _ _ ih => exact ih.trans (List.suffix_cons c rest)
  | case8 => exact List.suffix_rfl

theorem afterRegex_suffix (s : Text) : afterRegex s <:+ s :=
  (List.dropWhile_suffix _).trans (afterRegexBody_suffix false s)

/-- What follows template text, whatever ends it. -/
def TemplateEnd.rest : TemplateEnd → Text
  | closed rest | code rest => rest
  | unfinished => []

theorem templateEnd_suffix (s : Text) : (templateEnd s).rest <:+ s := by
  fun_induction templateEnd s with
  | case1 c rest ih => exact ih.trans ⟨['\\', c], rfl⟩
  | case2 rest => exact ⟨['$', '\x7b'], rfl⟩
  | case3 rest => exact List.suffix_cons _ _
  | case4 => exact List.nil_suffix
  | case5 c rest _ _ _ _ ih => exact ih.trans (List.suffix_cons c rest)
  | case6 => exact List.suffix_rfl

/-- A step from a character goes on from a later place, and what it shows stands at the character. -/
structure IsSound (c : Char) (rest : Text) (next : Step) : Prop where
  suffix : next.rest <:+ rest
  starts : ∀ token, next.token = some token → token.Starts (c :: rest)

namespace IsSound

variable {c : Char} {rest left : Text} {templates : List Nat}

theorem ite {p : Prop} [Decidable p] {next other : Step} (holds : p → IsSound c rest next)
    (fails : ¬p → IsSound c rest other) : IsSound c rest (if p then next else other) :=
  iteInduction (motive := IsSound c rest) holds fails

theorem silent (suffix : left <:+ rest) : IsSound c rest ⟨none, templates, left⟩ :=
  ⟨suffix, fun _ shows => nomatch shows⟩

theorem shows {token : CodeToken} (starts : token.Starts (c :: rest)) (suffix : left <:+ rest) :
    IsSound c rest ⟨some token, templates, left⟩ :=
  ⟨suffix, fun _ same => Option.some.inj same ▸ starts⟩

theorem literal (suffix : left <:+ rest) : IsSound c rest ⟨some .literal, templates, left⟩ :=
  shows (List.cons_ne_nil c rest) suffix

theorem mark : IsSound c rest ⟨some (.mark c), templates, rest⟩ := shows ⟨rest, rfl⟩ List.suffix_rfl

theorem templateStep : IsSound c rest (CodeToken.templateStep templates rest) := by
  have suffix := templateEnd_suffix rest
  unfold CodeToken.templateStep
  generalize templateEnd rest = ends at suffix ⊢
  cases ends with
  | closed left => exact literal suffix
  | code left => exact shows (List.cons_ne_nil c rest) suffix
  | unfinished => exact silent List.nil_suffix

theorem closeBrace (brace : c = '\x7d') : IsSound c rest (CodeToken.closeBrace templates rest) := by
  subst brace
  unfold CodeToken.closeBrace
  split
  · exact templateStep
  · exact mark
  · exact mark

end IsSound

theorem step_sound (regex : Bool) (templates : List Nat) (c : Char) (rest : Text) :
    IsSound c rest (step regex templates c rest) := by
  unfold step
  refine .ite (fun _ => .silent List.suffix_rfl) fun _ => ?_
  refine .ite (fun _ => .silent (List.dropWhile_suffix _)) fun _ => ?_
  refine .ite (fun _ => .silent ((afterBlockComment_suffix _).trans (List.tail_suffix rest))) fun _ => ?_
  refine .ite (fun _ => .literal (afterRegex_suffix rest)) fun _ => ?_
  refine .ite (fun _ => .literal (afterString_suffix c rest)) fun _ => ?_
  refine .ite (fun _ => .templateStep) fun _ => ?_
  refine .ite (fun _ => .mark) fun _ => ?_
  refine .ite (fun brace => .closeBrace brace) fun _ => ?_
  refine .ite (fun _ => .shows ((List.prefix_cons_inj c).2 (List.takeWhile_prefix _))
    (List.dropWhile_suffix _)) fun _ => ?_
  exact .ite (fun _ => .literal (List.dropWhile_suffix _)) fun _ => .mark

theorem step_rest (regex : Bool) (templates : List Nat) (c : Char) (rest : Text) :
    (step regex templates c rest).rest <:+ rest := (step_sound regex templates c rest).suffix

/-! ## Scans -/

/-- With as many steps as there are characters, a scan comes to the end. -/
theorem scans_scan {n : Nat} {s : Text} (enough : s.length ≤ n) (pos : Nat) (regex : Bool)
    (templates : List Nat) : Scans pos regex templates s (scan n pos regex templates s) := by
  induction n generalizing s pos regex templates with
  | zero =>
    obtain rfl := List.eq_nil_of_length_eq_zero (Nat.le_zero.1 enough)
    exact .done ..
  | succ n ih =>
    cases s with
    | nil => exact .done ..
    | cons c rest =>
      have fewer : (step regex templates c rest).rest.length ≤ n :=
        Nat.le_trans (step_rest regex templates c rest).length_le (Nat.le_of_succ_le_succ enough)
      unfold scan
      cases shows : (step regex templates c rest).token with
      | none =>
        simp only [shows]
        exact .silent shows (ih fewer ..)
      | some token =>
        simp only [shows]
        exact .token shows (ih fewer ..)

theorem Scans.unique {pos : Nat} {regex : Bool} {templates : List Nat} {s : Text}
    {found other : List (Nat × CodeToken)} (scans : Scans pos regex templates s found)
    (scansToo : Scans pos regex templates s other) : other = found := by
  induction scans generalizing other with
  | done =>
    cases scansToo
    rfl
  | silent silent _ ih =>
    cases scansToo with
    | silent _ further => exact ih further
    | token shows _ => exact nomatch silent.symm.trans shows
  | token shows _ ih =>
    cases scansToo with
    | silent silent _ => exact nomatch silent.symm.trans shows
    | token showsToo further =>
      obtain rfl := Option.some.inj (shows.symm.trans showsToo)
      rw [ih further]

/-- Every source is scanned to its end, and in one way. -/
theorem scans_iff {source : Text} {found : List (Nat × CodeToken)} :
    Scans 0 true [] source found ↔ found = tokens source := by
  have scanned : Scans 0 true [] source (tokens source) := scans_scan (Nat.le_refl _) 0 true []
  constructor
  · exact scanned.unique
  · rintro rfl
    exact scanned

/-! ## Where tokens stand -/

namespace Scans

variable {pos : Nat} {regex : Bool} {templates : List Nat} {s : Text} {found : List (Nat × CodeToken)}

/-- Tokens are found from the position of the scan on, each behind the one before. -/
theorem sorted (scans : Scans pos regex templates s found) :
    (∀ p ∈ found, pos ≤ p.1) ∧ (found.map Prod.fst).Pairwise (· < ·) := by
  induction scans with
  | done => exact ⟨by simp, .nil⟩
  | silent _ _ ih => exact ⟨fun p member => Nat.le_trans (Nat.le_add_right _ _) (ih.1 p member), ih.2⟩
  | @token pos regex templates c rest found token _ _ ih =>
    have shorter := (step_rest regex templates c rest).length_le
    have behind : ∀ p ∈ found, pos < p.1 := fun p member => by
      have least := ih.1 p member
      omega
    refine ⟨List.forall_mem_cons.2 ⟨Nat.le_refl _, fun p member => Nat.le_of_lt (behind p member)⟩, ?_⟩
    rw [List.map_cons, List.pairwise_cons]
    exact ⟨List.forall_mem_map.2 behind, ih.2⟩

/-- Behind the text that was scanned before it, a token stands at its position. -/
theorem starts (scans : Scans pos regex templates s found) (before : Text)
    (length : before.length = pos) {i : Nat} {token : CodeToken} (member : (i, token) ∈ found) :
    token.Starts ((before ++ s).drop i) := by
  have further {pos : Nat} {c : Char} {rest left before : Text} (suffix : left <:+ rest)
      (length : before.length = pos) : ∃ more, (before ++ c :: rest) = more ++ left ∧
        more.length = pos + (rest.length + 1 - left.length) := by
    obtain ⟨passed, rfl⟩ := suffix
    refine ⟨before ++ c :: passed, by simp, ?_⟩
    simp only [List.length_append, List.length_cons, length]
    omega
  induction scans generalizing before with
  | done => exact nomatch member
  | silent _ _ ih =>
    obtain ⟨more, whole, lengthMore⟩ := further (step_rest ..) length
    rw [whole]
    exact ih more lengthMore member
  | @token pos regex templates c rest found token' shows _ ih =>
    obtain here | later := List.mem_cons.1 member
    · obtain ⟨rfl, rfl⟩ := Prod.mk.inj here
      rw [← length, List.drop_left]
      exact (step_sound regex templates c rest).starts token shows
    · obtain ⟨more, whole, lengthMore⟩ := further (step_rest ..) length
      rw [whole]
      exact ih more lengthMore later

end Scans

theorem starts_of_mem_tokens {source : Text} {i : Nat} {token : CodeToken}
    (member : (i, token) ∈ tokens source) : token.Starts (source.drop i) :=
  (scans_iff.2 rfl).starts [] rfl member

theorem sorted_tokens (source : Text) : ((tokens source).map Prod.fst).Pairwise (· < ·) :=
  (scans_iff.2 rfl).sorted.2

end ModuleHooks.CodeToken
