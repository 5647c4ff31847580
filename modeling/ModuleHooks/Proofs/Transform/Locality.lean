import ModuleHooks.Proofs.Transform.Reading

/-!
How far a scan looks. What a step does depends on the text that it passes and on the first character behind it,
and on nothing else (`step_local`): where it ends, it has not looked further. So two texts that agree up to
some place and in the character there are scanned alike up to that place (`Passes.congr`), and a scan is the
same wherever its text stands (`Scans.shift`).
-/
namespace ModuleHooks.CodeToken

/-! ## Passing text -/

/-- What a character leads to when a literal or a comment is passed: its end so many characters from there on,
so many further characters to be passed as well, or the end of the source. -/
inductive Move (σ : Type)
  | ends (n : Nat)
  | further (s : σ) (n : Nat)
  | lost

/-- The function passes text by such moves, which depend on the character and the next one. A move that ends in
front of its character depends on the character alone. -/
structure Walks {σ : Type} (f : σ → Text → Text) (move : σ → Char → Option Char → Move σ) : Prop where
  nil (s : σ) : f s [] = []
  cons (s : σ) (c : Char) (rest : Text) :
    f s (c :: rest) =
      match move s c rest.head? with
      | .ends n => (c :: rest).drop n
      | .further s n => f s (rest.drop n)
      | .lost => []
  here {s : σ} {c : Char} {next : Option Char} (ends : move s c next = .ends 0) (other : Option Char) :
    move s c other = .ends 0

section

variable {passed left other : Text}

theorem head?_append_congr (same : left.head? = other.head?) :
    (passed ++ left).head? = (passed ++ other).head? := by
  cases passed with
  | nil => exact same
  | cons c rest => rfl

namespace Walks

variable {σ : Type} {f : σ → Text → Text} {move : σ → Char → Option Char → Move σ}

theorem length_le (walks : Walks f move) (s : σ) (t : Text) : (f s t).length ≤ t.length := by
  induction length : t.length using Nat.strongRecOn generalizing s t with
  | ind n ih =>
    subst length
    cases t with
    | nil => simp [walks.nil]
    | cons c rest =>
      rw [walks.cons]
      split
      case h_1 n _ => exact List.length_drop ▸ Nat.sub_le _ n
      case h_2 next n _ =>
        have shorter : (rest.drop n).length ≤ rest.length := List.length_drop ▸ Nat.sub_le _ n
        have fewer : (rest.drop n).length < (c :: rest).length := Nat.lt_succ_of_le shorter
        exact Nat.le_trans (ih _ fewer next _ rfl) (Nat.le_of_lt fewer)
      case h_3 => exact Nat.zero_le _

/-- What is passed is passed in front of any text that begins with the same character. -/
theorem passes_congr (walks : Walks f move) {s : σ} (some : left ≠ []) (same : left.head? = other.head?)
    (passes : f s (passed ++ left) = left) : f s (passed ++ other) = other := by
  induction length : passed.length using Nat.strongRecOn generalizing s passed with
  | ind n ih =>
    subst length
    have positive := List.length_pos_iff.2 some
    cases passed with
    | nil =>
      obtain ⟨c, rest, rfl⟩ := List.exists_cons_of_ne_nil some
      obtain ⟨more, rfl⟩ := List.head?_eq_some_iff.1 same.symm
      rw [List.nil_append, walks.cons] at passes
      rw [List.nil_append, walks.cons]
      split at passes
      case h_1 n moves =>
        obtain rfl : n = 0 := by
          have lengths := congrArg List.length passes
          rw [List.length_drop] at lengths
          omega
        rw [walks.here moves more.head?]
        rfl
      case h_2 next n moves =>
        have lengths := walks.length_le next (rest.drop n)
        rw [passes, List.length_drop, List.length_cons] at lengths
        omega
      case h_3 => exact absurd passes.symm some
    | cons c passed =>
      rw [List.cons_append, walks.cons] at passes ⊢
      rw [← head?_append_congr same]
      split at passes
      case h_1 n moves =>
        have lengths := congrArg List.length passes
        rw [List.length_drop, ← List.cons_append, List.length_append] at lengths
        have enough : n = (c :: passed).length := by omega
        simp only [moves]
        rw [← List.cons_append, enough, List.drop_left]
      case h_2 next n moves =>
        have lengths := walks.length_le next ((passed ++ left).drop n)
        rw [passes, List.length_drop, List.length_append] at lengths
        have inside : n ≤ passed.length := by omega
        simp only [moves]
        rw [List.drop_append_of_le_length inside] at passes ⊢
        refine ih _ ?_ passes rfl
        rw [List.length_drop, List.length_cons]
        omega
      case h_3 => exact absurd passes.symm some

end Walks

theorem dropWhile_local {p : Char → Bool} (some : left ≠ []) (same : left.head? = other.head?)
    (passes : (passed ++ left).dropWhile p = left) :
    (passed ++ other).dropWhile p = other ∧ (passed ++ other).takeWhile p = (passed ++ left).takeWhile p := by
  obtain ⟨c, rest, rfl⟩ := List.exists_cons_of_ne_nil some
  obtain ⟨more, rfl⟩ := List.head?_eq_some_iff.1 same.symm
  have taken : (passed ++ c :: rest).takeWhile p = passed := by
    have whole := List.takeWhile_append_dropWhile (p := p) (l := passed ++ c :: rest)
    rw [passes] at whole
    exact List.append_cancel_right whole
  have inside : ∀ d ∈ passed, p d = true := List.all_eq_true.1 (taken ▸ List.all_takeWhile)
  have stops : p c = false := by
    have head := List.head?_dropWhile_not p (passed ++ c :: rest)
    rw [passes] at head
    simpa using head
  rw [taken, List.dropWhile_append_of_pos inside, List.takeWhile_append_of_pos inside]
  simp [stops]

theorem walks_blockComment :
    Walks (fun (_ : Unit) s => afterBlockComment s) fun _ c next =>
      if c = '*' ∧ next = some '/' then .ends 2 else .further () 0 where
  nil _ := rfl
  cons _ c rest := by
    by_cases closes : c = '*' ∧ rest.head? = some '/'
    · obtain ⟨rfl, head⟩ := closes
      obtain ⟨rest, rfl⟩ := List.head?_eq_some_iff.1 head
      rfl
    · simp only [if_neg closes, List.drop_zero]
      rw [afterBlockComment]
      rintro more rfl rfl
      exact closes ⟨rfl, rfl⟩
  here ends other := by
    split at ends <;> simp at ends

theorem walks_string (quote : Char) :
    Walks (fun (_ : Unit) s => afterString quote s) fun _ c _ =>
      if c = '\\' then .further () 1 else if c = '\n' then .ends 0
      else if c = quote then .ends 1 else .further () 0 where
  nil _ := rfl
  cons _ c rest := by
    by_cases escape : c = '\\'
    · subst escape
      cases rest <;> rfl
    · rw [afterString, if_neg escape]
      · simp only [if_neg escape]
        split
        · rfl
        · split <;> rfl
      · rintro d rest rfl
        exact absurd rfl escape
  here ends other := ends

theorem walks_regexBody :
    Walks afterRegexBody fun inClass c _ =>
      if c = '\\' then .further inClass 1 else if c = '\n' then .ends 0
      else if c = '/' && !inClass then .ends 1
      else .further (if c = '[' then true else if c = ']' then false else inClass) 0 where
  nil _ := rfl
  cons inClass c rest := by
    by_cases escape : c = '\\'
    · subst escape
      cases rest <;> rfl
    by_cases line : c = '\n'
    · subst line
      rfl
    · rw [afterRegexBody_cons escape line]
      simp only [if_neg escape, if_neg line]
      split <;> rfl
  here {inClass c next} ends other := ends

/-- What follows template text that ends as asked: at code, or at the closing mark. -/
def templateRest (code : Bool) (s : Text) : Text :=
  match templateEnd s with
  | .closed rest => if code then [] else rest
  | .code rest => if code then rest else []
  | .unfinished => []

theorem walks_template :
    Walks templateRest fun code c next =>
      if c = '\\' then .further code 1
      else if c = '$' ∧ next = some '\x7b' then if code then .ends 2 else .lost
      else if c = '\x60' then if code then .lost else .ends 1
      else .further code 0 where
  nil _ := rfl
  cons code c rest := by
    by_cases escape : c = '\\'
    · subst escape
      cases rest <;> rfl
    by_cases opens : c = '$' ∧ rest.head? = some '\x7b'
    · obtain ⟨rfl, head⟩ := opens
      obtain ⟨rest, rfl⟩ := List.head?_eq_some_iff.1 head
      cases code <;> rfl
    by_cases closes : c = '\x60'
    · subst closes
      cases code <;> rfl
    · simp only [if_neg escape, if_neg opens, if_neg closes, List.drop_zero]
      rw [templateRest, templateEnd_cons escape closes fun dollar head => opens ⟨dollar, head⟩]
      rfl
  here {code c next} ends other := by
    cases code <;> grind

/-! ## Steps -/

/-- Of two steps, the first goes on from the one rest; then the second goes on from the other one, alike. -/
def Alike (left other : Text) (next also : Step) : Prop := next.rest = left → also = { next with rest := other }

namespace Alike

variable {next also next' also' : Step}

theorem ite {p q : Prop} [Decidable p] [Decidable q] (same : p ↔ q) (holds : p → Alike left other next also)
    (fails : ¬p → Alike left other next' also') :
    Alike left other (if p then next else next') (if q then also else also') := by
  by_cases h : p
  · rw [if_pos h, if_pos (same.1 h)]
    exact holds h
  · rw [if_neg h, if_neg (mt same.2 h)]
    exact fails h

theorem of_rest {token : Option CodeToken} {templates : List Nat} {s t : Text} (goes : s = left → t = other) :
    Alike left other ⟨token, templates, s⟩ ⟨token, templates, t⟩ := by
  rintro rfl
  rw [goes rfl]

/-- A step that goes on right behind its character. -/
theorem behind {token : Option CodeToken} {templates : List Nat} :
    Alike left other ⟨token, templates, passed ++ left⟩ ⟨token, templates, passed ++ other⟩ :=
  of_rest fun nothing => by rw [List.append_left_eq_self.1 nothing, List.nil_append]

end Alike

theorem templateStep_alike {templates : List Nat} (some : left ≠ []) (same : left.head? = other.head?) :
    Alike left other (templateStep templates (passed ++ left)) (templateStep templates (passed ++ other)) := by
  have further (code : Bool) (rest : templateRest code (passed ++ left) = left) :
      templateRest code (passed ++ other) = other := walks_template.passes_congr some same rest
  have filled : other ≠ [] := by
    rintro rfl
    exact some (List.head?_eq_none_iff.1 same)
  intro goes
  unfold templateStep at goes ⊢
  cases ends : templateEnd (passed ++ left) with
  | closed rest =>
    rw [ends] at goes
    have also := further false (by rw [templateRest, ends]; exact goes)
    unfold templateRest at also
    cases endsToo : templateEnd (passed ++ other) <;> simp_all
  | code rest =>
    rw [ends] at goes
    have also := further true (by rw [templateRest, ends]; exact goes)
    unfold templateRest at also
    cases endsToo : templateEnd (passed ++ other) <;> simp_all
  | unfinished =>
    rw [ends] at goes
    exact absurd goes.symm some

theorem closeBrace_alike {templates : List Nat} (some : left ≠ []) (same : left.head? = other.head?) :
    Alike left other (closeBrace templates (passed ++ left)) (closeBrace templates (passed ++ other)) := by
  unfold closeBrace
  split
  · exact templateStep_alike some same
  · exact .behind
  · exact .behind

theorem afterRegex_congr (some : left ≠ []) (same : left.head? = other.head?)
    (goes : afterRegex (passed ++ left) = left) : afterRegex (passed ++ other) = other := by
  have suffix := afterRegexBody_suffix false (passed ++ left)
  -- The flags, if there are any, are passed behind the body.
  obtain ⟨body, whole⟩ := suffix
  obtain ⟨flags, rest⟩ : left <:+ afterRegexBody false (passed ++ left) := by
    have ends := List.dropWhile_suffix (l := afterRegexBody false (passed ++ left)) continuesWord
    rwa [show List.dropWhile continuesWord _ = left from goes] at ends
  rw [← rest, ← List.append_assoc] at whole
  obtain rfl := List.append_cancel_right whole
  rw [List.append_assoc] at goes rest ⊢
  have inside := walks_regexBody.passes_congr (List.append_ne_nil_of_right_ne_nil flags some)
    (head?_append_congr same) rest.symm
  rw [afterRegex, ← rest] at goes
  rw [afterRegex, inside]
  exact (dropWhile_local some same goes).1

theorem afterBlockComment_congr (some : left ≠ []) (same : left.head? = other.head?)
    (goes : afterBlockComment (passed ++ left).tail = left) :
    afterBlockComment (passed ++ other).tail = other := by
  cases passed with
  | nil =>
    have shorter := (afterBlockComment_suffix left.tail).length_le
    have positive := List.length_pos_iff.2 some
    rw [List.nil_append] at goes
    rw [goes, List.length_tail] at shorter
    omega
  | cons c passed =>
    exact walks_blockComment.passes_congr (s := ()) some same goes

/-- A step does not depend on what comes behind the first character that it leaves. -/
theorem step_local {regex : Bool} {templates : List Nat} {c : Char} (some : left ≠ [])
    (same : left.head? = other.head?) :
    Alike left other (step regex templates c (passed ++ left)) (step regex templates c (passed ++ other)) := by
  have heads : (passed ++ left).head? = (passed ++ other).head? := head?_append_congr same
  unfold step
  rw [heads]
  refine .ite .rfl (fun _ => .behind) fun _ => ?_
  refine .ite .rfl (fun _ => .of_rest fun goes => (dropWhile_local some same goes).1) fun _ => ?_
  refine .ite .rfl (fun _ => .of_rest (afterBlockComment_congr some same)) fun _ => ?_
  refine .ite .rfl (fun _ => .of_rest (afterRegex_congr some same)) fun _ => ?_
  refine .ite .rfl (fun _ => .of_rest ((walks_string c).passes_congr (s := ()) some same)) fun _ => ?_
  refine .ite .rfl (fun _ => templateStep_alike some same) fun _ => ?_
  refine .ite .rfl (fun _ => .behind) fun _ => ?_
  refine .ite .rfl (fun _ => closeBrace_alike some same) fun _ => ?_
  refine .ite .rfl (fun _ goes => ?_) fun _ => ?_
  · obtain ⟨rest, taken⟩ := dropWhile_local some same goes
    rw [rest, taken]
  · exact .ite .rfl (fun _ => .of_rest fun goes => (dropWhile_local some same goes).1) fun _ => .behind

/-! ## Parts of a scan -/

/-- Where a scan stands: its position, whether a slash begins a regular expression there, the braces that are
open in each template, and the text that is left. -/
structure Place where
  pos : Nat
  regex : Bool
  templates : List Nat
  left : Text

/-- Where a scan of the source starts. -/
def Place.start (source : Text) : Place := ⟨0, true, [], source⟩

/-- Where a step from a character leads to. -/
def Place.behind (pos : Nat) (regex : Bool) (templates : List Nat) (c : Char) (rest : Text) : Place :=
  let next := step regex templates c rest
  ⟨pos + (rest.length + 1 - next.rest.length), (next.token.map beforeRegex).getD regex, next.templates, next.rest⟩

/-- A scan goes step by step from one place to another, with the tokens that it finds on the way. -/
inductive Passes : Place → List (Nat × CodeToken) → Place → Prop
  | stays (a : Place) : Passes a [] a
  | step {pos : Nat} {regex : Bool} {templates : List Nat} {c : Char} {rest : Text}
      {found : List (Nat × CodeToken)} {b : Place}
      (further : Passes (.behind pos regex templates c rest) found b) :
      Passes ⟨pos, regex, templates, c :: rest⟩
        (((CodeToken.step regex templates c rest).token.map (pos, ·)).toList ++ found) b

/-- Some step of the scan of a source starts, or the scan ends, at the position. -/
def Reaches (source : Text) (n : Nat) : Prop :=
  ∃ found b, Passes (.start source) found b ∧ b.pos = n

variable {a b : Place} {found later : List (Nat × CodeToken)}

theorem Passes.left_suffix (passes : Passes a found b) : b.left <:+ a.left := by
  induction passes with
  | stays => exact List.suffix_rfl
  | @step pos regex templates c rest _ _ _ ih =>
    exact ih.trans ((step_rest regex templates c rest).trans (List.suffix_cons c rest))

theorem Passes.pos_add (passes : Passes a found b) :
    b.pos + b.left.length = a.pos + a.left.length := by
  induction passes with
  | stays => rfl
  | @step pos regex templates c rest _ _ _ ih =>
    have shorter := (step_rest regex templates c rest).length_le
    rw [ih]
    simp only [Place.behind, List.length_cons]
    omega

theorem Passes.pos_le (passes : Passes a found b) : a.pos ≤ b.pos := by
  have shorter := passes.left_suffix.length_le
  have total := passes.pos_add
  omega

/-- What is found on the way stands in front of where the way ends. -/
theorem Passes.lt_pos (passes : Passes a found b) : ∀ p ∈ found, p.1 < b.pos := by
  induction passes with
  | stays => exact fun _ member => nomatch member
  | @step pos regex templates c rest found b further ih =>
    intro p member
    obtain here | later := List.mem_append.1 member
    · obtain ⟨token, -, rfl⟩ := Option.map_eq_some_iff.1 (Option.mem_toList.1 here)
      have shorter := (step_rest regex templates c rest).length_le
      have onward := further.pos_le
      simp only [Place.behind] at onward
      omega
    · exact ih p later

/-- A step that passes some text behind its character. -/
theorem Passes.one {pos : Nat} {regex : Bool} {templates next : List Nat} {c : Char} {front rest : Text}
    {token : Option CodeToken}
    (goes : CodeToken.step regex templates c (front ++ rest) = ⟨token, next, rest⟩) :
    Passes ⟨pos, regex, templates, c :: (front ++ rest)⟩ (token.map (pos, ·)).toList
      ⟨pos + (front.length + 1), (token.map beforeRegex).getD regex, next, rest⟩ := by
  have place : Place.behind pos regex templates c (front ++ rest) =
      ⟨pos + (front.length + 1), (token.map beforeRegex).getD regex, next, rest⟩ := by
    simp only [Place.behind, goes, List.length_append]
    congr 1
    omega
  have passes : Passes ⟨pos, regex, templates, c :: (front ++ rest)⟩ _ _ := .step (.stays _)
  rwa [place, goes, List.append_nil] at passes

theorem Passes.trans {c : Place} (passes : Passes a found b) (further : Passes b later c) :
    Passes a (found ++ later) c := by
  induction passes with
  | stays => exact further
  | step _ ih =>
    rw [List.append_assoc]
    exact .step (ih further)

/-! ## Positions that are reached -/

/-- The positions at which a scan stands, with so many steps to come. -/
def stops : Nat → Place → List Nat
  | fuel + 1, ⟨pos, regex, templates, c :: rest⟩ => pos :: stops fuel (.behind pos regex templates c rest)
  | _, a => [a.pos]

theorem exists_of_mem_stops {fuel n : Nat} (member : n ∈ stops fuel a) :
    ∃ found b, Passes a found b ∧ b.pos = n := by
  fun_induction stops fuel a with
  | case1 fuel pos regex templates c rest ih =>
    obtain rfl | later := List.mem_cons.1 member
    · exact ⟨[], _, .stays _, rfl⟩
    · obtain ⟨found, b, passes, here⟩ := ih later
      exact ⟨_, b, .step passes, here⟩
  | case2 => exact ⟨[], _, .stays _, (List.mem_singleton.1 member).symm⟩

theorem Passes.mem_stops (passes : Passes a found b) {fuel : Nat} (enough : a.left.length ≤ fuel) :
    b.pos ∈ stops fuel a := by
  induction passes generalizing fuel with
  | stays a => unfold stops; split <;> simp
  | @step pos regex templates c rest found b _ ih =>
    obtain ⟨fuel, rfl⟩ := Nat.exists_eq_add_one_of_ne_zero (Nat.ne_zero_of_lt (Nat.lt_of_succ_le enough))
    have shorter := (step_rest regex templates c rest).length_le
    exact List.mem_cons_of_mem _ (ih (Nat.le_trans shorter (Nat.le_of_succ_le_succ enough)))

theorem reaches_iff {source : Text} {n : Nat} : Reaches source n ↔ n ∈ stops source.length (.start source) :=
  ⟨fun ⟨_, _, passes, here⟩ => here ▸ passes.mem_stops (Nat.le_refl _), exists_of_mem_stops⟩

instance (source : Text) (n : Nat) : Decidable (Reaches source n) := decidable_of_iff _ reaches_iff.symm

/-! ## Two texts -/

/-- A scan that passes some text finds what is there and then what is behind. -/
theorem Scans.of_passes (passes : Passes a found b) (scans : Scans b.pos b.regex b.templates b.left later) :
    Scans a.pos a.regex a.templates a.left (found ++ later) := by
  induction passes with
  | stays => exact scans
  | @step pos regex templates c rest found b _ ih =>
    have further := ih scans
    cases shows : (CodeToken.step regex templates c rest).token with
    | none =>
      simp only [Place.behind, shows] at further
      exact .silent shows further
    | some token =>
      simp only [Place.behind, shows] at further
      exact .token shows further

/-- A step finds the same and leads as far in front of any text that begins like the one that it leaves. -/
theorem Place.behind_congr {pos : Nat} {regex : Bool} {templates : List Nat} {c : Char} {rest : Text}
    (whole : passed ++ (step regex templates c rest).rest = rest)
    (some : (step regex templates c rest).rest ≠ [])
    (same : (step regex templates c rest).rest.head? = other.head?) :
    (step regex templates c (passed ++ other)).token = (step regex templates c rest).token ∧
      behind pos regex templates c (passed ++ other) =
        { behind pos regex templates c rest with left := other } := by
  have goes := @step_local passed _ _ regex templates c some same
  rw [whole] at goes
  have also := goes rfl
  have lengths := congrArg List.length whole
  rw [List.length_append] at lengths
  refine ⟨by rw [also], ?_⟩
  simp only [behind, also, List.length_append]
  congr 1
  omega

/-- Text is passed alike in front of any text that begins with the same character. -/
theorem Passes.congr (passes : Passes a found b) (whole : a.left = passed ++ b.left) (some : b.left ≠ [])
    (same : b.left.head? = other.head?) :
    Passes { a with left := passed ++ other } found { b with left := other } := by
  induction passes generalizing passed with
  | stays a =>
    obtain rfl := List.append_left_eq_self.1 whole.symm
    exact .stays _
  | @step pos regex templates c rest found b further ih =>
    -- What the step leaves is passed by the later ones, up to what is left at the end.
    obtain ⟨skipped, skips⟩ := step_rest regex templates c rest
    obtain ⟨inside, between⟩ := further.left_suffix
    change inside ++ b.left = (CodeToken.step regex templates c rest).rest at between
    obtain rfl : passed = c :: (skipped ++ inside) := by
      refine List.append_cancel_right (whole.symm.trans ?_)
      rw [← skips, ← between]
      simp
    have filled : (CodeToken.step regex templates c rest).rest ≠ [] := by
      rw [← between]
      exact List.append_ne_nil_of_right_ne_nil inside some
    have heads : (CodeToken.step regex templates c rest).rest.head? = (inside ++ other).head? := by
      rw [← between]
      exact head?_append_congr same
    obtain ⟨token, place⟩ := @Place.behind_congr skipped _ pos regex templates c rest skips filled heads
    have next := ih between.symm some same
    rw [← place] at next
    have passes := Passes.step next
    rw [token] at passes
    simpa using passes

/-- Where the text stands has no part in a scan. -/
theorem Scans.shift {pos : Nat} {regex : Bool} {templates : List Nat} {s : Text}
    (scans : Scans pos regex templates s found) (n : Nat) :
    Scans (n + pos) regex templates s (found.map fun p => (n + p.1, p.2)) := by
  induction scans with
  | done pos => exact .done ..
  | silent silent _ ih =>
    rw [← Nat.add_assoc] at ih
    exact .silent silent ih
  | token shows _ ih =>
    rw [← Nat.add_assoc] at ih
    exact .token shows ih

end

end ModuleHooks.CodeToken
