import Mathlib.Data.List.Nodup
import Mathlib.Data.List.Perm.Subperm
import ModuleHooks.Proofs.Transform.Calls

/-!
Brackets and their partners. A stack of open brackets pairs each bracket that closes with the innermost open one
(`partners`): two brackets are partners exactly when brackets belong together between them
(`mem_partners_iff`), whatever braces, templates and other calls stand there. The brackets that end dynamic
imports are those whose partner stands right behind the word of a call (`callEnds_partners`); the scan keeps
no more of an open bracket than whether it does (`mem_closings_iff`).
-/
namespace ModuleHooks.DynamicImport

open CodeToken

/-- The brackets among tokens. -/
def brackets (found : List (Nat × CodeToken)) : List (Nat × CodeToken) :=
  found.filter fun p => p.2 = .mark '(' ∨ p.2 = .mark ')'

/-- The brackets that close with the ones that they close, by their places; `opened` are the places of the
brackets that are open before, the innermost first. A bracket that closes while none is open has no partner. -/
def partners (opened : List Nat) : List (Nat × CodeToken) → List (Nat × Nat)
  | [] => []
  | (pos, .mark '(') :: rest => partners (pos :: opened) rest
  | (pos, .mark ')') :: rest =>
    match opened with
    | [] => partners [] rest
    | o :: outer => (o, pos) :: partners outer rest
  | _ :: rest => partners opened rest

/-- The token at a place is a bracket that stands right behind the word of a call, and the word does not stand
right behind a dot. -/
def BeginsCall (found : List (Nat × CodeToken)) (o : Nat) : Prop :=
  ∃ before p after, found = before ++ (p, .word importWord) :: (o, .mark '(') :: after ∧
    ∀ q, before.getLast? ≠ some (q, .mark '.')

variable {opened : List Nat} {found front rest : List (Nat × CodeToken)} {m : Matching} {token : CodeToken}
  {o e pos : Nat}

/-! ## One token -/

theorem partners_open : partners opened ((pos, .mark '(') :: rest) = partners (pos :: opened) rest := rfl

theorem partners_close :
    partners (o :: opened) ((pos, .mark ')') :: rest) = (o, pos) :: partners opened rest := rfl

theorem partners_unmatched : partners [] ((pos, .mark ')') :: rest) = partners [] rest := rfl

theorem partners_other (opens : token ≠ .mark '(') (closes : token ≠ .mark ')') :
    partners opened ((pos, token) :: rest) = partners opened rest := by
  rw [partners]
  · exact fun _ same => opens (Prod.mk.inj same).2
  · exact fun _ same => closes (Prod.mk.inj same).2

/-- Only brackets count. -/
theorem partners_brackets (opened : List Nat) (found : List (Nat × CodeToken)) :
    partners opened (brackets found) = partners opened found := by
  induction found generalizing opened with
  | nil => rfl
  | cons p rest ih =>
    obtain ⟨pos, token⟩ := p
    by_cases opens : token = .mark '('
    · subst opens
      rw [brackets, List.filter_cons_of_pos (by simp), partners_open, partners_open]
      exact ih _
    by_cases closes : token = .mark ')'
    · subst closes
      rw [brackets, List.filter_cons_of_pos (by simp)]
      cases opened with
      | nil => exact ih []
      | cons o outer => exact congrArg ((o, pos) :: ·) (ih outer)
    · rw [brackets, List.filter_cons_of_neg (by simp [opens, closes]), partners_other opens closes]
      exact ih opened

/-! ## What partners are -/

/-- The bracket at a place closes one inside which so many are open. -/
def Closes (depth e : Nat) (found : List (Nat × CodeToken)) : Prop :=
  ∃ inside after, found = inside ++ (e, .mark ')') :: after ∧ depth? depth (inside.map Prod.snd) = some 0

theorem closes_cons {depth : Nat} :
    Closes depth e ((pos, token) :: rest) ↔
      (depth = 0 ∧ pos = e ∧ token = .mark ')') ∨
        ∃ next, nextDepth? depth token = some next ∧ Closes next e rest := by
  constructor
  · rintro ⟨inside, after, whole, deep⟩
    cases inside with
    | nil =>
      obtain ⟨same, -⟩ := List.cons.inj whole
      obtain ⟨rfl, rfl⟩ := Prod.mk.inj same
      exact .inl ⟨Option.some.inj deep, rfl, rfl⟩
    | cons p inside =>
      obtain ⟨rfl, rfl⟩ := List.cons.inj whole
      obtain ⟨next, first, further⟩ := Option.bind_eq_some_iff.1 deep
      exact .inr ⟨next, first, inside, after, rfl, further⟩
  · rintro (⟨rfl, rfl, rfl⟩ | ⟨next, first, inside, after, rfl, further⟩)
    · exact ⟨[], rest, rfl, rfl⟩
    · exact ⟨(pos, token) :: inside, after, rfl, Option.bind_eq_some_iff.2 ⟨next, first, further⟩⟩

theorem closes_cons_open {depth : Nat} :
    Closes depth e ((pos, .mark '(') :: rest) ↔ Closes (depth + 1) e rest := by
  simp [closes_cons, nextDepth?]

theorem closes_cons_close : Closes 0 e ((pos, .mark ')') :: rest) ↔ pos = e := by
  simp [closes_cons, nextDepth?]

theorem closes_cons_close_inside {depth : Nat} :
    Closes (depth + 1) e ((pos, .mark ')') :: rest) ↔ Closes depth e rest := by
  simp [closes_cons, nextDepth?]

theorem closes_cons_other {depth : Nat} (opens : token ≠ .mark '(') (closes : token ≠ .mark ')') :
    Closes depth e ((pos, token) :: rest) ↔ Closes depth e rest := by
  simp [closes_cons, nextDepth?_of_ne opens closes, closes]

/-- The token at a place is a bracket that opens, and it is closed behind. -/
def Matched (o e : Nat) (found : List (Nat × CodeToken)) : Prop :=
  ∃ before after, found = before ++ (o, .mark '(') :: after ∧ Closes 0 e after

theorem matched_cons :
    Matched o e ((pos, token) :: rest) ↔
      (token = .mark '(' ∧ pos = o ∧ Closes 0 e rest) ∨ Matched o e rest := by
  constructor
  · rintro ⟨before, after, whole, closes⟩
    cases before with
    | nil =>
      obtain ⟨same, rfl⟩ := List.cons.inj whole
      obtain ⟨rfl, rfl⟩ := Prod.mk.inj same
      exact .inl ⟨rfl, rfl, closes⟩
    | cons p before =>
      obtain ⟨rfl, rfl⟩ := List.cons.inj whole
      exact .inr ⟨before, after, rfl, closes⟩
  · rintro (⟨rfl, rfl, closes⟩ | ⟨before, after, rfl, closes⟩)
    · exact ⟨[], rest, rfl, closes⟩
    · exact ⟨(pos, token) :: before, after, rfl, closes⟩

/-- The bracket that a pair opens with is among the tokens, or it is on the stack and as many others that are
above it are closed first. -/
theorem mem_partners_from :
    (o, e) ∈ partners opened found ↔
      Matched o e found ∨ ∃ depth, opened[depth]? = some o ∧ Closes depth e found := by
  induction found generalizing opened with
  | nil => simp [partners, Matched, Closes]
  | cons p rest ih =>
    obtain ⟨pos, token⟩ := p
    rw [matched_cons]
    by_cases opens : token = .mark '('
    · subst opens
      rw [partners_open, ih, ← Nat.or_exists_add_one]
      simp only [closes_cons_open, List.getElem?_cons_zero, List.getElem?_cons_succ, Option.some_inj,
        true_and]
      tauto
    by_cases closes : token = .mark ')'
    · subst closes
      cases opened with
      | nil => simp [partners_unmatched, ih]
      | cons x outer =>
        rw [partners_close, List.mem_cons, ih, ← Nat.or_exists_add_one (p := fun depth =>
          (x :: outer)[depth]? = some o ∧ Closes depth e ((pos, .mark ')') :: rest))]
        simp only [closes_cons_close, closes_cons_close_inside, List.getElem?_cons_zero,
          List.getElem?_cons_succ, Option.some_inj, Prod.mk.injEq, opens, false_and, false_or]
        tauto
    · simp only [partners_other opens closes, ih, closes_cons_other opens closes, opens, false_and,
        false_or]

/-- Partners are brackets between which brackets belong together. -/
theorem mem_partners_iff :
    (o, e) ∈ partners [] found ↔ ∃ before inside after,
      found = before ++ (o, .mark '(') :: (inside ++ (e, .mark ')') :: after) ∧
        isNested (inside.map Prod.snd) = true := by
  rw [mem_partners_from]
  constructor
  · rintro (⟨before, _, rfl, inside, after, rfl, nested⟩ | ⟨depth, none, -⟩)
    · exact ⟨before, inside, after, rfl, decide_eq_true nested⟩
    · exact nomatch none
  · rintro ⟨before, inside, after, rfl, nested⟩
    exact .inl ⟨before, _, rfl, inside, after, rfl, of_decide_eq_true nested⟩

/-- What closes brackets are tokens, in their order. -/
theorem map_snd_partners (opened : List Nat) (found : List (Nat × CodeToken)) :
    ((partners opened found).map Prod.snd).Sublist (found.map Prod.fst) := by
  fun_induction partners opened found with
  | case1 => exact .slnil
  | case2 opened pos rest ih => exact ih.cons pos
  | case3 pos rest ih => exact ih.cons pos
  | case4 pos rest o outer ih => exact ih.cons_cons pos
  | case5 opened p rest _ _ ih => exact ih.cons p.1

/-- What is closed was open before or is a token. -/
theorem map_fst_partners (opened : List Nat) (found : List (Nat × CodeToken)) :
    ((partners opened found).map Prod.fst).Subperm (opened ++ found.map Prod.fst) := by
  have skip (opened rest : List Nat) (pos : Nat) : (opened ++ rest).Subperm (opened ++ pos :: rest) :=
    ((List.sublist_cons_self pos rest).append_left opened).subperm
  fun_induction partners opened found with
  | case1 => exact List.nil_subperm
  | case2 opened pos rest ih => exact ih.trans List.perm_middle.symm.subperm
  | case3 pos rest ih => exact ih.trans (skip [] _ pos)
  | case4 pos rest o outer ih => exact (List.subperm_cons o).2 (ih.trans (skip outer _ pos))
  | case5 opened p rest _ _ ih => exact ih.trans (skip opened _ p.1)

/-! ## The brackets of calls -/

/-- Places tell tokens apart. -/
theorem eq_of_places {before after : List (Nat × CodeToken)} {token other : CodeToken}
    (sorted : ((front ++ (o, token) :: rest).map Prod.fst).Pairwise (· < ·))
    (same : front ++ (o, token) :: rest = before ++ (o, other) :: after) : front = before := by
  have alone {l : List (Nat × CodeToken)} {token : CodeToken} {l' : List (Nat × CodeToken)}
      (sorted : ((l ++ (o, token) :: l').map Prod.fst).Pairwise (· < ·)) :
      l = (l ++ (o, token) :: l').takeWhile (·.1 < o) := by
    rw [List.map_append, List.pairwise_append] at sorted
    have smaller : ∀ p ∈ l, decide (p.1 < o) = true := fun p member =>
      decide_eq_true (sorted.2.2 p.1 (List.mem_map_of_mem member) o (by simp))
    rw [List.takeWhile_append_of_pos smaller, List.takeWhile_cons_of_neg (by simp), List.append_nil]
  rw [alone sorted, same, ← alone (same ▸ sorted)]

theorem isCallHead_iff : isCallHead (front.map Prod.snd) = true ↔
    ∃ before p, front = before ++ [(p, .word importWord)] ∧ ∀ q, before.getLast? ≠ some (q, .mark '.') := by
  obtain rfl | ⟨before, ⟨p, token⟩, rfl⟩ := List.eq_nil_or_concat front
  · simp [isCallHead]
  · rw [List.concat_eq_append]
    simp [isCallHead, List.getLast?_map]

theorem beginsCall_iff (sorted : ((front ++ (o, .mark '(') :: rest).map Prod.fst).Pairwise (· < ·)) :
    BeginsCall (front ++ (o, .mark '(') :: rest) o ↔ isCallHead (front.map Prod.snd) = true := by
  rw [isCallHead_iff]
  constructor
  · rintro ⟨before, p, after, whole, plain⟩
    have cut : front ++ (o, .mark '(') :: rest =
        (before ++ [(p, .word importWord)]) ++ (o, .mark '(') :: after := by simpa using whole
    exact ⟨before, p, eq_of_places sorted cut, plain⟩
  · rintro ⟨before, p, rfl, plain⟩
    exact ⟨before, p, rest, by simp, plain⟩

theorem Matching.after_singleton (m : Matching) (token : CodeToken) : m.after [token] = (m.next token).1 := rfl

/-- What the matching keeps of each open bracket is whether it begins a call. -/
theorem mem_closings_iff (whole : found = front ++ rest) (sorted : (found.map Prod.fst).Pairwise (· < ·))
    (keeps : List.Forall₂ (fun opens o => opens = true ↔ BeginsCall found o)
      (Matching.after {} (front.map Prod.snd)).brackets opened) :
    e ∈ closings (Matching.after {} (front.map Prod.snd)) rest ↔
      ∃ o, (o, e) ∈ partners opened rest ∧ BeginsCall found o := by
  induction rest generalizing front opened with
  | nil => simp [closings, partners]
  | cons p rest ih =>
    obtain ⟨pos, token⟩ := p
    have further {opened : List Nat} := @ih opened (front ++ [(pos, token)]) (by simp [whole])
    simp only [List.map_append, List.map_cons, List.map_nil, Matching.after_append,
      Matching.after_singleton] at further
    rw [mem_closings_cons, closes_next_iff]
    by_cases opens : token = .mark '('
    · subst opens whole
      have first : (Matching.after {} (front.map Prod.snd)).pending = true ↔
          BeginsCall (front ++ (pos, .mark '(') :: rest) pos := by
        rw [beginsCall_iff sorted, pending_after]
      have later := further (.cons first keeps)
      rw [partners_open, ← later]
      simp
    by_cases closes : token = .mark ')'
    · subst closes
      generalize matching : Matching.after {} (front.map Prod.snd) = m at keeps further ⊢
      cases stack : m.brackets with
      | nil =>
        rw [stack] at keeps
        cases keeps
        have later := @further [] (by simp [Matching.next, stack])
        rw [partners_unmatched, ← later]
        simp
      | cons opens outer =>
        rw [stack] at keeps
        cases keeps with
        | @cons _ o _ outer first others =>
          have later := @further outer (by simpa [Matching.next, stack] using others)
          simp only [partners_close, List.mem_cons, Prod.mk.injEq, or_and_right, exists_or, ← later]
          simp [← first, and_comm]
    · have later := further (by rwa [Matching.brackets_next opens closes])
      rw [partners_other opens closes, ← later]
      simp [closes]

/-- A source gets a continuation behind exactly those brackets whose partner begins a call: it stands right
behind the word of a call, which does not stand right behind a dot. The tokens are those that the scan of the
source finds, and brackets are paired by a stack, without regard to other tokens: partners are brackets between
which brackets belong together. Each bracket has one partner at most, so a call that is never closed gets
nothing, nor does a bracket that closes nothing. -/
theorem callEnds_partners (source : Text) :
    (∀ found, Scans 0 true [] source found ↔ found = tokens source) ∧
    ((continued? source).map TransformOutput.code).getD source =
      (callEnds source).foldr (insertBehind continuation) source ∧
    (callEnds source).Pairwise (· < ·) ∧
    (∀ e, e ∈ callEnds source ↔
      ∃ o, (o, e) ∈ partners [] (brackets (tokens source)) ∧ BeginsCall (tokens source) o) ∧
    (∀ o e, (o, e) ∈ partners [] (brackets (tokens source)) ↔ ∃ before inside after,
      tokens source = before ++ (o, .mark '(') :: (inside ++ (e, .mark ')') :: after) ∧
        isNested (inside.map Prod.snd) = true) ∧
    ((partners [] (brackets (tokens source))).map Prod.fst).Nodup ∧
    ((partners [] (brackets (tokens source))).map Prod.snd).Nodup := by
  have sorted := sorted_tokens source
  have places : ((tokens source).map Prod.fst).Nodup := sorted.imp Nat.ne_of_lt
  rw [partners_brackets]
  refine ⟨fun _ => scans_iff, code_continued source, sorted_callEnds source, fun e => ?_,
    fun o e => mem_partners_iff, ?_, places.sublist (map_snd_partners [] _)⟩
  · have whole : tokens source = [] ++ tokens source := rfl
    exact mem_closings_iff whole sorted .nil
  · obtain ⟨l, perm, sublist⟩ := map_fst_partners [] (tokens source)
    exact perm.nodup_iff.1 (places.sublist sublist)

/-- Calls in the arguments of calls, in code of a template and behind a bracket that closes nothing; the last
one is never closed. -/
example : callEnds ") import(`${ (import(a)) }`); o.import(b); import(import(c)".toList = [22, 27, 58] := by
  decide +kernel

end ModuleHooks.DynamicImport
