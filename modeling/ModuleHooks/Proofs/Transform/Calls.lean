import Mathlib.Data.List.Induction
import ModuleHooks.Proofs.Transform.Continuation
import ModuleHooks.Proofs.Transform.Reading

/-!
Which brackets of a source get a continuation. Brackets are matched over the tokens alone: the innermost open
one is that of a call if the word of a call stands in front of it and is not the name of a member behind a
dot (`exists_opening`, `head?_brackets`). With the tokens that a reading has, this says for each bracket of
the source whether it closes a call (`callEnds_calls`). Where the token before a slash does not tell what the
slash is, text is taken for code, and names that are no members behind a dot are taken for the word
(`callEnds_regex`).
-/
namespace ModuleHooks.DynamicImport

open CodeToken

/-- The depth in brackets behind a token, for the depth in front of it; `none` where no bracket is open. -/
def nextDepth? (depth : Nat) : CodeToken → Option Nat
  | .mark '(' => some (depth + 1)
  | .mark ')' => if depth = 0 then none else some (depth - 1)
  | _ => some depth

/-- The depth in brackets behind tokens, for the depth in front of them. -/
def depth? (depth : Nat) : List CodeToken → Option Nat
  | [] => some depth
  | token :: tokens => (nextDepth? depth token).bind (depth? · tokens)

/-- Whether the brackets among tokens belong together. -/
def isNested (tokens : List CodeToken) : Bool := depth? 0 tokens = some 0

/-- Whether tokens end in the word of a call, and it is not the name of a member behind a dot. -/
def isCallHead (tokens : List CodeToken) : Bool :=
  tokens.getLast? = some (.word importWord) && tokens.dropLast.getLast? ≠ some (.mark '.')

/-- The matching behind tokens. -/
def Matching.after (m : Matching) (tokens : List CodeToken) : Matching :=
  tokens.foldl (fun m token => (m.next token).1) m

variable {m : Matching} {token : CodeToken} {tokens more : List CodeToken}

/-! ## Matching over tokens -/

theorem Matching.after_append (m : Matching) (tokens more : List CodeToken) :
    m.after (tokens ++ more) = (m.after tokens).after more := List.foldl_append

theorem Matching.pending_next : (m.next token).1.pending = true ↔ token = .word importWord ∧ m.afterDot = false := by
  unfold Matching.next
  split <;> simp_all

theorem Matching.afterDot_next : (m.next token).1.afterDot = true ↔ token = .mark '.' := by
  unfold Matching.next
  split <;> simp_all

theorem Matching.brackets_next (opens : token ≠ .mark '(') (closes : token ≠ .mark ')') :
    (m.next token).1.brackets = m.brackets := by
  unfold Matching.next
  split <;> simp_all

theorem nextDepth?_of_ne {depth : Nat} (opens : token ≠ .mark '(') (closes : token ≠ .mark ')') :
    nextDepth? depth token = some depth := by
  unfold nextDepth?
  split <;> simp_all

theorem closes_next_iff : (m.next token).2 = true ↔ token = .mark ')' ∧ m.brackets.head? = some true := by
  refine ⟨closes_next, ?_⟩
  rintro ⟨rfl, head⟩
  exact decide_eq_true head

theorem afterDot_after : (Matching.after {} tokens).afterDot = true ↔ tokens.getLast? = some (.mark '.') := by
  obtain rfl | ⟨before, token, rfl⟩ := List.eq_nil_or_concat tokens
  · simp [Matching.after]
  · rw [List.concat_eq_append, Matching.after_append, List.getLast?_append]
    exact Matching.afterDot_next.trans (by simp)

theorem pending_after : (Matching.after {} tokens).pending = isCallHead tokens := by
  obtain rfl | ⟨before, token, rfl⟩ := List.eq_nil_or_concat tokens
  · simp [Matching.after, isCallHead]
  · rw [List.concat_eq_append, Matching.after_append, Bool.eq_iff_iff]
    refine Matching.pending_next.trans ?_
    rw [← Bool.not_eq_true, afterDot_after]
    simp [isCallHead]

/-! ## Brackets that belong together -/

theorem depth?_append (depth : Nat) (tokens more : List CodeToken) :
    depth? depth (tokens ++ more) = (depth? depth tokens).bind (depth? · more) := by
  induction tokens generalizing depth with
  | nil => rfl
  | cons token tokens ih =>
    rw [List.cons_append, depth?, depth?, Option.bind_assoc]
    exact Option.bind_congr fun next _ => ih next

theorem drop_brackets_next {depth next : Nat} (same : nextDepth? depth token = some next) (m : Matching) :
    (m.next token).1.brackets.drop next = m.brackets.drop depth := by
  unfold nextDepth? at same
  split at same
  · obtain rfl := Option.some.inj same
    rfl
  · obtain ⟨deep, same⟩ := Option.ite_none_left_eq_some.1 same
    obtain rfl := Option.some.inj same
    have one : depth - 1 + 1 = depth := by omega
    exact List.drop_tail.trans (congrArg (List.drop · m.brackets) one)
  case h_3 opens closes =>
    obtain rfl := Option.some.inj same
    rw [Matching.brackets_next opens closes]

/-- What was open in front of tokens is open behind them, as far as they do not close it. -/
theorem drop_brackets {depth after : Nat} (same : depth? depth tokens = some after) (m : Matching) :
    (m.after tokens).brackets.drop after = m.brackets.drop depth := by
  induction tokens generalizing depth m with
  | nil =>
    obtain rfl := Option.some.inj same
    rfl
  | cons token tokens ih =>
    obtain ⟨next, first, same⟩ := Option.bind_eq_some_iff.1 same
    exact (ih same (m.next token).1).trans (drop_brackets_next first m)

/-- Each open bracket was opened by one in front of it: behind this one, as many are open as the open bracket
has inside it. -/
theorem exists_opening {inner outer : List Bool} {opens : Bool}
    (brackets : (Matching.after {} tokens).brackets = inner ++ opens :: outer) :
    ∃ before inside, tokens = before ++ .mark '(' :: inside ∧ depth? 0 inside = some inner.length ∧
      isCallHead before = opens := by
  induction tokens using List.reverseRecOn generalizing inner with
  | nil => simp [Matching.after] at brackets
  | append_singleton front token ih =>
    have further {more : List Bool} (earlier : (Matching.after {} front).brackets = more ++ opens :: outer)
        (next : nextDepth? more.length token = some inner.length) :
        ∃ before inside, front ++ [token] = before ++ .mark '(' :: inside ∧
          depth? 0 inside = some inner.length ∧ isCallHead before = opens := by
      obtain ⟨before, inside, rfl, deep, head⟩ := ih earlier
      refine ⟨before, inside ++ [token], by simp, ?_, head⟩
      simp [depth?_append, deep, depth?, next]
    rw [Matching.after_append] at brackets
    by_cases opening : token = .mark '('
    · subst opening
      cases inner with
      | nil =>
        obtain ⟨same, -⟩ := List.cons.inj brackets
        exact ⟨front, [], rfl, rfl, pending_after.symm.trans same⟩
      | cons _ inner =>
        obtain ⟨-, earlier⟩ := List.cons.inj brackets
        exact further earlier rfl
    by_cases closing : token = .mark ')'
    · subst closing
      have tail : (Matching.after {} front).brackets.tail = inner ++ opens :: outer := brackets
      cases earlier : (Matching.after {} front).brackets with
      | nil =>
        rw [earlier] at tail
        exact absurd tail (by simp)
      | cons closed others =>
        rw [earlier] at tail
        obtain rfl : others = inner ++ opens :: outer := tail
        exact @further (closed :: inner) earlier rfl
    · have stays : nextDepth? inner.length token = some inner.length := nextDepth?_of_ne opening closing
      exact further ((Matching.brackets_next opening closing).symm.trans brackets) stays

/-- Behind a bracket and others that belong together the innermost open one is the first. -/
theorem head?_brackets {before inside : List CodeToken} (nested : isNested inside = true) :
    (Matching.after {} (before ++ .mark '(' :: inside)).brackets.head? = some (isCallHead before) := by
  have deep : depth? 0 inside = some 0 := decide_eq_true_iff.1 nested
  rw [Matching.after_append, ← pending_after]
  exact congrArg List.head? (drop_brackets deep ((Matching.after {} before).next (.mark '(')).1)

/-! ## Calls -/

theorem mem_closings_cons {found : List (Nat × CodeToken)} {pos e : Nat} :
    e ∈ closings m ((pos, token) :: found) ↔
      (e = pos ∧ (m.next token).2 = true) ∨ e ∈ closings (m.next token).1 found := by
  rw [closings]
  cases closes : (m.next token).2 <;> simp [closes]

theorem fst_of_mem_closings {found : List (Nat × CodeToken)} {e : Nat} (closes : e ∈ closings m found) :
    (e, .mark ')') ∈ found := by
  obtain ⟨⟨pos, token⟩, member, rfl⟩ := List.mem_map.1 ((closings_sublist m found).subset closes)
  obtain ⟨member, mark⟩ := List.mem_filter.1 member
  obtain rfl : token = .mark ')' := by simpa using mark
  exact member

/-- Where no two tokens stand in one place, a bracket closes a call if and only if the innermost one that is
open in front of it is that of a call. -/
theorem mem_closings {front back : List (Nat × CodeToken)} {e : Nat}
    (sorted : ((front ++ (e, .mark ')') :: back).map Prod.fst).Pairwise (· < ·)) :
    e ∈ closings m (front ++ (e, .mark ')') :: back) ↔
      (m.after (front.map Prod.snd)).brackets.head? = some true := by
  induction front generalizing m with
  | nil =>
    have beyond : e ∉ closings (m.next (.mark ')')).1 back := fun closes => by
      have least := (List.pairwise_cons.1 sorted).1 e (List.mem_map_of_mem (fst_of_mem_closings closes))
      exact absurd least (Nat.lt_irrefl e)
    rw [List.nil_append, mem_closings_cons, closes_next_iff]
    simp [beyond, Matching.after]
  | cons p front ih =>
    obtain ⟨pos, token⟩ := p
    obtain ⟨before, sorted⟩ := List.pairwise_cons.1 sorted
    have other : e ≠ pos := Nat.ne_of_gt (before e (by simp))
    rw [List.cons_append, mem_closings_cons, ih sorted]
    simp [other, Matching.after]

section

variable {pieces before after : List Piece} {rest : Text}

/-- In the part of a source with a reading, only a piece that is a bracket can close a call. -/
theorem exists_of_mem_callEnds {e : Nat} (reading : isReading [] pieces rest = true)
    (told : isTold true pieces = true) (isEnd : e ∈ callEnds (written pieces ++ rest))
    (inside : e < (written pieces).length) :
    ∃ before after, pieces = before ++ .mark ')' :: after ∧ e = (written before).length := by
  obtain ⟨later, whole, beyond⟩ := (scans_iff.2 rfl).of_reading reading told
  have member := fst_of_mem_closings isEnd
  rw [whole] at member
  obtain here | behind := List.mem_append.1 member
  · obtain ⟨before, p, after, rfl, shows, rfl⟩ := exists_of_placed here
    obtain rfl := Piece.eq_mark shows
    exact ⟨before, after, rfl, Nat.zero_add _⟩
  · have least := beyond _ behind
    omega

theorem mem_callEnds (reading : isReading [] (before ++ .mark ')' :: after) rest = true)
    (told : isTold true (before ++ .mark ')' :: after) = true) :
    (written before).length ∈ callEnds (written (before ++ .mark ')' :: after) ++ rest) ↔
      (Matching.after {} (tokensOf before)).brackets.head? = some true := by
  obtain ⟨later, whole, -⟩ := (scans_iff.2 rfl).of_reading reading told
  have sorted := sorted_tokens (written (before ++ .mark ')' :: after) ++ rest)
  rw [whole, placed_append, List.append_assoc, Nat.zero_add] at sorted
  rw [callEnds, whole, placed_append, List.append_assoc, Nat.zero_add, ← map_snd_placed 0]
  exact mem_closings sorted

/-- The code of a source is the source with the continuation behind each bracket that closes a call. -/
theorem code_continued (source : Text) : ((continued? source).map TransformOutput.code).getD source =
    (callEnds source).foldr (insertBehind continuation) source := by
  have inside : ∀ e ∈ callEnds source, e < source.length := fun e isEnd =>
    (List.getElem?_eq_some_iff.1 (getElem?_of_mem_callEnds isEnd)).1
  rw [continued_eq]
  by_cases none : callEnds source = []
  · rw [if_pos none, none]
    rfl
  · rw [if_neg none]
    exact insertAfter_eq continuation (sorted_callEnds source) inside

/-- A continuation behind a bracket that is a piece is one behind the arguments of a call. -/
theorem exists_call {e : Nat} (reading : isReading [] pieces rest = true) (told : isTold true pieces = true)
    (isEnd : e ∈ callEnds (written pieces ++ rest)) (front : e < (written pieces).length) :
    ∃ before inside after, pieces = before ++ .mark '(' :: inside ++ .mark ')' :: after ∧
      e = (written (before ++ .mark '(' :: inside)).length ∧ isNested (tokensOf inside) = true ∧
      isCallHead (tokensOf before) = true := by
  obtain ⟨whole, after, rfl, rfl⟩ := exists_of_mem_callEnds reading told isEnd front
  have head := (mem_callEnds reading told).1 isEnd
  obtain ⟨outer, brackets⟩ := List.head?_eq_some_iff.1 head
  obtain ⟨before, inside, cut, nested, call⟩ := @exists_opening _ [] _ _ brackets
  obtain ⟨before, p, inside, rfl, shows, rfl, rfl⟩ := exists_of_tokensOf cut
  obtain rfl := Piece.eq_mark shows
  exact ⟨before, inside, after, rfl, rfl, decide_eq_true nested, call⟩

theorem mem_callEnds_iff {inside : List Piece}
    (reading : isReading [] (before ++ .mark '(' :: inside ++ .mark ')' :: after) rest = true)
    (told : isTold true (before ++ .mark '(' :: inside ++ .mark ')' :: after) = true)
    (nested : isNested (tokensOf inside) = true) :
    (written (before ++ .mark '(' :: inside)).length ∈
        callEnds (written (before ++ .mark '(' :: inside ++ .mark ')' :: after) ++ rest) ↔
      isCallHead (tokensOf before) = true := by
  have tokens : tokensOf (before ++ .mark '(' :: inside) = tokensOf before ++ .mark '(' :: tokensOf inside :=
    List.filterMap_append
  rw [mem_callEnds reading told, tokens, head?_brackets nested, Option.some_inj]

/-- No continuation is put into a piece. -/
theorem callEnds_outside {p : Piece} {e : Nat} (reading : isReading [] (before ++ p :: after) rest = true)
    (told : isTold true (before ++ p :: after) = true) (other : p ≠ .mark ')')
    (isEnd : e ∈ callEnds (written (before ++ p :: after) ++ rest)) :
    e < (written before).length ∨ (written before).length + p.text.length ≤ e := by
  have length := length_written_append_cons before after p
  by_cases front : e < (written (before ++ p :: after)).length
  · obtain ⟨whole, behind, cut, rfl⟩ := exists_of_mem_callEnds reading told isEnd front
    obtain ⟨more, rfl, same⟩ | ⟨more, rfl, same⟩ := List.append_eq_append_iff.1 cut
    · cases more with
      | nil => exact absurd (List.cons.inj same).1 other
      | cons q more =>
        obtain ⟨rfl, -⟩ := List.cons.inj same
        rw [length_written_append_cons]
        omega
    · cases more with
      | nil => exact absurd (List.cons.inj same).1.symm other
      | cons q more =>
        obtain ⟨rfl, -⟩ := List.cons.inj same
        have bracket : (Piece.mark ')').text.length = 1 := rfl
        rw [length_written_append_cons]
        omega
  · omega

/-- The code of a source is the source with a continuation behind some of its brackets. As far as the source
has a reading in which the token before each slash tells what the slash is, these are the brackets that close
the arguments of a call: between them and the bracket that opens the arguments, brackets belong together, and
in front of this one is the word of a call, which is not the name of a member behind a dot. All the brackets
with such a word get one. None is put into a string, a regular expression, the text of a template, a comment,
or any other piece. -/
theorem callEnds_calls (reading : isReading [] pieces rest = true) (told : isTold true pieces = true) :
    ((continued? (written pieces ++ rest)).map TransformOutput.code).getD (written pieces ++ rest) =
      (callEnds (written pieces ++ rest)).foldr (insertBehind continuation) (written pieces ++ rest) ∧
    (∀ e ∈ callEnds (written pieces ++ rest), e < (written pieces).length →
      ∃ before inside after, pieces = before ++ .mark '(' :: inside ++ .mark ')' :: after ∧
        e = (written (before ++ .mark '(' :: inside)).length ∧ isNested (tokensOf inside) = true ∧
        isCallHead (tokensOf before) = true) ∧
    (∀ before inside after, pieces = before ++ .mark '(' :: inside ++ .mark ')' :: after →
      isNested (tokensOf inside) = true →
      ((written (before ++ .mark '(' :: inside)).length ∈ callEnds (written pieces ++ rest) ↔
        isCallHead (tokensOf before) = true)) ∧
    ∀ before p after, pieces = before ++ p :: after → p ≠ .mark ')' →
      ∀ e ∈ callEnds (written pieces ++ rest),
        e < (written before).length ∨ (written before).length + p.text.length ≤ e := by
  refine ⟨code_continued _, fun e isEnd front => exists_call reading told isEnd front, ?_, ?_⟩
  · rintro before inside after rfl nested
    exact mem_callEnds_iff reading told nested
  · rintro before p after rfl other e isEnd
    exact callEnds_outside reading told other isEnd

end

/-- The member of an object, a regular expression and the text of a template are left alone; the code in the
template is not. A string that never ends follows. -/
theorem callEnds_calls_template :
    let member : List Piece := [.word "o".toList, .mark '?', .mark '.', .word importWord]
    let argument : List Piece := [.word "a".toList]
    let between : List Piece := [.mark ';', .regex "import(b)".toList "g".toList, .mark ';',
      .template true "import(c)".toList false, .word importWord]
    let name : List Piece := [.string '"' ")".toList]
    let pieces := member ++ .mark '(' :: argument ++ .mark ')' ::
      (between ++ .mark '(' :: name ++ .mark ')' :: [.template false [] true])
    isReading [] pieces ['\''] = true ∧ isTold true pieces = true ∧
      written pieces = "o?.import(a);/import(b)/g;\x60import(c)$\x7bimport(\")\")\x7d\x60".toList ∧
      11 ∉ callEnds (written pieces ++ ['\'']) ∧ 48 ∈ callEnds (written pieces ++ ['\'']) := by
  intro member argument between name pieces
  have reading : isReading [] pieces ['\''] = true := by decide +kernel
  have told : isTold true pieces = true := by decide +kernel
  obtain ⟨-, -, calls, -⟩ := callEnds_calls reading told
  refine ⟨reading, told, by decide +kernel, ?_, ?_⟩
  · have other : 11 ∈ callEnds (written pieces ++ ['\'']) ↔ isCallHead (tokensOf member) = true :=
      calls member argument _ rfl (by decide)
    exact fun isEnd => nomatch other.1 isEnd
  · let front := member ++ .mark '(' :: argument ++ .mark ')' :: between
    have call : 48 ∈ callEnds (written pieces ++ ['\'']) ↔ isCallHead (tokensOf front) = true :=
      calls front name _ rfl (by decide)
    exact call.2 (by decide)

/-- A regular expression behind the head of a statement is not told from a division. Nor are the names of
methods and of private members told from the word of a call. -/
theorem callEnds_regex :
    let head : List Piece := [.word "if".toList, .blank ' ', .mark '(', .word "s".toList, .mark ')', .blank ' ']
    let regex : Piece := .regex "import('x')".toList []
    let pieces := head ++ regex ::
      [.mark '.', .word "test".toList, .mark '(', .word "s".toList, .mark ')', .mark ';']
    isReading [] pieces [] = true ∧ written pieces = "if (s) /import('x')/.test(s);".toList ∧
      (∃ e ∈ callEnds (written pieces),
        (written head).length ≤ e ∧ e < (written head).length + regex.text.length) ∧
      callEnds "(\x7b import(x) \x7b \x7d \x7d)".toList = [11] ∧
      callEnds "this.#import(x)".toList = [14] := by
  intro head regex pieces
  exact ⟨by decide +kernel, by decide +kernel, by decide +kernel, by decide +kernel, by decide +kernel⟩

end ModuleHooks.DynamicImport
