import ModuleHooks.Proofs.Path.Extension
import ModuleHooks.Proofs.Transform.Insertion
import ModuleHooks.Proofs.Transform.Mappings
import ModuleHooks.Proofs.Transform.Scan

/-!
Putting continuations behind the dynamic imports of a source. A source is left as it is exactly when no
call is found in it, also where it is not scanned because it does not have the word. Otherwise
continuations are put in behind brackets that close, and nothing else changes; so every line of the code is
the line of the source with the same number, as the map says (`continued_inserts`).
-/
namespace ModuleHooks.DynamicImport

open CodeToken

/-! ## Brackets that close calls -/

/-- Only a bracket that closes can close a call, and only if the innermost open one opened it. -/
theorem closes_next {m : Matching} {token : CodeToken} (closes : (m.next token).2 = true) :
    token = .mark ')' ∧ m.brackets.head? = some true := by
  unfold Matching.next at closes
  split at closes <;> simp_all

/-- What closes calls are brackets among the tokens, in their order. -/
theorem closings_sublist (m : Matching) (found : List (Nat × CodeToken)) :
    (closings m found).Sublist ((found.filter (·.2 = .mark ')')).map Prod.fst) := by
  induction found generalizing m with
  | nil => exact .slnil
  | cons p rest ih =>
    obtain ⟨pos, token⟩ := p
    unfold closings
    cases closes : (m.next token).2 with
    | true =>
      obtain ⟨rfl, -⟩ := closes_next closes
      simp only [closes, if_true]
      rw [List.filter_cons_of_pos (by simp), List.map_cons]
      exact (ih _).cons_cons pos
    | false =>
      simp only [closes]
      exact (ih _).trans ((List.Sublist.filter _ (List.sublist_cons_self _ rest)).map _)

/-- Without the word of a call nothing opens one. -/
theorem closings_eq_nil {m : Matching} {found : List (Nat × CodeToken)} (pending : m.pending = false)
    (brackets : true ∉ m.brackets) (wordless : ∀ p ∈ found, p.2 ≠ .word importWord) :
    closings m found = [] := by
  induction found generalizing m with
  | nil => rfl
  | cons p rest ih =>
    obtain ⟨pos, token⟩ := p
    obtain ⟨other, wordless⟩ := List.forall_mem_cons.1 wordless
    have stays : (m.next token).2 = false := Bool.eq_false_iff.2 fun closes =>
      brackets (List.mem_of_mem_head? (closes_next closes).2)
    have next : (m.next token).1.pending = false ∧ true ∉ (m.next token).1.brackets := by
      unfold Matching.next
      split
      case h_1 w => exact ⟨by simpa using fun word => absurd (congrArg CodeToken.word word) other, brackets⟩
      case h_2 => exact ⟨rfl, by simp [pending, brackets]⟩
      case h_3 => exact ⟨rfl, fun member => brackets (List.mem_of_mem_tail member)⟩
      all_goals exact ⟨rfl, brackets⟩
    unfold closings
    simp only [stays]
    exact ih next.1 next.2 wordless

theorem sorted_callEnds (source : Text) : (callEnds source).Pairwise (· < ·) := by
  have sublist := (closings_sublist {} (tokens source)).trans ((List.filter_sublist).map Prod.fst)
  exact (sorted_tokens source).sublist sublist

/-- A call ends at a bracket that closes. -/
theorem getElem?_of_mem_callEnds {source : Text} {e : Nat} (isEnd : e ∈ callEnds source) :
    source[e]? = some ')' := by
  obtain ⟨⟨pos, token⟩, found, rfl⟩ := List.mem_map.1 ((closings_sublist {} _).subset isEnd)
  obtain ⟨member, mark⟩ := List.mem_filter.1 found
  obtain rfl : token = .mark ')' := by simpa using mark
  obtain ⟨rest, starts⟩ : [')'] <+: source.drop pos := starts_of_mem_tokens member
  rw [← List.head?_drop, ← starts]
  rfl

/-- A source without the word of a call has no call. -/
theorem callEnds_eq_nil {source : Text} (wordless : Text.hasInfix importWord source = false) :
    callEnds source = [] := by
  refine closings_eq_nil rfl (by simp) fun ⟨pos, token⟩ member word => ?_
  obtain rfl : token = .word importWord := word
  have starts : importWord <+: source.drop pos := starts_of_mem_tokens member
  have inside := starts.isInfix.trans (List.drop_suffix pos source).isInfix
  exact nomatch wordless.symm.trans (Text.hasInfix_iff.2 inside)

theorem continued_eq (source : Text) :
    continued? source =
      if callEnds source = [] then none
      else some ⟨insertAfter continuation 0 (callEnds source) source, some (identityMap source)⟩ := by
  unfold continued?
  cases wordless : Text.hasInfix importWord source with
  | false => simp [callEnds_eq_nil wordless]
  | true => cases callEnds source <;> simp

/-- Every source is scanned to its end, and in one way. It is left alone if and only if the scan finds no
call. Otherwise the continuation is put in behind brackets that close, each of them once and in their order;
taking it out again gives the source back, no line is broken, and the map has for each line of the code one
segment, from its start to the start of that line of the one source. -/
theorem continued_inserts (source : Text) :
    (∀ found, Scans 0 true [] source found ↔ found = tokens source) ∧
    (continued? source = none ↔ callEnds source = []) ∧
    ∀ output, continued? source = some output →
      (callEnds source).Pairwise (· < ·) ∧ (∀ e ∈ callEnds source, source[e]? = some ')') ∧
      output.code = (callEnds source).foldr (insertBehind continuation) source ∧
      (callEnds source).foldl (deleteBehind continuation.length) output.code = source ∧
      output.code.count '\n' = source.count '\n' ∧
      ∃ map members mappings, output.map = some map ∧ Json.parse? map = some (.object members) ∧
        Members.get? "version".toList members = some (.number (.whole 3)) ∧
        Members.get? "sources".toList members = some (.array [.string []]) ∧
        Members.get? "mappings".toList members = some (.string mappings) ∧
        SourceMap.decode? mappings = some ((List.range (output.code.count '\n' + 1)).map
          fun line : Nat => [⟨0, 0, line, 0⟩]) := by
  have sorted := sorted_callEnds source
  have inside : ∀ e ∈ callEnds source, e < source.length := fun e isEnd =>
    (List.getElem?_eq_some_iff.1 (getElem?_of_mem_callEnds isEnd)).1
  refine ⟨fun found => scans_iff, by rw [continued_eq]; split <;> simp_all, fun output continued => ?_⟩
  rw [continued_eq] at continued
  obtain ⟨some, same⟩ := Option.ite_none_left_eq_some.1 continued
  obtain rfl := Option.some.inj same
  have code : insertAfter continuation 0 (callEnds source) source = _ :=
    insertAfter_eq continuation sorted inside
  have lines : (insertAfter continuation 0 (callEnds source) source).count '\n' = source.count '\n' := by
    rw [code, count_foldr_insertBehind (by decide)]
  refine ⟨sorted, fun e => getElem?_of_mem_callEnds, code, ?_, lines, identityMap source,
    identityMembers (source.count '\n'), identityMappings (source.count '\n'), rfl,
    parse?_identityMap source, rfl, rfl, rfl, ?_⟩
  · rw [code, foldl_deleteBehind continuation inside]
  · rw [lines, decode?_identityMappings]

theorem continued_inserts_nested :
    let source := "import(import('a'))\n\x60$\x7b(".toList
    callEnds source = [17, 18] ∧ ∃ output, continued? source = some output ∧
      output.code = [17, 18].foldr (insertBehind continuation) source ∧
      [17, 18].foldl (deleteBehind continuation.length) output.code = source ∧
      output.code.count '\n' = 1 := by
  intro source
  have ends : callEnds source = [17, 18] := by decide +kernel
  obtain ⟨-, left, changed⟩ := continued_inserts source
  have some : continued? source ≠ none := fun nothing => nomatch (left.1 nothing).symm.trans ends
  obtain ⟨output, continued⟩ := Option.ne_none_iff_exists'.1 some
  obtain ⟨-, -, code, back, lines, -⟩ := changed output continued
  rw [ends] at code back
  exact ⟨ends, output, continued, code, back, lines.trans (by decide)⟩

end ModuleHooks.DynamicImport
