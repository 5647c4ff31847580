import Mathlib.Data.List.Infix
import ModuleHooks.Proofs.Transform.Calls
import ModuleHooks.Proofs.Transform.Locality

/-!
What strings and comments hold. Where the scan of a source comes to a string or a comment, another one that ends
where it should can stand in its place: it is passed as a whole (`Enclosure.passes`), what comes before it is
scanned as before, and what comes behind it as well, only further on or less far (`callEnds_contents`).
-/
namespace ModuleHooks.CodeToken

/-- What encloses text that is no code. -/
inductive Enclosure
  | string (quote : Char)
  | blockComment
  | lineComment
deriving DecidableEq, Repr

namespace Enclosure

/-- The text with what encloses it. -/
def text (body : Text) : Enclosure → Text
  | string quote => quote :: (body ++ [quote])
  | blockComment => '/' :: '*' :: (body ++ ['*', '/'])
  | lineComment => '/' :: '/' :: (body ++ ['\n'])

/-- The text does not end what encloses it, and in a string nothing is escaped. -/
def Holds (body : Text) : Enclosure → Prop
  | string quote => (quote = '"' ∨ quote = '\'') ∧ '\\' ∉ body ∧ '\n' ∉ body ∧ quote ∉ body
  | blockComment => ¬['*', '/'] <:+: body
  | lineComment => '\n' ∉ body

instance (body : Text) : (kind : Enclosure) → Decidable (kind.Holds body)
  | string quote =>
    inferInstanceAs (Decidable ((quote = '"' ∨ quote = '\'') ∧ '\\' ∉ body ∧ '\n' ∉ body ∧ quote ∉ body))
  | blockComment => inferInstanceAs (Decidable ¬['*', '/'] <:+: body)
  | lineComment => inferInstanceAs (Decidable ('\n' ∉ body))

/-- The token of what is enclosed, at its position: that of a string. -/
def found (pos : Nat) : Enclosure → List (Nat × CodeToken)
  | string _ => [(pos, .literal)]
  | blockComment | lineComment => []

/-- Whether a slash behind it begins a regular expression. -/
def after (regex : Bool) : Enclosure → Bool
  | string _ => false
  | blockComment | lineComment => regex

variable {kind : Enclosure} {body : Text}

theorem head?_text (kind : Enclosure) (body other s t : Text) :
    (kind.text body ++ s).head? = (kind.text other ++ t).head? := by
  cases kind <;> rfl

theorem afterString_plain {quote : Char} (escape : '\\' ∉ body) (line : '\n' ∉ body) (closes : quote ∉ body)
    (isQuote : quote = '"' ∨ quote = '\'') (s : Text) : afterString quote (body ++ quote :: s) = s := by
  induction body with
  | nil => rcases isQuote with rfl | rfl <;> rfl
  | cons c body ih =>
    rw [List.mem_cons, not_or] at escape line closes
    rw [List.cons_append, afterString_cons (Ne.symm escape.1), if_neg (Ne.symm line.1), if_neg (Ne.symm closes.1)]
    exact ih escape.2 line.2 closes.2

/-- What is enclosed is passed as a whole, and nothing in it is found. -/
theorem passes (holds : kind.Holds body) (pos : Nat) (regex : Bool) (templates : List Nat) (s : Text) :
    Passes ⟨pos, regex, templates, kind.text body ++ s⟩ (kind.found pos)
      ⟨pos + (kind.text body).length, kind.after regex, templates, s⟩ := by
  cases kind with
  | string quote =>
    obtain ⟨isQuote, escape, line, closes⟩ := holds
    refine @Passes.one _ _ _ _ _ (body ++ [quote]) _ (some .literal) ?_
    rw [List.append_assoc]
    have after := afterString_plain escape line closes isQuote s
    refine .trans ?_ (congrArg (Step.mk (some .literal) templates) after)
    rcases isQuote with rfl | rfl <;> rfl
  | blockComment =>
    have text : Text.hasInfix ['*', '/'] body = false := Bool.eq_false_iff.2 fun inside =>
      holds (Text.hasInfix_iff.1 inside)
    exact @Passes.one _ _ _ _ _ ('*' :: (body ++ ['*', '/'])) _ none (step_blockComment text)
  | lineComment =>
    have whole : '/' :: body ++ '\n' :: s = '/' :: (body ++ ['\n']) ++ s := by simp
    have line : step regex templates '/' ('/' :: body ++ '\n' :: s) = ⟨none, templates, '\n' :: s⟩ :=
      step_lineComment holds (by simp)
    have ends : step regex templates '\n' ([] ++ s) = ⟨none, templates, s⟩ := if_pos (by decide)
    have passes := (@Passes.one pos _ _ _ _ _ _ none line).trans (@Passes.one _ _ _ _ _ [] _ none ends)
    rw [whole] at passes
    simpa [text, found, after, Nat.add_assoc] using passes

end Enclosure

end ModuleHooks.CodeToken

namespace ModuleHooks.DynamicImport

open CodeToken

/-! ## Matching in parts -/

theorem closings_cons (m : Matching) (pos : Nat) (token : CodeToken) (later : List (Nat × CodeToken)) :
    closings m ((pos, token) :: later) =
      (if (m.next token).2 then [pos] else []) ++ closings (m.next token).1 later := by
  rw [closings]
  cases closes : (m.next token).2 <;> simp [closes]

theorem closings_append (m : Matching) (found later : List (Nat × CodeToken)) :
    closings m (found ++ later) = closings m found ++ closings (m.after (found.map Prod.snd)) later := by
  induction found generalizing m with
  | nil => rfl
  | cons p found ih =>
    obtain ⟨pos, token⟩ := p
    rw [List.cons_append, closings_cons, closings_cons, ih, List.append_assoc]
    rfl

theorem closings_shift (m : Matching) (found : List (Nat × CodeToken)) (n : Nat) :
    closings m (found.map fun p => (n + p.1, p.2)) = (closings m found).map (n + ·) := by
  induction found generalizing m with
  | nil => rfl
  | cons p found ih =>
    obtain ⟨pos, token⟩ := p
    rw [List.map_cons, closings_cons, closings_cons, ih, List.map_append]
    cases (m.next token).2 <;> rfl

/-- What is enclosed closes nothing. -/
theorem closings_found (m : Matching) (kind : Enclosure) (pos : Nat) : closings m (kind.found pos) = [] := by
  cases kind <;> rfl

theorem map_snd_found (kind : Enclosure) (pos other : Nat) :
    (kind.found pos).map Prod.snd = (kind.found other).map Prod.snd := by
  cases kind <;> rfl

/-! ## Other contents -/

variable {kind : Enclosure} {body p s : Text}

/-- Where a scan comes to a string or a comment, what that holds has no part in which calls are found: in front of
it they are found where they are, in it there are none, and behind it they are found at the same distance from
its end. The scan comes to it whatever it holds. -/
theorem callEnds_contents (holds : kind.Holds body) (reaches : Reaches (p ++ (kind.text body ++ s)) p.length) :
    ∃ front back : List Nat, (∀ e ∈ front, e < p.length) ∧ ∀ body, kind.Holds body →
      Reaches (p ++ (kind.text body ++ s)) p.length ∧
      callEnds (p ++ (kind.text body ++ s)) =
        front ++ back.map (p.length + (kind.text body).length + ·) := by
  obtain ⟨found, b, passes, here⟩ := reaches
  obtain ⟨pos, regex, templates, left⟩ := b
  obtain rfl : pos = p.length := here
  obtain rfl : kind.text body ++ s = left := by
    have total := passes.pos_add
    obtain ⟨passed, whole⟩ := passes.left_suffix
    have lengths := congrArg List.length whole
    simp only [Place.start, List.length_append] at total lengths
    exact ((List.append_inj whole (by omega)).2).symm
  let m := (Matching.after {} (found.map Prod.snd)).after ((kind.found 0).map Prod.snd)
  let scanned := scan s.length 0 (kind.after regex) templates s
  refine ⟨closings {} found, closings m scanned, fun e closes => ?_, fun body' holds' => ?_⟩
  · exact passes.lt_pos _ (fst_of_mem_closings closes)
  have some : kind.text body ++ s ≠ [] := by cases kind <;> exact List.cons_ne_nil _ _
  have also : Passes (.start (p ++ (kind.text body' ++ s))) found
      ⟨p.length, regex, templates, kind.text body' ++ s⟩ := passes.congr rfl some (kind.head?_text ..)
  refine ⟨⟨found, _, also, rfl⟩, ?_⟩
  have rest : Scans 0 (kind.after regex) templates s scanned := scans_scan (Nat.le_refl _) ..
  have shifted := rest.shift (p.length + (kind.text body').length)
  have whole := scans_iff.1 (Scans.of_passes (also.trans (Enclosure.passes holds' _ regex templates s)) shifted)
  change _ = tokens (p ++ (kind.text body' ++ s)) at whole
  rw [callEnds, ← whole, List.append_assoc, closings_append, closings_append, closings_found,
    List.nil_append, closings_shift, map_snd_found kind p.length 0]

theorem callEnds_contents_call :
    let p := "import(".toList
    let s := "); import(a)".toList
    let kind := Enclosure.string '"'
    kind.Holds "b".toList ∧ kind.Holds "import(x)".toList ∧ Reaches (p ++ (kind.text "b".toList ++ s)) p.length ∧
      ∃ front back : List Nat, (∀ e ∈ front, e < 7) ∧
        callEnds "import(\"b\"); import(a)".toList = front ++ back.map (10 + ·) ∧
        callEnds "import(\"import(x)\"); import(a)".toList = front ++ back.map (18 + ·) := by
  intro p s kind
  have holds : kind.Holds "b".toList := by decide
  have other : kind.Holds "import(x)".toList := by decide
  have reaches : Reaches (p ++ (kind.text "b".toList ++ s)) p.length := by decide +kernel
  obtain ⟨front, back, before, same⟩ := callEnds_contents holds reaches
  exact ⟨holds, other, reaches, front, back, before, (same _ holds).2, (same _ other).2⟩

end ModuleHooks.DynamicImport
