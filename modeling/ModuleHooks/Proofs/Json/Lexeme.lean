import ModuleHooks.Json.Reader
import ModuleHooks.Proofs.Pieces
import ModuleHooks.Text.Blank

/-!
What a token is written as. A token is read from a piece of the text, and from the same piece wherever the
text goes on alike: with the same character, or with a blank. A string ends with its quote and a word with
its last letter; only a number is looked behind, by one character. So the tokens of a text are a matter of
its pieces, and blanks may be put between them.
-/
namespace ModuleHooks.JsonToken

/-- The second text goes on as the first does, or with a blank. -/
def Continues (t r : Text) : Prop := r.head? = t.head? ∨ ∃ c, r.head? = some c ∧ isGap c = true

theorem Continues.head?_ne {t r : Text} {c : Char} (continues : Continues t r) (mark : isGap c = false)
    (other : t.head? ≠ some c) : r.head? ≠ some c := by
  intro same
  obtain alike | ⟨d, head, gap⟩ := continues
  · exact other (alike.symm.trans same)
  · obtain rfl : d = c := Option.some.inj (head.symm.trans same)
    exact nomatch gap.symm.trans mark

/-! ## Numbers -/

/-- The characters of a number. -/
def isNumeral (c : Char) : Bool := c.isDigit || ['-', '+', '.', 'e', 'E'].contains c

theorem isDigit_of_isGap {c : Char} (gap : isGap c = true) : c.isDigit = false := by
  simp only [isGap, Bool.or_eq_true, beq_iff_eq] at gap
  rcases gap with ((rfl | rfl) | rfl) | rfl <;> rfl

theorem digits_append {ds r : Text} (inside : ∀ c ∈ ds, c.isDigit = true)
    (other : ∀ c, r.head? = some c → c.isDigit = false) : digits (ds ++ r) = (ds, r) :=
  Prod.ext (Text.span_append inside other).1 (Text.span_append inside other).2

/-- Reads one thing behind a mark, and another where it is not there. -/
def onMark {α : Type} (p : Char → Bool) (behind without : Text → Option (α × Text)) :
    Text → Option (α × Text)
  | [] => without []
  | c :: rest => if p c then behind rest else without (c :: rest)

section

variable {α : Type} {p : Char → Bool} {behind without : Text → Option (α × Text)}

theorem onMark_of_mark {c : Char} {rest : Text} (mark : p c = true) :
    onMark p behind without (c :: rest) = behind rest := if_pos mark

theorem onMark_of_no_mark {s : Text} (unmarked : ∀ c, s.head? = some c → p c = false) :
    onMark p behind without s = without s := by
  cases s with
  | nil => rfl
  | cons c rest => exact if_neg (by simp [unmarked c rfl])

end

/-- What is read is a piece of numerals, and it is read from this piece wherever the text goes on alike. -/
def Reads {α : Type} (f : Text → Option (α × Text)) : Prop :=
  ∀ s a t, f s = some (a, t) →
    ∃ w, s = w ++ t ∧ (∀ c ∈ w, isNumeral c = true) ∧ ∀ r, Continues t r → f (w ++ r) = some (a, r)

namespace Reads

variable {α β : Type}

theorem pure (a : α) : Reads fun s => some (a, s) := by
  intro s b t read
  cases read
  exact ⟨[], rfl, by simp, fun _ _ => rfl⟩

/-- One thing after another. -/
theorem bind {f : Text → Option (α × Text)} {g : α → Text → Option (β × Text)} (first : Reads f)
    (rest : ∀ a, Reads (g a)) : Reads fun s => (f s).bind fun found => g found.1 found.2 := by
  intro s b u read
  obtain ⟨⟨a, t⟩, readFirst, readRest⟩ := Option.bind_eq_some_iff.1 read
  obtain ⟨w, rfl, numerals, again⟩ := first s a t readFirst
  obtain ⟨v, rfl, numeralsRest, againRest⟩ := rest a t b u readRest
  refine ⟨w ++ v, by simp, ?_, fun r continues => ?_⟩
  · intro c member
    obtain member | member := List.mem_append.1 member
    · exact numerals c member
    · exact numeralsRest c member
  · have alike : Continues (v ++ u) (v ++ r) := by
      cases v with
      | nil => exact continues
      | cons c v => exact .inl rfl
    show (f (w ++ v ++ r)).bind _ = _
    rw [List.append_assoc, again (v ++ r) alike]
    exact againRest r continues

/-- A mark decides what is read: one thing behind it, another where it is not there. -/
theorem onMark {p : Char → Bool} {f g : Text → Option (α × Text)}
    (numeral : ∀ c, p c = true → isNumeral c = true ∧ isGap c = false) (behind : Reads f)
    (without : Reads g) : Reads (JsonToken.onMark p f g) := by
  intro s a t read
  by_cases marked : ∃ c rest, s = c :: rest ∧ p c = true
  · obtain ⟨c, rest, rfl, mark⟩ := marked
    rw [onMark_of_mark mark] at read
    obtain ⟨w, rfl, numerals, again⟩ := behind rest a t read
    refine ⟨c :: w, rfl, List.forall_mem_cons.2 ⟨(numeral c mark).1, numerals⟩, fun r continues => ?_⟩
    rw [List.cons_append, onMark_of_mark mark]
    exact again r continues
  · have unmarked : ∀ c, s.head? = some c → p c = false := by
      intro c head
      obtain ⟨rest, rfl⟩ := List.head?_eq_some_iff.1 head
      exact Bool.eq_false_iff.2 fun mark => marked ⟨c, rest, rfl, mark⟩
    rw [onMark_of_no_mark unmarked] at read
    obtain ⟨w, rfl, numerals, again⟩ := without s a t read
    refine ⟨w, rfl, numerals, fun r continues => ?_⟩
    rw [onMark_of_no_mark, again r continues]
    intro c head
    cases w with
    | cons d w => exact unmarked c head
    | nil =>
      cases mark : p c with
      | false => rfl
      | true =>
        have other : t.head? ≠ some c := fun same => nomatch mark.symm.trans (unmarked c same)
        exact absurd head (continues.head?_ne (numeral c mark).2 other)

theorem onChar {d : Char} {f g : Text → Option (α × Text)}
    (numeral : isNumeral d = true ∧ isGap d = false) (behind : Reads f) (without : Reads g) :
    Reads (JsonToken.onMark (· == d) f g) :=
  .onMark (fun c same => by rw [eq_of_beq same]; exact numeral) behind without

/-- Digits, one at least. -/
theorem digits : Reads fun s => if (JsonToken.digits s).1.isEmpty then none else some (JsonToken.digits s) := by
  intro s a t read
  dsimp only at read ⊢
  split at read
  case isTrue => exact nomatch read
  case isFalse written =>
    obtain ⟨rfl, rfl⟩ := Prod.mk.inj (Option.some.inj read)
    have inside : ∀ c ∈ s.takeWhile Char.isDigit, c.isDigit = true :=
      List.all_eq_true.1 List.all_takeWhile
    refine ⟨s.takeWhile Char.isDigit, List.takeWhile_append_dropWhile.symm, fun c member => ?_,
      fun r continues => ?_⟩
    · simp [isNumeral, inside c member]
    · have other : ∀ c, r.head? = some c → c.isDigit = false := by
        intro c head
        obtain alike | ⟨d, blank, gap⟩ := continues
        · have kept := List.head?_dropWhile_not Char.isDigit s
          rw [← alike, head] at kept
          simpa using kept
        · obtain rfl : c = d := Option.some.inj (head.symm.trans blank)
          exact isDigit_of_isGap gap
      have again : JsonToken.digits (s.takeWhile Char.isDigit ++ r) = (s.takeWhile Char.isDigit, r) :=
        digits_append inside other
      rw [again]
      exact if_neg written

end Reads

theorem reads_wholePart : Reads wholePart := by
  have same : wholePart = onMark (· == '0') (fun rest => some (['0'], rest))
      fun s => if (digits s).1.isEmpty then none else some (digits s) := by
    funext s
    unfold wholePart onMark
    grind
  rw [same]
  exact .onChar (by decide) (.pure _) .digits

theorem reads_fractionPart : Reads fractionPart := by
  have same : fractionPart = onMark (· == '.')
      (fun s => if (digits s).1.isEmpty then none else some (digits s)) fun s => some ([], s) := by
    funext s
    unfold fractionPart onMark
    grind
  rw [same]
  exact .onChar (by decide) .digits (.pure _)

/-- The exponent, its sign and its digits taken together. -/
theorem reads_exponentPart :
    Reads fun s => (exponentPart s).map fun found => ((found.1, found.2.1), found.2.2) := by
  have same : (fun s => (exponentPart s).map fun found => ((found.1, found.2.1), found.2.2)) =
      onMark (fun c => c == 'e' || c == 'E')
        (fun s => (onMark (· == '-') (fun s => some (true, s))
            (onMark (· == '+') (fun s => some (false, s)) fun s => some (false, s)) s).bind fun sign =>
          (if (digits sign.2).1.isEmpty then none else some (digits sign.2)).bind fun exponent =>
            some ((sign.1, exponent.1), exponent.2))
        fun s => some ((false, []), s) := by
    funext s
    unfold exponentPart onMark
    grind [onMark]
  have sign : Reads (onMark (· == '-') (fun s => some (true, s))
      (onMark (· == '+') (fun s => some (false, s)) fun s => some (false, s))) :=
    .onChar (by decide) (.pure _) (.onChar (by decide) (.pure _) (.pure _))
  rw [same]
  refine .onMark (fun c mark => ?_) (.bind sign fun negative => .bind .digits fun exponent => .pure _) (.pure _)
  simp only [Bool.or_eq_true, beq_iff_eq] at mark
  rcases mark with rfl | rfl <;> decide

theorem reads_numberLiteral : Reads numberLiteral := by
  have same : numberLiteral = fun s =>
      (onMark (· == '-') (fun s => some (true, s)) (fun s => some (false, s)) s).bind fun sign =>
        (wholePart sign.2).bind fun whole => (fractionPart whole.2).bind fun fraction =>
          ((exponentPart fraction.2).map fun found => ((found.1, found.2.1), found.2.2)).bind fun exponent =>
            some ({ negative := sign.1
                    whole := whole.1
                    fraction := fraction.1
                    exponentNegative := exponent.1.1
                    exponent := exponent.1.2
                    isWhole := fraction.1.isEmpty && exponent.1.2.isEmpty }, exponent.2) := by
    funext s
    by_cases negative : ∃ rest, s = '-' :: rest
    · obtain ⟨rest, rfl⟩ := negative
      rw [onMark_of_mark rfl]
      simp only [Option.bind_some, Option.bind_map, Function.comp_def]
      rfl
    · have unmarked : ∀ c, s.head? = some c → (c == '-') = false := by
        intro c head
        obtain ⟨rest, rfl⟩ := List.head?_eq_some_iff.1 head
        exact beq_eq_false_iff_ne.2 fun minus => negative ⟨rest, by rw [minus]⟩
      rw [onMark_of_no_mark unmarked]
      simp only [Option.bind_some, Option.bind_map, Function.comp_def]
      unfold numberLiteral
      split
      next sign =>
        split at sign
        case h_1 rest => exact absurd ⟨rest, rfl⟩ negative
        case h_2 =>
          cases sign
          rfl
  have sign : Reads (onMark (· == '-') (fun s => some (true, s)) fun s => some (false, s)) :=
    .onChar (by decide) (.pure _) (.pure _)
  rw [same]
  exact .bind sign fun negative => .bind reads_wholePart fun whole => .bind reads_fractionPart fun fraction =>
    .bind reads_exponentPart fun exponent =>
      .pure (NumberLiteral.mk negative whole fraction exponent.1 exponent.2
        (fraction.isEmpty && exponent.2.isEmpty))

/-! ## Strings -/

/-- A text between quotes: a quote in it has a backslash in front, and no backslash is the last. -/
inductive IsQuoted : Text → Prop
  | nil : IsQuoted []
  | escaped (c : Char) {body : Text} (rest : IsQuoted body) : IsQuoted ('\\' :: c :: body)
  | plain {c : Char} {body : Text} (quote : c ≠ '"') (backslash : c ≠ '\\') (rest : IsQuoted body) :
      IsQuoted (c :: body)

theorem hexDigit_plain {c : Char} (digit : isHexDigit c = true) : c ≠ '"' ∧ c ≠ '\\' := by
  constructor <;> rintro rfl <;> exact absurd digit (by decide)

/-- A string is read up to its closing quote, and the same whatever follows that. -/
theorem stringBody_some {s body t : Text} (read : stringBody s = some (body, t)) :
    s = body ++ '"' :: t ∧ IsQuoted body ∧ ∀ r, stringBody (body ++ '"' :: r) = some (body, r) := by
  fun_induction stringBody s generalizing body t with
  | case1 rest =>
    cases read
    exact ⟨rfl, .nil, fun r => rfl⟩
  | case2 a b c d rest digits ih =>
    obtain ⟨⟨inner, t'⟩, readInner, whole⟩ := Option.map_eq_some_iff.1 read
    cases whole
    obtain ⟨rfl, quoted, again⟩ := ih readInner
    have plain : ∀ x ∈ [a, b, c, d], x ≠ '"' ∧ x ≠ '\\' := fun x member =>
      hexDigit_plain (List.all_eq_true.1 digits x member)
    simp only [List.forall_mem_cons] at plain
    obtain ⟨⟨qa, ba⟩, ⟨qb, bb⟩, ⟨qc, bc⟩, ⟨qd, bd⟩, -⟩ := plain
    refine ⟨rfl, .escaped 'u' (.plain qa ba (.plain qb bb (.plain qc bc (.plain qd bd quoted)))), fun r => ?_⟩
    simp [stringBody, digits, again r]
  | case3 => exact nomatch read
  | case4 e rest uncoded known ih =>
    obtain ⟨⟨inner, t'⟩, readInner, whole⟩ := Option.map_eq_some_iff.1 read
    cases whole
    obtain ⟨rfl, quoted, again⟩ := ih readInner
    refine ⟨rfl, .escaped e quoted, fun r => ?_⟩
    have other : e ≠ 'u' := by
      rintro rfl
      exact absurd known (by decide)
    have member : e ∈ simpleEscapes := by simpa using known
    simp [stringBody, other, member, again r]
  | case5 => exact nomatch read
  | case6 => exact nomatch read
  | case7 c rest open_ uncoded unescaped printed ih =>
    obtain ⟨⟨inner, t'⟩, readInner, whole⟩ := Option.map_eq_some_iff.1 read
    cases whole
    obtain ⟨rfl, quoted, again⟩ := ih readInner
    obtain ⟨backslash, control⟩ := not_or.1 printed
    refine ⟨rfl, .plain open_ backslash quoted, fun r => ?_⟩
    have least : 32 ≤ c.toNat := Nat.le_of_not_lt control
    rw [List.cons_append, stringBody]
    all_goals simp_all
  | case8 => exact nomatch read

/-! ## Tokens -/

/-- Whether the token closes an array or an object. -/
def closes : JsonToken → Bool
  | closeBrace | closeBracket => true
  | _ => false

/-- The characters of tokens that are neither strings nor commas. -/
def isCode (c : Char) : Bool := !(isBlank c || ['"', '/', ','].contains c)

theorem isBlank_of_isGap {c : Char} (gap : isGap c = true) : isBlank c = true := by
  simp only [isGap, Bool.or_eq_true, beq_iff_eq] at gap
  rcases gap with ((rfl | rfl) | rfl) | rfl <;> decide

theorem isCode_of_isNumeral {c : Char} (numeral : isNumeral c = true) :
    isCode c = true ∧ (c == ']' || c == '\x7d') = false := by
  have digits : ∀ n < 58, 48 ≤ n → isCode (Char.ofNat n) = true ∧
      (Char.ofNat n == ']' || Char.ofNat n == '\x7d') = false := by decide
  have others : ∀ d ∈ ['-', '+', '.', 'e', 'E'], (isCode d && !(d == ']' || d == '\x7d')) = true :=
    List.all_eq_true.1 rfl
  obtain digit | other := Bool.or_eq_true_iff.1 numeral
  · obtain ⟨least, most⟩ : 48 ≤ c.toNat ∧ c.toNat ≤ 57 := by
      simpa [Char.isDigit, UInt32.le_iff_toNat_le] using digit
    simpa using digits c.toNat (by omega) least
  · simpa using others c (by simpa using other)

/-- What a token is written as: a comma, a text in quotes, or code that starts as the token has it. -/
inductive IsLexeme : JsonToken → Text → Prop
  | comma : IsLexeme comma [',']
  | string {body : Text} (quoted : IsQuoted body) : IsLexeme (string body) ('"' :: (body ++ ['"']))
  | code {token : JsonToken} {c : Char} {rest : Text} (inert : ∀ d ∈ c :: rest, isCode d = true)
      (start : (c == ']' || c == '\x7d') = token.closes) (other : token ≠ JsonToken.comma) :
      IsLexeme token (c :: rest)

/-- The characters that decide a token by themselves. -/
def marks : Text := ['\x7b', '\x7d', '[', ']', ':', ',', '"']

theorem next_of_notMem {c : Char} {rest : Text} (unmarked : c ∉ marks) :
    next (c :: rest) =
      match words.findSome? fun (word, token) => (Text.after? word (c :: rest)).map (token, ·) with
      | some found => some found
      | none => (numberLiteral (c :: rest)).map fun (n, r) => (.number n, r) := by
  simp only [marks, List.mem_cons, List.not_mem_nil, not_or, or_false] at unmarked
  unfold next
  split
  case h_9 => rfl
  all_goals simp_all

/-- A word is read where it stands. -/
theorem next_of_word {s t : Text} {token : JsonToken}
    (found : (words.findSome? fun (word, token) => (Text.after? word s).map (token, ·)) = some (token, t)) :
    ∃ w, s = w ++ t ∧ IsLexeme token w ∧ ∀ r, next (w ++ r) = some (token, r) := by
  obtain ⟨⟨word, named⟩, member, behind⟩ := List.exists_of_findSome?_eq_some found
  obtain ⟨rest, after, same⟩ := Option.map_eq_some_iff.1 behind
  cases same
  refine ⟨word, Text.append_of_after? after, ?_⟩
  simp only [words, List.mem_cons, List.not_mem_nil, or_false, Prod.mk.injEq] at member
  rcases member with ⟨rfl, rfl⟩ | ⟨rfl, rfl⟩ | ⟨rfl, rfl⟩
  all_goals exact ⟨.code (List.all_eq_true.1 rfl) rfl nofun, fun r => rfl⟩

/-- A number is read where it stands, wherever the text goes on alike. -/
theorem next_of_number {s t : Text} {n : NumberLiteral} (found : numberLiteral s = some (n, t)) :
    ∃ w, s = w ++ t ∧ IsLexeme (.number n) w ∧
      ∀ r, Continues t r → next (w ++ r) = some (.number n, r) := by
  obtain ⟨w, whole, numerals, again⟩ := reads_numberLiteral s n t found
  have written : w ≠ [] := by
    rintro rfl
    -- Nothing would be read in front of a blank either, and no number is.
    have nothing : numberLiteral [' '] = some (n, [' ']) := again [' '] (.inr ⟨' ', rfl, by decide⟩)
    exact nomatch nothing
  obtain ⟨c, rest, rfl⟩ := List.exists_cons_of_ne_nil written
  obtain ⟨first, others⟩ := List.forall_mem_cons.1 numerals
  have code : ∀ d ∈ c :: rest, isCode d = true := fun d member => (isCode_of_isNumeral (numerals d member)).1
  refine ⟨c :: rest, whole, .code code (isCode_of_isNumeral first).2 nofun, fun r continues => ?_⟩
  have outside : c ∉ marks := by
    intro member
    have unmarked : ∀ d ∈ marks, (!isNumeral d) = true := List.all_eq_true.1 rfl
    simpa [first] using unmarked c member
  have unworded : (words.findSome? fun (word, token) =>
      (Text.after? word (c :: (rest ++ r))).map (token, ·)) = none := by
    have other {d : Char} (word : Text) (letter : isNumeral d = false) :
        Text.after? (d :: word) (c :: (rest ++ r)) = none := by
      refine if_neg fun same => ?_
      rw [eq_of_beq same] at letter
      exact nomatch letter.symm.trans first
    refine List.findSome?_eq_none_iff.2 fun word member => ?_
    simp only [words, List.mem_cons, List.not_mem_nil, or_false] at member
    rcases member with rfl | rfl | rfl
    all_goals exact Option.map_eq_none_iff.2 (other _ (by decide))
  rw [List.cons_append, next_of_notMem outside, unworded, ← List.cons_append, again r continues]
  rfl

/-- A token is read from a piece of the text, wherever the text goes on alike. -/
theorem next_some {s t : Text} {token : JsonToken} (read : next s = some (token, t)) :
    ∃ w, s = w ++ t ∧ IsLexeme token w ∧ ∀ r, Continues t r → next (w ++ r) = some (token, r) := by
  unfold next at read
  split at read
  case h_1 => exact nomatch read
  case h_2 | h_3 | h_4 | h_5 | h_6 =>
    cases read
    exact ⟨[_], rfl, .code (List.all_eq_true.1 rfl) rfl nofun, fun r _ => rfl⟩
  case h_7 =>
    cases read
    exact ⟨[','], rfl, .comma, fun r _ => rfl⟩
  case h_8 rest =>
    obtain ⟨⟨body, t'⟩, readBody, same⟩ := Option.map_eq_some_iff.1 read
    cases same
    obtain ⟨rfl, quoted, again⟩ := stringBody_some readBody
    refine ⟨'"' :: (body ++ ['"']), by simp, .string quoted, fun r _ => ?_⟩
    rw [List.cons_append, List.append_assoc]
    show (stringBody (body ++ '"' :: r)).map _ = _
    rw [again r]
    rfl
  case h_9 =>
    split at read
    case h_1 found word =>
      cases read
      obtain ⟨w, whole, lexeme, again⟩ := next_of_word word
      exact ⟨w, whole, lexeme, fun r _ => again r⟩
    case h_2 =>
      obtain ⟨⟨n, t'⟩, number, same⟩ := Option.map_eq_some_iff.1 read
      cases same
      exact next_of_number number

/-- A token starts with a character that is no blank, and with a bracket or a brace that closes only if it
closes something. -/
theorem IsLexeme.cons {token : JsonToken} {w : Text} (lexeme : IsLexeme token w) :
    ∃ c rest, w = c :: rest ∧ isBlank c = false ∧ (c == ']' || c == '\x7d') = token.closes := by
  cases lexeme with
  | comma => exact ⟨',', [], rfl, by decide, rfl⟩
  | string quoted => exact ⟨'"', _, rfl, by decide, rfl⟩
  | @code _ c rest inert start other =>
    have first := (List.forall_mem_cons.1 inert).1
    simp only [isCode, Bool.not_eq_true', Bool.or_eq_false_iff] at first
    exact ⟨c, rest, rfl, first.1, start⟩

/-- The piece in front of what is left is what the token is written as. -/
theorem next_append {w t : Text} {token : JsonToken} (read : next (w ++ t) = some (token, t)) :
    IsLexeme token w ∧ ∀ r, Continues t r → next (w ++ r) = some (token, r) := by
  obtain ⟨w', whole, lexeme, again⟩ := next_some read
  obtain rfl : w = w' := List.append_cancel_right whole
  exact ⟨lexeme, again⟩

/-! ## Texts of tokens -/

/-- The text consists of the tokens and of blanks. -/
inductive Spells : List JsonToken → Text → Prop
  | nil : Spells [] []
  | gap {c : Char} {tokens : List JsonToken} {s : Text} (blank : isGap c = true) (rest : Spells tokens s) :
      Spells tokens (c :: s)
  | token {token : JsonToken} {tokens : List JsonToken} {w s : Text}
      (read : next (w ++ s) = some (token, s)) (rest : Spells tokens s) : Spells (token :: tokens) (w ++ s)

namespace Spells

variable {tokens : List JsonToken} {s : Text}

theorem of_dropWhile (spells : Spells tokens (s.dropWhile isGap)) : Spells tokens s := by
  induction s with
  | nil => exact spells
  | cons c s ih =>
    by_cases blank : isGap c = true
    · rw [List.dropWhile_cons_of_pos blank] at spells
      exact .gap blank (ih spells)
    · rwa [List.dropWhile_cons_of_neg blank] at spells

theorem of_scan {fuel : Nat} (scanned : scan fuel s = some tokens) : Spells tokens s := by
  induction fuel generalizing s tokens with
  | zero => exact nomatch scanned
  | succ fuel ih =>
    refine of_dropWhile ?_
    unfold scan at scanned
    split at scanned
    case h_1 nothing =>
      cases scanned
      rw [nothing]
      exact .nil
    case h_2 some =>
      obtain ⟨⟨token, rest⟩, read, scanned⟩ := Option.bind_eq_some_iff.1 scanned
      obtain ⟨others, scannedRest, same⟩ := Option.bind_eq_some_iff.1 scanned
      cases same
      obtain ⟨w, whole, -, -⟩ := next_some read
      rw [whole] at read ⊢
      exact .token read (ih scannedRest)

theorem scan {fuel : Nat} (spells : Spells tokens s) (enough : s.length < fuel) :
    JsonToken.scan fuel s = some tokens := by
  induction spells generalizing fuel with
  | nil =>
    obtain ⟨fuel, rfl⟩ := Nat.exists_eq_succ_of_ne_zero (Nat.ne_zero_of_lt enough)
    rfl
  | @gap c tokens s blank rest ih =>
    obtain ⟨fuel, rfl⟩ := Nat.exists_eq_succ_of_ne_zero (Nat.ne_zero_of_lt enough)
    have further := ih (Nat.lt_of_succ_lt enough)
    unfold JsonToken.scan at further ⊢
    rwa [List.dropWhile_cons_of_pos blank]
  | @token token tokens w s read rest ih =>
    obtain ⟨fuel, rfl⟩ := Nat.exists_eq_succ_of_ne_zero (Nat.ne_zero_of_lt enough)
    obtain ⟨c, w, rfl, printed, -⟩ := (next_append read).1.cons
    have solid : ¬isGap c = true := fun blank => nomatch (isBlank_of_isGap blank).symm.trans printed
    have further : JsonToken.scan fuel s = some tokens := by
      refine ih ?_
      simp only [List.cons_append, List.length_cons, List.length_append] at enough
      omega
    unfold JsonToken.scan
    rw [List.cons_append, List.dropWhile_cons_of_neg solid]
    rw [List.cons_append] at read
    simp [read, further]

end Spells

/-- The tokens of a text are those that it consists of. -/
theorem ofText?_eq_some {tokens : List JsonToken} {s : Text} :
    ofText? s = some tokens ↔ Spells tokens s :=
  ⟨Spells.of_scan, fun spells => spells.scan (Nat.lt_succ_self _)⟩

end ModuleHooks.JsonToken
