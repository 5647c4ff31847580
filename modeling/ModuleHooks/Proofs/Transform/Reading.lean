import ModuleHooks.Proofs.Pieces
import ModuleHooks.Proofs.Transform.Scan

/-!
Source code as its readers see it: comments, strings, regular expressions, the texts of templates, words,
numbers and marks, one piece after another. Which pieces a source has is said here without regard to any scan,
and whether a slash begins a regular expression is left open. A reading that agrees with the scan on its
slashes (`isTold`) has the tokens that the scan finds, as far as it goes (`Scans.of_reading`).

A line comment ends in front of a newline, which may have a carriage return before it. What is written with
characters of other kinds, with escapes in words, or with a line break of another kind where it matters has no
reading.
-/
namespace ModuleHooks.CodeToken

/-- Whether the character breaks a line. -/
def breaksLine (c : Char) : Bool := ['\n', '\r', '\u2028', '\u2029'].contains c

/-- Whether the text can stand in a string with such quotes. A character with a backslash in front of it is
text, whatever it is; a carriage return may not be among them. -/
def isStringText (quote : Char) : Text → Bool
  | '\\' :: c :: rest => c != '\r' && isStringText quote rest
  | c :: rest => !(['\\', '\n', '\r', quote].contains c) && isStringText quote rest
  | [] => true

/-- Whether the text can be that of a regular expression, from inside a class on or from outside. -/
def isRegexText (inClass : Bool) : Text → Bool
  | '\\' :: c :: rest => !breaksLine c && isRegexText inClass rest
  | c :: rest =>
    c != '\\' && !breaksLine c && (c != '/' || inClass) &&
      isRegexText (if c = '[' then true else if c = ']' then false else inClass) rest
  | [] => !inClass

/-- Whether the text can be that of a template, up to its end or to code in it. -/
def isTemplateText : Text → Bool
  | '\\' :: _ :: rest => isTemplateText rest
  | '$' :: '\x7b' :: _ => false
  | c :: rest => c != '\\' && c != '\x60' && isTemplateText rest
  | [] => true

/-- The characters that are marks by themselves. -/
def marks : Text := "\x7b\x7d()[];,<>+-*/%&|^!~?:=.@#".toList

/-- A piece of source code. -/
inductive Piece
  | blank (c : Char)
  | lineComment (body : Text)
  | blockComment (body : Text)
  | string (quote : Char) (body : Text)
  | regex (body flags : Text)
  /-- Text of a template, from where the template starts or from the end of code in it, to where the template
  ends or to code. -/
  | template (starts : Bool) (body : Text) (ends : Bool)
  | word (w : Text)
  /-- A number, with the members that are named right behind it. -/
  | number (w : Text)
  | mark (c : Char)
deriving DecidableEq, Repr

namespace Piece

/-- How a piece is written. -/
def text : Piece → Text
  | .blank c | .mark c => [c]
  | .lineComment body => '/' :: '/' :: body
  | .blockComment body => '/' :: '*' :: (body ++ ['*', '/'])
  | .string quote body => quote :: (body ++ [quote])
  | .regex body flags => '/' :: (body ++ '/' :: flags)
  | .template starts body ends =>
    (if starts then '\x60' else '\x7d') :: (body ++ if ends then ['\x60'] else ['$', '\x7b'])
  | .word w | .number w => w

/-- The token of a piece, if it is one. -/
def token? : Piece → Option CodeToken
  | .blank _ | .lineComment _ | .blockComment _ => none
  | .string .. | .regex .. | .template _ _ true | .number _ => some .literal
  | .template _ _ false => some .templateCode
  | .word w => some (.word w)
  | .mark c => some (.mark c)

/-- Whether a run of characters that start with one and go on with others is all there is in front of the
rest. -/
def isRun (starts continues : Char → Bool) (w rest : Text) : Bool :=
  w.head?.any starts && w.tail.all continues && rest.head?.all (!continues ·)

/-- Whether a piece can be read as such in front of the rest. -/
def fits (rest : Text) : Piece → Bool
  | .blank c => isBlank c
  | .lineComment body =>
    body.all (!breaksLine ·) && (rest.isEmpty || ['\n'].isPrefixOf rest || ['\r', '\n'].isPrefixOf rest)
  | .blockComment body => !Text.hasInfix ['*', '/'] body
  | .string quote body => ['"', '\''].contains quote && isStringText quote body
  | .regex body flags =>
    body.head?.any (· != '*') && isRegexText false body && flags.all continuesWord &&
      rest.head?.all (!continuesWord ·)
  | .template _ body _ => isTemplateText body
  | .word w => isRun startsWord continuesWord w rest
  | .number w => isRun Char.isDigit continuesNumber w rest
  | .mark c =>
    marks.contains c && (c != '/' || rest.head?.all (fun c => !(['/', '*'].contains c))) &&
      (c != '#' || rest.head?.any startsWord)

/-- The braces that are open behind a piece: for each, the innermost first, whether it is one of code in a
template. What closes has to close the innermost one. -/
def nest? (opened : List Bool) : Piece → Option (List Bool)
  | .mark '\x7b' => some (false :: opened)
  | .mark '\x7d' => if opened.head? = some false then some opened.tail else none
  | .template starts _ ends =>
    if starts ∨ opened.head? = some true then
      let outer := if starts then opened else opened.tail
      some (if ends then outer else true :: outer)
    else none
  | _ => some opened

/-- Whether a slash behind the piece begins a regular expression, as its token has it. -/
def after (regex : Bool) (p : Piece) : Bool := (p.token?.map beforeRegex).getD regex

/-- Whether a slash that begins a regular expression stands where one can, and any other slash where none
can. -/
def isTold (regex : Bool) : Piece → Bool
  | .regex .. => regex
  | .mark '/' => !regex
  | _ => true

end Piece

/-- How pieces are written. -/
def written (pieces : List Piece) : Text := pieces.flatMap Piece.text

/-- Whether a text that starts with the pieces can be read so, with the braces that are open before it. -/
def isReading (opened : List Bool) : List Piece → Text → Bool
  | [], _ => true
  | p :: pieces, rest =>
    p.fits (written pieces ++ rest) && (p.nest? opened).any fun next => isReading next pieces rest

/-- Whether the token before each slash tells what the slash is. -/
def isTold (regex : Bool) : List Piece → Bool
  | [] => true
  | p :: pieces => p.isTold regex && isTold (p.after regex) pieces

/-- The tokens of pieces. -/
def tokensOf (pieces : List Piece) : List CodeToken := pieces.filterMap Piece.token?

/-- The tokens of pieces with the positions at which they start. -/
def placed (pos : Nat) : List Piece → List (Nat × CodeToken)
  | [] => []
  | p :: pieces => (p.token?.map (pos, ·)).toList ++ placed (pos + p.text.length) pieces

/-- The braces open in each template, for the open braces of pieces. -/
def counts : List Bool → List Nat
  | [] => []
  | true :: opened => 0 :: counts opened
  | false :: opened => openBrace (counts opened)

/-! ## Where tokens of pieces stand -/

theorem written_append (pieces more : List Piece) : written (pieces ++ more) = written pieces ++ written more :=
  List.flatMap_append

theorem length_written_cons (p : Piece) (pieces : List Piece) :
    (written (p :: pieces)).length = p.text.length + (written pieces).length := List.length_append

theorem length_written_append_cons (before after : List Piece) (p : Piece) :
    (written (before ++ p :: after)).length =
      (written before).length + (p.text.length + (written after).length) := by
  rw [written_append, List.length_append, length_written_cons]

theorem map_snd_placed (pos : Nat) (pieces : List Piece) :
    (placed pos pieces).map Prod.snd = tokensOf pieces := by
  induction pieces generalizing pos with
  | nil => rfl
  | cons p pieces ih =>
    rw [placed, List.map_append, ih, tokensOf, tokensOf, List.filterMap_cons]
    cases p.token? <;> rfl

theorem placed_append (pos : Nat) (pieces more : List Piece) :
    placed pos (pieces ++ more) = placed pos pieces ++ placed (pos + (written pieces).length) more := by
  induction pieces generalizing pos with
  | nil => rfl
  | cons p pieces ih =>
    rw [List.cons_append, placed, placed, ih, List.append_assoc, length_written_cons, Nat.add_assoc]

theorem Piece.eq_mark {p : Piece} {c : Char} (shows : p.token? = some (.mark c)) : p = mark c := by
  unfold token? at shows
  split at shows <;> simp_all

/-- A token of pieces is that of a piece. -/
theorem exists_of_tokensOf {pieces : List Piece} {token : CodeToken} {front back : List CodeToken}
    (cut : tokensOf pieces = front ++ token :: back) : ∃ before p after, pieces = before ++ p :: after ∧
      p.token? = some token ∧ tokensOf before = front ∧ tokensOf after = back := by
  obtain ⟨before, more, rfl, rfl, behind⟩ := List.filterMap_eq_append_iff.1 cut
  obtain ⟨silent, p, after, rfl, none, shows, rfl⟩ := List.filterMap_eq_cons_iff.1 behind
  refine ⟨before ++ silent, p, after, (List.append_assoc ..).symm, shows, ?_, rfl⟩
  rw [tokensOf, List.filterMap_append, List.filterMap_eq_nil_iff.2 none, List.append_nil]

/-- It stands where the pieces before it end. -/
theorem exists_of_placed {pos i : Nat} {token : CodeToken} {pieces : List Piece}
    (member : (i, token) ∈ placed pos pieces) : ∃ before p after, pieces = before ++ p :: after ∧
      p.token? = some token ∧ i = pos + (written before).length := by
  induction pieces generalizing pos with
  | nil => exact nomatch member
  | cons p pieces ih =>
    obtain here | later := List.mem_append.1 member
    · obtain ⟨shown, shows, same⟩ := Option.map_eq_some_iff.1 (Option.mem_toList.1 here)
      obtain ⟨rfl, rfl⟩ := Prod.mk.inj same
      exact ⟨[], p, pieces, rfl, shows, rfl⟩
    · obtain ⟨before, q, after, rfl, shows, rfl⟩ := ih later
      exact ⟨p :: before, q, after, rfl, shows, by rw [length_written_cons, Nat.add_assoc]⟩

/-! ## Inside pieces -/

theorem afterString_cons {quote c : Char} {rest : Text} (plain : c ≠ '\\') :
    afterString quote (c :: rest) =
      if c = '\n' then c :: rest else if c = quote then rest else afterString quote rest := by
  rw [afterString, if_neg plain]
  rintro c rest rfl
  exact absurd rfl plain

theorem afterString_text {quote : Char} {body : Text} (text : isStringText quote body = true)
    (isQuote : quote = '"' ∨ quote = '\'') (rest : Text) :
    afterString quote (body ++ quote :: rest) = rest := by
  fun_induction isStringText quote body with
  | case1 c body ih =>
    obtain ⟨-, text⟩ := Bool.and_eq_true_iff.1 text
    exact ih text
  | case2 c body _ ih =>
    obtain ⟨plain, text⟩ := Bool.and_eq_true_iff.1 text
    obtain ⟨noSlash, noBreak, -, noQuote⟩ : c ≠ '\\' ∧ c ≠ '\n' ∧ c ≠ '\r' ∧ c ≠ quote := by
      simpa using plain
    rw [List.cons_append, afterString_cons noSlash, if_neg noBreak, if_neg noQuote]
    exact ih text
  | case3 =>
    rcases isQuote with rfl | rfl <;> rfl

theorem afterRegexBody_cons {inClass : Bool} {c : Char} {rest : Text} (plain : c ≠ '\\') (line : c ≠ '\n') :
    afterRegexBody inClass (c :: rest) =
      if c = '/' && !inClass then rest
      else afterRegexBody (if c = '[' then true else if c = ']' then false else inClass) rest := by
  rw [afterRegexBody, if_neg plain, if_neg line]
  · by_cases opens : c = '['
    · subst opens
      rfl
    · by_cases closes : c = ']'
      · subst closes
        rfl
      · rw [if_neg opens, if_neg closes, if_neg opens, if_neg closes]
  · rintro c rest rfl
    exact absurd rfl plain

theorem afterRegexBody_text {inClass : Bool} {body : Text} (text : isRegexText inClass body = true)
    (rest : Text) : afterRegexBody inClass (body ++ '/' :: rest) = rest := by
  fun_induction isRegexText inClass body with
  | case1 inClass c body ih =>
    obtain ⟨-, text⟩ := Bool.and_eq_true_iff.1 text
    exact ih text
  | case2 inClass c body _ ih =>
    obtain ⟨plain, text⟩ := Bool.and_eq_true_iff.1 text
    obtain ⟨⟨noSlash, noBreak⟩, inside⟩ : (c ≠ '\\' ∧ breaksLine c = false) ∧ (c = '/' → inClass = true) := by
      simpa [Decidable.imp_iff_not_or] using plain
    have line : c ≠ '\n' := by
      rintro rfl
      exact nomatch noBreak
    have further : ¬(c = '/' && !inClass) = true := by simpa using inside
    rw [List.cons_append, afterRegexBody_cons noSlash line, if_neg further]
    exact ih text
  | case3 inClass =>
    obtain rfl : inClass = false := by simpa using text
    rfl

theorem templateEnd_cons {c : Char} {rest : Text} (plain : c ≠ '\\') (goesOn : c ≠ '\x60')
    (noCode : c = '$' → rest.head? ≠ some '\x7b') : templateEnd (c :: rest) = templateEnd rest := by
  rw [templateEnd, if_neg goesOn, if_neg plain]
  · rintro c rest rfl
    exact absurd rfl plain
  · rintro rest rfl rfl
    exact absurd rfl (noCode rfl)

theorem templateEnd_text {body : Text} (text : isTemplateText body = true) (rest : Text) :
    templateEnd (body ++ '\x60' :: rest) = .closed rest ∧
      templateEnd (body ++ '$' :: '\x7b' :: rest) = .code rest := by
  fun_induction isTemplateText body with
  | case1 c body ih => exact ih text
  | case2 => exact nomatch text
  | case3 c body _ noCode ih =>
    obtain ⟨plain, text⟩ := Bool.and_eq_true_iff.1 text
    obtain ⟨noEscape, goesOn⟩ : c ≠ '\\' ∧ c ≠ '\x60' := by simpa using plain
    -- What ends the template begins with no brace, so code begins inside the body or nowhere.
    have further (ends : Text) (noBrace : ends.head? ≠ some '\x7b') :
        templateEnd (c :: (body ++ ends)) = templateEnd (body ++ ends) := by
      refine templateEnd_cons noEscape goesOn fun dollar brace => ?_
      cases body with
      | nil => exact noBrace brace
      | cons d body =>
        obtain rfl : d = '\x7b' := Option.some.inj brace
        exact noCode body dollar rfl
    rw [List.cons_append, List.cons_append, further _ (by simp), further _ (by simp)]
    exact ih text
  | case4 => exact ⟨rfl, rfl⟩

theorem afterBlockComment_text {body : Text} (text : Text.hasInfix ['*', '/'] body = false) (rest : Text) :
    afterBlockComment (body ++ '*' :: '/' :: rest) = rest := by
  induction body with
  | nil => rfl
  | cons c body ih =>
    obtain ⟨here, later⟩ := Bool.or_eq_false_iff.1 text
    rw [List.cons_append, afterBlockComment]
    · exact ih later
    · rintro rest rfl starts
      cases body with
      | nil => exact nomatch starts
      | cons d body =>
        obtain rfl : d = '/' := (List.cons.inj starts).1
        exact nomatch here

/-! ## Steps over pieces -/

/-- The characters that a step looks at before it looks for words and numbers. -/
def openers : List Char := ['/', '"', '\'', '\x60', '\x7b', '\x7d']

/-- What the characters of marks are not. -/
theorem mark_plain : ∀ c ∈ marks, isBlank c = false ∧ startsWord c = false ∧ c.isDigit = false ∧
    c ≠ '"' ∧ c ≠ '\'' ∧ c ≠ '\x60' := by
  have plain : marks.all (fun c => !isBlank c && !startsWord c && !c.isDigit &&
      !(['"', '\'', '\x60'].contains c)) = true := by decide
  intro c isMark
  simpa [and_assoc] using List.all_eq_true.1 plain c isMark

theorem startsWord_plain {c : Char} (starts : startsWord c = true) :
    isBlank c = false ∧ c ∉ openers := by
  have blanks : ∀ n ∈ blankCodePoints, startsWord (Char.ofNat n) = false := by decide +kernel
  have others : openers.all (!startsWord ·) = true := by decide
  refine ⟨Bool.eq_false_iff.2 fun blank => ?_, fun other => ?_⟩
  · have noStart := blanks c.toNat (List.contains_iff_mem.1 blank)
    rw [Char.ofNat_toNat] at noStart
    exact nomatch noStart.symm.trans starts
  · have noStart := List.all_eq_true.1 others c other
    rw [starts] at noStart
    exact nomatch noStart

theorem isDigit_plain {c : Char} (digit : c.isDigit = true) : startsWord c = false ∧
    isBlank c = false ∧ c ∉ openers := by
  have digits : ∀ n ∈ List.range' 48 10, startsWord (Char.ofNat n) = false ∧
      isBlank (Char.ofNat n) = false ∧ Char.ofNat n ∉ openers := by decide
  have member : c.toNat ∈ List.range' 48 10 := by
    have bounds := Char.isDigit_iff_toNat.1 digit
    simp only [List.mem_range'_1]
    exact ⟨bounds.1, Nat.lt_succ_of_le bounds.2⟩
  have plain := digits c.toNat member
  rwa [Char.ofNat_toNat] at plain

section Step

variable {regex : Bool} {templates : List Nat} {rest body : Text} {c : Char}

theorem step_lineComment (line : '\n' ∉ body)
    (ends : ∀ c, rest.head? = some c → c = '\n') :
    step regex templates '/' ('/' :: body ++ rest) = ⟨none, templates, rest⟩ := by
  have inside : ∀ c ∈ '/' :: body, (c != '\n') = true := by
    refine List.forall_mem_cons.2 ⟨rfl, fun c member => bne_iff_ne.2 ?_⟩
    rintro rfl
    exact line member
  exact congrArg (Step.mk none templates) (Text.span_append inside (by simpa using ends)).2

theorem step_blockComment (text : Text.hasInfix ['*', '/'] body = false) :
    step regex templates '/' ('*' :: (body ++ ['*', '/']) ++ rest) = ⟨none, templates, rest⟩ := by
  rw [List.cons_append, List.append_assoc]
  exact congrArg (Step.mk none templates) (afterBlockComment_text text rest)

theorem step_string {quote : Char} (text : isStringText quote body = true)
    (isQuote : quote = '"' ∨ quote = '\'') :
    step regex templates quote (body ++ [quote] ++ rest) = ⟨some .literal, templates, rest⟩ := by
  rw [List.append_assoc]
  refine .trans ?_ (congrArg (Step.mk (some .literal) templates) (afterString_text text isQuote rest))
  rcases isQuote with rfl | rfl <;> rfl

theorem step_regex {flags : Text} (starts : body.head?.any (· != '*') = true)
    (text : isRegexText false body = true) (inside : ∀ c ∈ flags, continuesWord c = true)
    (other : ∀ c, rest.head? = some c → continuesWord c = false) :
    step true templates '/' (body ++ '/' :: flags ++ rest) = ⟨some .literal, templates, rest⟩ := by
  rw [List.append_assoc, List.cons_append]
  have after : afterRegex (body ++ '/' :: (flags ++ rest)) = rest := by
    rw [afterRegex, afterRegexBody_text text]
    exact (Text.span_append inside other).2
  cases body with
  | nil => exact nomatch starts
  | cons d body =>
    have noStar : d ≠ '*' := by simpa using starts
    have noSlash : d ≠ '/' := by
      rintro rfl
      exact nomatch text
    rw [List.cons_append] at after ⊢
    simp [step, show isBlank '/' = false by decide, noStar, noSlash, after]

theorem templateStep_text (text : isTemplateText body = true) :
    templateStep templates (body ++ ['\x60'] ++ rest) = ⟨some .literal, templates, rest⟩ ∧
      templateStep templates (body ++ ['$', '\x7b'] ++ rest) =
        ⟨some .templateCode, 0 :: templates, rest⟩ := by
  obtain ⟨closed, code⟩ := templateEnd_text text rest
  simp only [List.append_assoc, List.cons_append, List.nil_append]
  rw [templateStep, templateStep, closed, code]
  exact ⟨rfl, rfl⟩

theorem step_word {w : Text} (starts : startsWord c = true) (inside : ∀ c ∈ w, continuesWord c = true)
    (other : ∀ c, rest.head? = some c → continuesWord c = false) :
    step regex templates c (w ++ rest) = ⟨some (.word (c :: w)), templates, rest⟩ := by
  obtain ⟨taken, left⟩ := Text.span_append inside other
  obtain ⟨blank, opener⟩ := startsWord_plain starts
  simp only [openers, List.mem_cons, List.not_mem_nil, or_false, not_or] at opener
  simp [step, blank, opener, starts, taken, left]

theorem step_number {w : Text} (starts : c.isDigit = true) (inside : ∀ c ∈ w, continuesNumber c = true)
    (other : ∀ c, rest.head? = some c → continuesNumber c = false) :
    step regex templates c (w ++ rest) = ⟨some .literal, templates, rest⟩ := by
  obtain ⟨-, left⟩ := Text.span_append inside other
  obtain ⟨noWord, blank, opener⟩ := isDigit_plain starts
  simp only [openers, List.mem_cons, List.not_mem_nil, or_false, not_or] at opener
  simp [step, blank, opener, noWord, starts, left]

theorem step_mark (isMark : c ∈ marks) (brace : c ≠ '\x7b' ∧ c ≠ '\x7d')
    (slash : c = '/' → regex = false ∧ rest.head? ≠ some '/' ∧ rest.head? ≠ some '*') :
    step regex templates c rest = ⟨some (.mark c), templates, rest⟩ := by
  obtain ⟨blank, word, digit, double, single, template⟩ := mark_plain c isMark
  by_cases same : c = '/'
  · obtain ⟨rfl, line, block⟩ := slash same
    subst same
    simp [step, blank, word, line, block]
  · simp [step, same, blank, word, digit, double, single, template, brace]

theorem Piece.nest?_mark {opened : List Bool} (opens : c ≠ '\x7b') (closes : c ≠ '\x7d') :
    (mark c).nest? opened = some opened := by
  unfold nest?
  split <;> simp_all

/-- A brace closes what the innermost open brace opened. -/
theorem closeBrace_counts (opened : List Bool) :
    closeBrace (counts (false :: opened)) rest = ⟨some (.mark '\x7d'), counts opened, rest⟩ := by
  rw [counts]
  cases counts opened <;> rfl

theorem step_template {starts : Bool} {opened : List Bool} (body : Text)
    (inside : starts = true ∨ opened.head? = some true) :
    step regex (counts opened) (if starts then '\x60' else '\x7d') body =
      templateStep (counts (if starts then opened else opened.tail)) body := by
  cases starts with
  | true => rfl
  | false =>
    obtain ⟨outer, rfl⟩ := List.head?_eq_some_iff.1 (inside.resolve_left Bool.false_ne_true)
    rfl

end Step

/-! ## Scans over pieces -/

/-- A scan goes on from where its first step went. -/
theorem Scans.goes_on {pos : Nat} {regex : Bool} {templates next : List Nat} {c : Char} {front rest : Text}
    {found : List (Nat × CodeToken)} {token : Option CodeToken}
    (scans : Scans pos regex templates (c :: (front ++ rest)) found)
    (goes : step regex templates c (front ++ rest) = ⟨token, next, rest⟩) :
    ∃ later, found = (token.map (pos, ·)).toList ++ later ∧
      Scans (pos + (front.length + 1)) ((token.map beforeRegex).getD regex) next rest later := by
  have length : (front ++ rest).length + 1 - rest.length = front.length + 1 := by
    rw [List.length_append]
    omega
  cases scans with
  | silent silent further =>
    rw [goes] at silent further
    obtain rfl : token = none := silent
    exact ⟨found, rfl, length ▸ further⟩
  | @token _ _ _ _ _ later token' shows further =>
    rw [goes] at shows further
    obtain rfl : token = some token' := shows
    exact ⟨later, rfl, length ▸ further⟩

theorem run_of_isRun {starts continues : Char → Bool} {w rest : Text}
    (run : Piece.isRun starts continues w rest = true) : ∃ c more, w = c :: more ∧ starts c = true ∧
      (∀ d ∈ more, continues d = true) ∧ ∀ d, rest.head? = some d → continues d = false := by
  cases w with
  | nil => exact nomatch run
  | cons c more =>
    obtain ⟨inside, stops⟩ := Bool.and_eq_true_iff.1 run
    obtain ⟨first, others⟩ := Bool.and_eq_true_iff.1 inside
    exact ⟨c, more, rfl, first, List.all_eq_true.1 others, by simpa [Option.all_eq_true] using stops⟩

section

variable {pos : Nat} {regex : Bool} {rest : Text} {found : List (Nat × CodeToken)}

theorem Scans.of_blank {templates : List Nat} {c : Char} (blank : isBlank c = true)
    (further : Scans (pos + 1) regex templates rest found) : Scans pos regex templates (c :: rest) found := by
  have goes : step regex templates c rest = ⟨none, templates, rest⟩ := if_pos blank
  refine .silent (by rw [goes]) ?_
  rw [goes, Nat.add_sub_cancel_left]
  exact further

/-- A scan passes a line comment together with the carriage return of a line break, which is blank. -/
theorem Scans.lineComment {templates : List Nat} {body : Text}
    (scans : Scans pos regex templates ('/' :: ('/' :: body ++ rest)) found)
    (fits : (Piece.lineComment body).fits rest = true) :
    Scans (pos + (body.length + 2)) regex templates rest found := by
  obtain ⟨inside, ends⟩ := Bool.and_eq_true_iff.1 fits
  have line : '\n' ∉ body := fun member => nomatch List.all_eq_true.1 inside _ member
  rw [Bool.or_eq_true, Bool.or_eq_true, List.isEmpty_iff, List.isPrefixOf_iff_prefix,
    List.isPrefixOf_iff_prefix] at ends
  rcases ends with (rfl | ⟨more, rfl⟩) | ⟨more, rfl⟩
  · obtain ⟨_, rfl, further⟩ := scans.goes_on (step_lineComment line (by simp))
    exact further
  · obtain ⟨_, rfl, further⟩ := scans.goes_on (step_lineComment line (by simp))
    exact further
  · have longer : '\n' ∉ body ++ ['\r'] := by simp [line]
    have goes : step regex templates '/' ('/' :: (body ++ ['\r']) ++ '\n' :: more) = _ :=
      step_lineComment longer (by simp)
    have joined : '/' :: body ++ (['\r', '\n'] ++ more) = '/' :: (body ++ ['\r']) ++ '\n' :: more := by simp
    rw [joined] at scans
    obtain ⟨_, rfl, further⟩ := scans.goes_on goes
    refine .of_blank (by decide) ?_
    simpa [Nat.add_assoc] using further

/-- A scan finds the token of a piece that fits where it is, and goes on behind it. -/
theorem Scans.piece {p : Piece} {opened next : List Bool} (fits : p.fits rest = true)
    (nest : p.nest? opened = some next) (told : p.isTold regex = true)
    (scans : Scans pos regex (counts opened) (p.text ++ rest) found) :
    ∃ later, found = (p.token?.map (pos, ·)).toList ++ later ∧
      Scans (pos + p.text.length) (p.after regex) (counts next) rest later := by
  cases p with
  | blank c =>
    obtain rfl := Option.some.inj nest
    have goes : step regex (counts opened) c ([] ++ rest) = ⟨none, counts opened, rest⟩ := if_pos fits
    exact scans.goes_on goes
  | lineComment body =>
    obtain rfl := Option.some.inj nest
    exact ⟨found, rfl, scans.lineComment fits⟩
  | blockComment body =>
    obtain rfl := Option.some.inj nest
    have text : Text.hasInfix ['*', '/'] body = false := by simpa [Piece.fits] using fits
    exact scans.goes_on (step_blockComment text)
  | string quote body =>
    obtain rfl := Option.some.inj nest
    obtain ⟨isQuote, text⟩ := Bool.and_eq_true_iff.1 fits
    exact scans.goes_on (step_string text (by simpa using isQuote))
  | regex body flags =>
    obtain rfl := Option.some.inj nest
    obtain rfl : regex = true := told
    obtain ⟨⟨⟨starts, text⟩, inside⟩, other⟩ : ((_ ∧ _) ∧ _) ∧ _ := by
      simpa only [Piece.fits, Bool.and_eq_true] using fits
    exact scans.goes_on (step_regex starts text (List.all_eq_true.1 inside)
      (by simpa [Option.all_eq_true] using other))
  | template starts body ends =>
    obtain ⟨inside, same⟩ := Option.ite_none_right_eq_some.1 nest
    obtain rfl := Option.some.inj same
    cases ends with
    | true => exact scans.goes_on ((step_template _ inside).trans (templateStep_text fits).1)
    | false => exact scans.goes_on ((step_template _ inside).trans (templateStep_text fits).2)
  | word w =>
    obtain rfl := Option.some.inj nest
    obtain ⟨c, more, rfl, starts, inside, other⟩ := run_of_isRun fits
    exact scans.goes_on (step_word starts inside other)
  | number w =>
    obtain rfl := Option.some.inj nest
    obtain ⟨c, more, rfl, starts, inside, other⟩ := run_of_isRun fits
    exact scans.goes_on (step_number starts inside other)
  | mark c =>
    obtain ⟨⟨isMark, slash⟩, -⟩ : (_ ∧ _) ∧ _ := by
      simpa only [Piece.fits, Bool.and_eq_true] using fits
    have goes : step regex (counts opened) c ([] ++ rest) = ⟨some (.mark c), counts next, rest⟩ := by
      by_cases opens : c = '\x7b'
      · subst opens
        obtain rfl := Option.some.inj nest
        rfl
      by_cases closes : c = '\x7d'
      · subst closes
        obtain ⟨inner, same⟩ := Option.ite_none_right_eq_some.1 nest
        obtain rfl := Option.some.inj same
        obtain ⟨outer, rfl⟩ := List.head?_eq_some_iff.1 inner
        exact closeBrace_counts outer
      obtain rfl := Option.some.inj ((Piece.nest?_mark opens closes).symm.trans nest)
      refine step_mark (List.contains_iff_mem.1 isMark) ⟨opens, closes⟩ fun same => ?_
      subst same
      have divides : regex = false := by simpa [Piece.isTold] using told
      have other : ∀ d, rest.head? = some d → d ≠ '/' ∧ d ≠ '*' := by
        simpa [Option.all_eq_true] using slash
      exact ⟨divides, fun head => (other _ head).1 rfl, fun head => (other _ head).2 rfl⟩
    exact scans.goes_on goes

end

/-- A scan of a source with a reading finds the tokens of its pieces, and goes on behind them. -/
theorem Scans.of_reading {pieces : List Piece} {pos : Nat} {regex : Bool} {opened : List Bool} {rest : Text}
    {found : List (Nat × CodeToken)} (reading : isReading opened pieces rest = true)
    (told : isTold regex pieces = true)
    (scans : Scans pos regex (counts opened) (written pieces ++ rest) found) :
    ∃ later, found = placed pos pieces ++ later ∧ ∀ p ∈ later, pos + (written pieces).length ≤ p.1 := by
  induction pieces generalizing pos regex opened found with
  | nil => exact ⟨found, rfl, scans.sorted.1⟩
  | cons p pieces ih =>
    obtain ⟨fits, nested⟩ := Bool.and_eq_true_iff.1 reading
    obtain ⟨next, nest, reading⟩ := (Option.any_eq_true _ _).1 nested
    obtain ⟨toldHere, told⟩ := Bool.and_eq_true_iff.1 told
    have whole : written (p :: pieces) ++ rest = p.text ++ (written pieces ++ rest) := List.append_assoc ..
    rw [whole] at scans
    obtain ⟨behind, rfl, further⟩ := scans.piece fits nest toldHere
    obtain ⟨later, rfl, least⟩ := ih reading told further
    refine ⟨later, (List.append_assoc ..).symm, fun p member => ?_⟩
    rw [length_written_cons, ← Nat.add_assoc]
    exact least p member

end ModuleHooks.CodeToken
