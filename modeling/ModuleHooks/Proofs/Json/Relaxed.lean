import ModuleHooks.Proofs.Json.Phrases
import ModuleHooks.Tsconfig.Reader

/-!
What comments and trailing commas come to. Blanks, comments and commas before a closing bracket may be
put between the tokens of a JSON text. The first pass leaves of a comment the ends of its lines, the second
leaves nothing of the commas; both copy every token. So the plain text has the tokens of the text that was
decorated, and a text without decoration is its own plain text.
-/
namespace ModuleHooks.Relaxed

open JsonToken

/-! ## Decorations -/

/-- What may stand between tokens: a blank, a comment up to its end mark, or one up to the end of its
line. -/
inductive IsOrnament : Text → Prop
  | gap {c : Char} (blank : isGap c = true) : IsOrnament [c]
  | block {content : Text} (unended : ¬['*', '/'] <:+: content) :
      IsOrnament ('/' :: '*' :: (content ++ ['*', '/']))
  | line {content : Text} (unended : '\n' ∉ content) : IsOrnament ('/' :: '/' :: (content ++ ['\n']))

/-- A single blank. -/
def IsGapText (s : Text) : Prop := ∃ c, isGap c = true ∧ s = [c]

/-- Whether a value may end with the token. -/
def endsValue : JsonToken → Bool
  | .openBrace | .openBracket | .colon | .comma => false
  | _ => true

/-- The second text is the first, which consists of the tokens, with ornaments between them and with one
comma between the end of a value and a closing token. The token in front comes first. -/
inductive Decorates (ornament : Text → Prop) : Option JsonToken → List JsonToken → Text → Text → Prop
  | done {last : Option JsonToken} : Decorates ornament last [] [] []
  | gap {last : Option JsonToken} {tokens : List JsonToken} {t u : Text} {c : Char} (blank : isGap c = true)
      (rest : Decorates ornament last tokens t u) : Decorates ornament last tokens (c :: t) (c :: u)
  | ornament {last : Option JsonToken} {tokens : List JsonToken} {t u o : Text} (allowed : ornament o)
      (rest : Decorates ornament last tokens t u) : Decorates ornament last tokens t (o ++ u)
  | comma {last closer : JsonToken} {tokens : List JsonToken} {t u : Text} (behind : endsValue last = true)
      (closing : closer.closes = true)
      (rest : Decorates ornament (some JsonToken.comma) (closer :: tokens) t u) :
      Decorates ornament (some last) (closer :: tokens) t (',' :: u)
  | token {last : Option JsonToken} {token : JsonToken} {tokens : List JsonToken} {w t u : Text}
      (read : next (w ++ t) = some (token, t)) (rest : Decorates ornament (some token) tokens t u) :
      Decorates ornament last (token :: tokens) (w ++ t) (w ++ u)

namespace Decorates

variable {ornament : Text → Prop} {last : Option JsonToken} {tokens : List JsonToken} {t u : Text}

/-- The decorated text consists of the tokens. -/
theorem spells (decorates : Decorates ornament last tokens t u) : Spells tokens t := by
  induction decorates with
  | done => exact .nil
  | gap blank _ ih => exact .gap blank ih
  | ornament _ _ ih => exact ih
  | comma _ _ _ ih => exact ih
  | token read _ ih => exact .token read ih

/-- A text of tokens decorates itself. -/
theorem of_spells (spells : Spells tokens t) (last : Option JsonToken) :
    Decorates ornament last tokens t t := by
  induction spells generalizing last with
  | nil => exact .done
  | gap blank _ ih => exact .gap blank (ih last)
  | token read _ ih => exact .token read (ih _)

/-- Blanks in front are ornaments. -/
theorem gaps (decorates : Decorates IsGapText last tokens t u) {blanks : Text}
    (all : ∀ c ∈ blanks, isGap c = true) : Decorates IsGapText last tokens t (blanks ++ u) := by
  induction blanks with
  | nil => exact decorates
  | cons c rest ih =>
    obtain ⟨first, others⟩ := List.forall_mem_cons.1 all
    exact .ornament (o := [c]) ⟨c, first, rfl⟩ (ih others)

end Decorates

/-! ## What both passes copy -/

section

variable {s w body content : Text} {c : Char} {token : JsonToken}

theorem ne_of_isGap (blank : isGap c = true) : c ≠ '"' ∧ c ≠ '/' ∧ c ≠ ',' := by
  refine ⟨?_, ?_, ?_⟩ <;> rintro rfl <;> exact absurd blank (by decide)

theorem ne_of_isCode (code : isCode c = true) : c ≠ '"' ∧ c ≠ '/' ∧ c ≠ ',' := by
  refine ⟨?_, ?_, ?_⟩ <;> rintro rfl <;> exact absurd code (by decide)

/-- A pass over a text, as it goes on outside of strings and inside of one: it copies strings, and whatever
is no slash and no comma. -/
structure Copies (outside inside : Text → Text) : Prop where
  opening (s : Text) : outside ('"' :: s) = '"' :: inside s
  closing (s : Text) : inside ('"' :: s) = '"' :: outside s
  escaped (c : Char) (s : Text) : inside ('\\' :: c :: s) = '\\' :: c :: inside s
  quoted {c : Char} (s : Text) (quote : c ≠ '"') (backslash : c ≠ '\\') : inside (c :: s) = c :: inside s
  other {c : Char} (s : Text) (marks : c ≠ '"' ∧ c ≠ '/' ∧ c ≠ ',') : outside (c :: s) = c :: outside s

namespace Copies

variable {outside inside : Text → Text}

theorem gap (copies : Copies outside inside) (blank : isGap c = true) (s : Text) :
    outside (c :: s) = c :: outside s := copies.other s (ne_of_isGap blank)

theorem string (copies : Copies outside inside) (quoted : IsQuoted body) (s : Text) :
    outside ('"' :: (body ++ '"' :: s)) = '"' :: (body ++ '"' :: outside s) := by
  have kept : inside (body ++ '"' :: s) = body ++ '"' :: outside s := by
    induction quoted with
    | nil => exact copies.closing s
    | escaped c rest ih =>
      rw [List.cons_append, List.cons_append, copies.escaped, ih]
      rfl
    | plain quote backslash rest ih =>
      rw [List.cons_append, copies.quoted _ quote backslash, ih]
      rfl
  rw [copies.opening, kept]

theorem lexeme (copies : Copies outside inside) (lexeme : IsLexeme token w) (other : token ≠ .comma)
    (s : Text) : outside (w ++ s) = w ++ outside s := by
  cases lexeme with
  | comma => exact absurd rfl other
  | string quoted => simpa using copies.string quoted s
  | @code _ c rest inert start _ =>
    generalize c :: rest = w at inert
    induction w with
    | nil => rfl
    | cons d w ih =>
      obtain ⟨first, others⟩ := List.forall_mem_cons.1 inert
      rw [List.cons_append, copies.other _ (ne_of_isCode first), ih others]
      rfl

end Copies

/-! ## The first pass -/

theorem copies_stripComments : Copies stripComments insideString where
  opening _ := rfl
  closing _ := rfl
  escaped _ _ := rfl
  quoted s quote backslash := by
    rw [insideString, if_neg quote]
    simp [backslash]
  other s marks := by
    obtain ⟨quote, slash, -⟩ := marks
    rw [stripComments] <;> simp [quote, slash]

/-- Of a comment up to its end mark, the line ends are left. -/
theorem insideBlockComment_eq (unended : ¬['*', '/'] <:+: content) (s : Text) :
    insideBlockComment (content ++ '*' :: '/' :: s) =
      content.filter (· == '\n') ++ stripComments s := by
  induction content with
  | nil => rfl
  | cons c content ih =>
    have further : ¬['*', '/'] <:+: content := fun inside =>
      unended (inside.trans (List.suffix_cons c content).isInfix)
    have unmarked : ∀ rest, c = '*' → content ++ '*' :: '/' :: s = '/' :: rest → False := by
      intro rest star slash
      cases content with
      | nil => cases slash
      | cons d content =>
        obtain ⟨rfl, -⟩ := List.cons.inj slash
        exact unended ⟨[], content, by simp [star]⟩
    rw [List.cons_append, insideBlockComment, ih further]
    · by_cases ending : c = '\n'
      · simp [ending]
      · simp [ending]
    · exact unmarked

theorem insideLineComment_eq (unended : '\n' ∉ content) (s : Text) :
    insideLineComment (content ++ '\n' :: s) = '\n' :: stripComments s := by
  induction content with
  | nil => rfl
  | cons c content ih =>
    obtain ⟨other, further⟩ := not_or.1 (fun member => unended (List.mem_cons.2 member))
    rw [List.cons_append, insideLineComment, if_neg (Ne.symm other), ih further]

/-- The first pass copies tokens. -/
theorem stripComments_lexeme (lexeme : IsLexeme token w) (s : Text) :
    stripComments (w ++ s) = w ++ stripComments s := by
  cases lexeme with
  | comma => rfl
  | string quoted => exact copies_stripComments.lexeme (.string quoted) nofun s
  | code inert start other => exact copies_stripComments.lexeme (.code inert start other) other s

theorem stripComments_spells {tokens : List JsonToken} (spells : Spells tokens s) : stripComments s = s := by
  induction spells with
  | nil => rfl
  | gap blank rest ih => rw [copies_stripComments.gap blank, ih]
  | token read rest ih => rw [stripComments_lexeme (next_append read).1, ih]

/-- The first pass leaves blanks of the ornaments. -/
theorem Decorates.strip {last : Option JsonToken} {tokens : List JsonToken} {t u : Text}
    (decorates : Decorates IsOrnament last tokens t u) :
    Decorates IsGapText last tokens t (stripComments u) := by
  induction decorates with
  | done => exact .done
  | gap blank _ ih =>
    rw [copies_stripComments.gap blank]
    exact .gap blank ih
  | @ornament last tokens t u o allowed _ ih =>
    cases allowed with
    | gap blank =>
      rw [List.singleton_append, copies_stripComments.gap blank]
      exact .ornament ⟨_, blank, rfl⟩ ih
    | @block content unended =>
      have ends : ∀ c ∈ content.filter (· == '\n'), isGap c = true := by
        intro c member
        obtain rfl : c = '\n' := by simpa using (List.mem_filter.1 member).2
        decide
      simp only [List.cons_append, List.append_assoc, List.nil_append]
      show Decorates _ _ _ _ (insideBlockComment (content ++ '*' :: '/' :: u))
      rw [insideBlockComment_eq unended]
      exact ih.gaps ends
    | @line content unended =>
      simp only [List.cons_append, List.append_assoc, List.nil_append]
      show Decorates _ _ _ _ (insideLineComment (content ++ '\n' :: u))
      rw [insideLineComment_eq unended]
      exact .ornament (o := ['\n']) ⟨'\n', by decide, rfl⟩ ih
  | comma behind closing _ ih => exact .comma behind closing ih
  | token read _ ih =>
    rw [stripComments_lexeme (next_append read).1]
    exact .token read ih

/-! ## The second pass -/

theorem copies_dropTrailingCommas : Copies dropTrailingCommas keepString where
  opening _ := rfl
  closing _ := rfl
  escaped _ _ := rfl
  quoted s quote backslash := by
    rw [keepString, if_neg quote]
    simp [backslash]
  other s marks := by
    obtain ⟨quote, -, comma⟩ := marks
    rw [dropTrailingCommas, if_neg quote, if_neg fun both => comma both.1]

/-- Behind a comma no further one is put, so the next token decides what is seen there. -/
theorem closesNext_eq {last : Option JsonToken} {tokens : List JsonToken} {t u : Text}
    (decorates : Decorates IsGapText last tokens t u) (comma : last = some .comma) :
    closesNext u = tokens.head?.any JsonToken.closes := by
  have skip {c : Char} (blank : isGap c = true) (u : Text) : closesNext (c :: u) = closesNext u := by
    unfold closesNext
    rw [List.dropWhile_cons_of_pos (isBlank_of_isGap blank)]
  induction decorates with
  | done => rfl
  | gap blank _ ih => rw [skip blank, ih comma]
  | ornament allowed _ ih =>
    obtain ⟨c, blank, rfl⟩ := allowed
    rw [List.singleton_append, skip blank, ih comma]
  | comma behind =>
    obtain rfl := Option.some.inj comma
    exact nomatch behind
  | token read _ _ =>
    obtain ⟨c, rest, rfl, printed, start⟩ := (next_append read).1.cons
    unfold closesNext
    rw [List.cons_append, List.dropWhile_cons_of_neg (by simp [printed])]
    exact start

theorem dropTrailingCommas_comma (s : Text) :
    dropTrailingCommas (',' :: s) =
      if closesNext s then dropTrailingCommas s else ',' :: dropTrailingCommas s := by
  rw [dropTrailingCommas, if_neg (by decide)]
  simp

/-- A token is copied: if it is a comma, what follows it does not close anything. -/
theorem dropTrailingCommas_token {tokens : List JsonToken} {t u : Text} (lexeme : IsLexeme token w)
    (rest : Decorates IsGapText (some token) tokens t u)
    (chain : (token :: tokens).IsChain JsonDocument.Precedes) :
    dropTrailingCommas (w ++ u) = w ++ dropTrailingCommas u := by
  by_cases comma : token = .comma
  · subst comma
    have open_ : closesNext u = false := by
      rw [closesNext_eq rest rfl]
      cases tokens with
      | nil => rfl
      | cons next tokens => exact (List.isChain_cons_cons.1 chain).1 rfl
    cases lexeme with
    | comma =>
      rw [List.singleton_append, dropTrailingCommas_comma, open_]
      rfl
    | code inert start other => exact absurd rfl other
  · exact copies_dropTrailingCommas.lexeme lexeme comma u

theorem dropTrailingCommas_spells {tokens : List JsonToken} (spells : Spells tokens s)
    (chain : tokens.IsChain JsonDocument.Precedes) : dropTrailingCommas s = s := by
  induction spells with
  | nil => rfl
  | gap blank rest ih => rw [copies_dropTrailingCommas.gap blank, ih chain]
  | token read rest ih =>
    rw [dropTrailingCommas_token (next_append read).1 (.of_spells rest _) chain, ih chain.tail]

/-- The second pass leaves the tokens, with blanks between them. -/
theorem Decorates.drop {last : Option JsonToken} {tokens : List JsonToken} {t u : Text}
    (decorates : Decorates IsGapText last tokens t u) (chain : tokens.IsChain JsonDocument.Precedes) :
    Spells tokens (dropTrailingCommas u) ∧ Continues t (dropTrailingCommas u) := by
  induction decorates with
  | done => exact ⟨.nil, .inl rfl⟩
  | gap blank _ ih =>
    rw [copies_dropTrailingCommas.gap blank]
    exact ⟨.gap blank (ih chain).1, .inl rfl⟩
  | ornament allowed _ ih =>
    obtain ⟨c, blank, rfl⟩ := allowed
    rw [List.singleton_append, copies_dropTrailingCommas.gap blank]
    exact ⟨.gap blank (ih chain).1, .inr ⟨c, rfl, blank⟩⟩
  | comma behind closing rest ih =>
    have closed := closesNext_eq rest rfl
    rw [dropTrailingCommas_comma, closed]
    simpa [closing] using ih chain
  | token read rest ih =>
    obtain ⟨lexeme, again⟩ := next_append read
    obtain ⟨spells, continues⟩ := ih chain.tail
    rw [dropTrailingCommas_token lexeme rest chain]
    obtain ⟨c, rest, rfl, -, -⟩ := lexeme.cons
    exact ⟨.token (again _ continues) spells, .inl rfl⟩

end

/-! ## Plain texts -/

section

variable {t u : Text} {d : JsonDocument} {tokens : List JsonToken}

/-- A text that spells a document is plain already. -/
theorem toPlain_of_strict (strict : JsonDocument.ofText? t = some d) : toPlain t = t := by
  obtain ⟨tokens, scanned, read⟩ := Option.bind_eq_some_iff.1 strict
  have spells := ofText?_eq_some.1 scanned
  rw [toPlain, stripComments_spells spells,
    dropTrailingCommas_spells spells (JsonDocument.chain_of_ofTokens? read)]

/-- The plain text of a decorated text has the tokens of the text that was decorated. -/
theorem ofText?_toPlain (strict : JsonDocument.ofText? t = some d)
    (decorates : Decorates IsOrnament none tokens t u) :
    JsonToken.ofText? (toPlain u) = JsonToken.ofText? t := by
  obtain ⟨tokens', scanned, read⟩ := Option.bind_eq_some_iff.1 strict
  have same : tokens' = tokens := by
    have spelled := ofText?_eq_some.2 decorates.spells
    exact Option.some.inj (scanned.symm.trans spelled)
  subst same
  have plain := (decorates.strip.drop (JsonDocument.chain_of_ofTokens? read)).1
  rw [scanned]
  exact ofText?_eq_some.2 plain

/-- A string literal is left as it is, whatever is in it and whatever follows it. -/
theorem toPlain_string {body : Text} (quoted : IsQuoted body) (rest : Text) :
    toPlain ('"' :: (body ++ '"' :: rest)) = '"' :: (body ++ '"' :: toPlain rest) := by
  rw [toPlain, copies_stripComments.string quoted, copies_dropTrailingCommas.string quoted]
  rfl

/-- Bringing a text to plain JSON preserves what it means. A text that spells a document stays as it is,
character for character. Blanks and comments between its tokens, and a comma before each closing bracket or
brace that stands behind a value, change neither its tokens nor its value nor the configuration that is
read from it. String literals stay as they are in any text. -/
theorem toPlain_preserves (t : Text) (d : JsonDocument) (strict : JsonDocument.ofText? t = some d) :
    toPlain t = t ∧
    (∀ tokens u, Decorates IsOrnament none tokens t u →
      JsonToken.ofText? (toPlain u) = JsonToken.ofText? t ∧
      JsonDocument.ofText? (toPlain u) = some d ∧
      Json.parse? (toPlain u) = Json.parse? t ∧
      ∀ path, Tsconfig.parse path u = Tsconfig.parse path t) ∧
    ∀ body rest, IsQuoted body →
      toPlain ('"' :: (body ++ '"' :: rest)) = '"' :: (body ++ '"' :: toPlain rest) := by
  have plain := toPlain_of_strict strict
  refine ⟨plain, fun tokens u decorates => ?_, fun body rest quoted => toPlain_string quoted rest⟩
  have scanned := ofText?_toPlain strict decorates
  have document : JsonDocument.ofText? (toPlain u) = JsonDocument.ofText? t := by
    rw [JsonDocument.ofText?, scanned, JsonDocument.ofText?]
  refine ⟨scanned, document.trans strict, ?_, fun path => ?_⟩
  · rw [Json.parse?, document, Json.parse?]
  · rw [Tsconfig.parse, document, Tsconfig.parse, plain]

end

/-- A list of one text, which looks like a comment. -/
def listText : Text := ['[', '"', '/', '/', '"', ']']

/-- The list with a quote in a comment, and with a comma and a bracket in a comment behind the text. -/
def relaxedListText : Text :=
  ['[', '/', '*', '"', '*', '/', '"', '/', '/', '"', ',', '/', '/', ']', '\n', ']']

theorem decorates_listText :
    Decorates IsOrnament none [.openBracket, .string ['/', '/'], .closeBracket] listText relaxedListText := by
  have quote : ¬['*', '/'] <:+: ['"'] := by decide
  have bracket : '\n' ∉ [']'] := by decide
  have closed : Decorates IsOrnament (some .comma) [.closeBracket] [']'] [']'] := .token (w := [']']) rfl .done
  have comma : Decorates IsOrnament (some (.string ['/', '/'])) [.closeBracket] [']']
      [',', '/', '/', ']', '\n', ']'] :=
    .comma rfl rfl (.ornament (.line bracket) closed)
  exact .token (w := ['[']) rfl (.ornament (.block quote) (.token (w := ['"', '/', '/', '"']) rfl comma))

theorem toPlain_preserves_list :
    JsonDocument.ofText? listText = some (.array [.string ['/', '/']]) ∧ toPlain listText = listText ∧
      JsonDocument.ofText? (toPlain relaxedListText) = some (.array [.string ['/', '/']]) ∧
      Json.parse? (toPlain relaxedListText) = Json.parse? listText ∧
      ∀ path, Tsconfig.parse path relaxedListText = Tsconfig.parse path listText := by
  have strict : JsonDocument.ofText? listText = some (.array [.string ['/', '/']]) := rfl
  obtain ⟨plain, decorated, -⟩ := toPlain_preserves listText _ strict
  obtain ⟨-, document, value, config⟩ := decorated _ relaxedListText decorates_listText
  exact ⟨strict, plain, document, value, config⟩

end ModuleHooks.Relaxed
