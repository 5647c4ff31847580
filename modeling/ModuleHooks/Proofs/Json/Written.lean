import ModuleHooks.Proofs.Json.Number
import ModuleHooks.Proofs.Json.Plain

/-!
JSON texts as they are written. The text of a value spells a document that has the members of the value in
their order, with the names and the texts in it escaped (`ofText?_write`), and what is escaped stands for what
it was before (`unescape?_escaped`).
-/
namespace ModuleHooks

open JsonToken

/-! ## Documents from their tokens -/

namespace JsonDocument

mutual

/-- The tokens of a document. -/
def tokens : JsonDocument → List JsonToken
  | .null => [.null]
  | .bool b => [.bool b]
  | .number n => [.number n]
  | .string body => [.string body]
  | .array items => .openBracket :: (itemTokens items ++ [.closeBracket])
  | .object members => .openBrace :: (memberTokens members ++ [.closeBrace])

/-- The tokens of items with commas between. -/
def itemTokens : List JsonDocument → List JsonToken
  | [] => []
  | [item] => tokens item
  | item :: items => tokens item ++ .comma :: itemTokens items

/-- The tokens of members with commas between. -/
def memberTokens : List (Text × JsonDocument) → List JsonToken
  | [] => []
  | [(name, value)] => .string name :: .colon :: tokens value
  | (name, value) :: members => .string name :: .colon :: (tokens value ++ .comma :: memberTokens members)

end

/-- No document starts as an array or an object ends. -/
theorem exists_tokens (d : JsonDocument) : ∃ first rest, d.tokens = first :: rest ∧ first.closes = false := by
  cases d <;> exact ⟨_, _, by rw [tokens], rfl⟩

theorem itemTokens_cons (item other : JsonDocument) (items : List JsonDocument) :
    itemTokens (item :: other :: items) = item.tokens ++ .comma :: itemTokens (other :: items) := by
  rw [itemTokens]
  simp

theorem memberTokens_cons (name : Text) (value : JsonDocument) (other : Text × JsonDocument)
    (members : List (Text × JsonDocument)) :
    memberTokens ((name, value) :: other :: members) =
      .string name :: .colon :: (value.tokens ++ .comma :: memberTokens (other :: members)) := by
  rw [memberTokens]
  simp

theorem exists_itemTokens (item : JsonDocument) (items : List JsonDocument) :
    ∃ first rest, itemTokens (item :: items) = first :: rest ∧ first.closes = false := by
  obtain ⟨first, rest, same, opens⟩ := item.exists_tokens
  cases items with
  | nil => exact ⟨first, rest, by rw [itemTokens, same], opens⟩
  | cons other items => exact ⟨first, _, by rw [itemTokens_cons, same, List.cons_append], opens⟩

theorem exists_memberTokens (name : Text) (value : JsonDocument) (members : List (Text × JsonDocument)) :
    ∃ rest, memberTokens ((name, value) :: members) = .string name :: .colon :: rest := by
  cases members with
  | nil => exact ⟨_, by rw [memberTokens]⟩
  | cons other members => exact ⟨_, memberTokens_cons name value other members⟩

theorem read_openBracket (fuel : Nat) {first : JsonToken} (other : first ≠ .closeBracket)
    (rest : List JsonToken) :
    read (fuel + 1) (.openBracket :: first :: rest) =
      (readItems fuel (first :: rest)).map fun found => (.array found.1, found.2) := by
  rw [read]
  all_goals simp [other]

theorem read_openBrace (fuel : Nat) {first : JsonToken} (other : first ≠ .closeBrace)
    (rest : List JsonToken) :
    read (fuel + 1) (.openBrace :: first :: rest) =
      (readMembers fuel (first :: rest)).map fun found => (.object found.1, found.2) := by
  rw [read]
  all_goals simp [other]

/-- Whatever is read from tokens in front of others: the documents, and with their closing bracket or brace the
items and the members. -/
theorem reads (fuel : Nat) :
    (∀ d rest, 2 * d.tokens.length ≤ fuel → read fuel (d.tokens ++ rest) = some (d, rest)) ∧
    (∀ item items rest, 2 * (itemTokens (item :: items)).length < fuel →
      readItems fuel (itemTokens (item :: items) ++ .closeBracket :: rest) = some (item :: items, rest)) ∧
    ∀ member members rest, 2 * (memberTokens (member :: members)).length < fuel →
      readMembers fuel (memberTokens (member :: members) ++ .closeBrace :: rest) =
        some (member :: members, rest) := by
  induction fuel with
  | zero =>
    refine ⟨fun d rest enough => ?_, nofun, nofun⟩
    obtain ⟨first, more, same, -⟩ := d.exists_tokens
    simp [same] at enough
  | succ fuel ih =>
    obtain ⟨values, items, members⟩ := ih
    refine ⟨fun d rest enough => ?_, fun item others rest enough => ?_, fun member others rest enough => ?_⟩
    · match d with
      | .null | .bool _ | .number _ | .string _ => simp [tokens, read]
      | .array [] => simp [tokens, itemTokens, read]
      | .object [] => simp [tokens, memberTokens, read]
      | .array (item :: others) =>
        rw [tokens] at enough ⊢
        simp only [List.length_cons, List.length_append, List.length_nil] at enough
        have inner := items item others rest (by omega)
        obtain ⟨first, more, same, opens⟩ := exists_itemTokens item others
        have other : first ≠ .closeBracket := fun closing => by simp [closing, closes] at opens
        rw [same] at inner ⊢
        simp only [List.cons_append, List.append_assoc, List.nil_append] at inner ⊢
        rw [read_openBracket fuel other, inner]
        rfl
      | .object ((name, value) :: others) =>
        rw [tokens] at enough ⊢
        simp only [List.length_cons, List.length_append, List.length_nil] at enough
        have inner := members (name, value) others rest (by omega)
        obtain ⟨more, same⟩ := exists_memberTokens name value others
        rw [same] at inner ⊢
        simp only [List.cons_append, List.append_assoc, List.nil_append] at inner ⊢
        have other : JsonToken.string name ≠ .closeBrace := nofun
        rw [read_openBrace fuel other, inner]
        rfl
    · match others with
      | [] =>
        rw [itemTokens] at enough ⊢
        rw [readItems, values item _ (by omega)]
      | other :: others =>
        rw [itemTokens_cons, List.length_append, List.length_cons] at enough
        rw [itemTokens_cons, List.append_assoc, List.cons_append, readItems, values item _ (by omega)]
        dsimp only
        rw [items other others rest (by omega)]
        rfl
    · obtain ⟨name, value⟩ := member
      match others with
      | [] =>
        rw [memberTokens] at enough ⊢
        simp only [List.length_cons] at enough
        rw [List.cons_append, List.cons_append, readMembers, values value _ (by omega)]
      | other :: others =>
        rw [memberTokens_cons] at enough ⊢
        simp only [List.length_cons, List.length_append] at enough
        rw [List.cons_append, List.cons_append, List.append_assoc, List.cons_append, readMembers,
          values value _ (by omega)]
        dsimp only
        rw [members other others rest (by omega)]
        rfl

/-- Every document is read from its tokens. -/
theorem ofTokens?_tokens (d : JsonDocument) : ofTokens? d.tokens = some d := by
  have read := (reads (2 * d.tokens.length + 1)).1 d [] (by omega)
  rw [List.append_nil] at read
  unfold ofTokens?
  rw [read]

end JsonDocument

/-! ## Texts -/

namespace Json

/-- A text with the characters escaped that cannot stand in a string. -/
def escaped (s : Text) : Text := s.flatMap escape

theorem escaped_cons (c : Char) (s : Text) : escaped (c :: s) = escape c ++ escaped s := List.flatMap_cons

/-- The ways a character is written in a string: as it is, by a letter, or by its number. -/
theorem escape_cases (c : Char) :
    IsPlain c ∧ escape c = [c] ∨
      (∃ e, simpleEscapes.contains e = true ∧ simpleEscape e = c ∧ escape c = ['\\', e]) ∨
      ∃ x y, isHexDigit x = true ∧ isHexDigit y = true ∧ hexUnit '0' '0' x y = c.toNat ∧ c.toNat < 0x20 ∧
        escape c = ['\\', 'u', '0', '0', x, y] := by
  by_cases plain : IsPlain c
  · exact .inl ⟨plain, escape_plain plain⟩
  refine .inr ?_
  unfold escape
  split
  case h_1 => exact .inl ⟨'"', rfl, rfl, rfl⟩
  case h_2 => exact .inl ⟨'\\', rfl, rfl, rfl⟩
  case h_3 => exact .inl ⟨'b', rfl, rfl, rfl⟩
  case h_4 => exact .inl ⟨'f', rfl, rfl, rfl⟩
  case h_5 => exact .inl ⟨'n', rfl, rfl, rfl⟩
  case h_6 => exact .inl ⟨'r', rfl, rfl, rfl⟩
  case h_7 => exact .inl ⟨'t', rfl, rfl, rfl⟩
  case h_8 quote backslash _ _ _ _ _ =>
    have control : c.toNat < 0x20 := by
      by_contra printed
      exact plain ⟨quote, backslash, by omega⟩
    have digits : ∀ n < 0x20, isHexDigit (hexDigit (n / 16)) = true ∧ isHexDigit (hexDigit (n % 16)) = true ∧
        hexUnit '0' '0' (hexDigit (n / 16)) (hexDigit (n % 16)) = n := by decide
    obtain ⟨high, low, value⟩ := digits c.toNat control
    exact .inr ⟨_, _, high, low, value, control, if_pos control⟩

theorem stringBody_escape (c : Char) (rest : Text) :
    stringBody (escape c ++ rest) = (stringBody rest).map fun found => (escape c ++ found.1, found.2) := by
  obtain ⟨plain, same⟩ | ⟨e, simple, -, same⟩ | ⟨x, y, high, low, -, -, same⟩ := escape_cases c
  · rw [same]
    exact stringBody_cons plain rest
  · have other : e ≠ 'u' := by
      rintro rfl
      exact absurd simple (by decide)
    have member : e ∈ simpleEscapes := by simpa using simple
    simp [same, stringBody, other, member]
  · have zero : isHexDigit '0' = true := by decide
    simp [same, stringBody, zero, high, low]

theorem unescape?_escape (c : Char) (rest : Text) :
    unescape? (escape c ++ rest) = (unescape? rest).map (c :: ·) := by
  obtain ⟨plain, same⟩ | ⟨e, simple, means, same⟩ | ⟨x, y, -, -, value, control, same⟩ := escape_cases c
  · rw [same]
    exact unescape?_cons plain.2.1 rest
  · have other : e ≠ 'u' := by
      rintro rfl
      exact absurd simple (by decide)
    simp [same, unescape?, other, means]
  · have low : ¬(0xDC00 ≤ c.toNat ∧ c.toNat < 0xE000) ∧ ¬(0xD800 ≤ c.toNat ∧ c.toNat < 0xDC00) := by omega
    rw [same, unescape?.eq_def]
    simp only [List.cons_append, List.nil_append, value, if_neg low.1, if_neg low.2, Char.ofNat_toNat]

theorem stringBody_escaped (s rest : Text) : stringBody (escaped s ++ '"' :: rest) = some (escaped s, rest) := by
  induction s with
  | nil => rfl
  | cons c s ih =>
    rw [escaped_cons, List.append_assoc, stringBody_escape, ih]
    rfl

/-- What is escaped stands for what it was. -/
theorem unescape?_escaped (s : Text) : unescape? (escaped s) = some s := by
  induction s with
  | nil => rfl
  | cons c s ih =>
    rw [escaped_cons, unescape?_escape, ih]
    rfl

/-- A quoted text is a token, whatever tokens follow. -/
theorem spells_quote (s : Text) {r : Text} {more : List JsonToken} (rest : Spells more r) :
    Spells (.string (escaped s) :: more) (quote s ++ r) := by
  refine .token ?_ rest
  show JsonToken.next ('"' :: (escaped s ++ ['"'] ++ r)) = _
  rw [List.append_assoc]
  show (stringBody _).map _ = _
  rw [List.singleton_append, stringBody_escaped]
  rfl

/-! ## Values -/

/-- The number that a text starts with which is written for a number. -/
def literal (n : JsonNumber) : NumberLiteral :=
  match numberLiteral (writeNumber n) with
  | some (literal, _) => literal
  | none => ⟨false, [], [], false, [], true⟩

theorem numberLiteral_writeNumber (n : JsonNumber) {r : Text} (stops : Stops r) :
    numberLiteral (writeNumber n ++ r) = some (literal n, r) := by
  obtain ⟨found, reads⟩ := exists_numberLiteral n
  have alone := reads [] .nil
  rw [List.append_nil] at alone
  have same : literal n = found := by
    unfold literal
    rw [alone]
  rw [same, reads r stops]

theorem spells_writeNumber (n : JsonNumber) {r : Text} {more : List JsonToken} (stops : Stops r)
    (rest : Spells more r) : Spells (.number (literal n) :: more) (writeNumber n ++ r) := by
  obtain ⟨w, whole, -, reads⟩ := next_of_number (numberLiteral_writeNumber n stops)
  obtain rfl := List.append_cancel_right whole
  exact .token (reads r (.inl rfl)) rest

mutual

/-- What the text of a value spells. -/
def document : Json → JsonDocument
  | .null => .null
  | .bool b => .bool b
  | .number n => .number (literal n)
  | .string s => .string (escaped s)
  | .array items => .array (documents items)
  | .object members => .object (memberDocuments members)

/-- What the texts of items spell. -/
def documents : List Json → List JsonDocument
  | [] => []
  | item :: items => document item :: documents items

/-- What the texts of members spell. -/
def memberDocuments : List (Text × Json) → List (Text × JsonDocument)
  | [] => []
  | (name, value) :: members => (escaped name, document value) :: memberDocuments members

end

theorem memberDocuments_eq_map (members : List (Text × Json)) :
    memberDocuments members = members.map fun member => (escaped member.1, document member.2) := by
  induction members with
  | nil => rw [memberDocuments, List.map_nil]
  | cons member members ih => rw [memberDocuments, ih, List.map_cons]

theorem spells_word {word : Text} {token : JsonToken} (known : (word, token) ∈ words) {r : Text}
    {more : List JsonToken} (rest : Spells more r) : Spells (token :: more) (word ++ r) := by
  refine .token ?_ rest
  simp only [words, List.mem_cons, List.not_mem_nil, or_false, Prod.mk.injEq] at known
  obtain ⟨rfl, rfl⟩ | ⟨rfl, rfl⟩ | ⟨rfl, rfl⟩ := known <;> rfl

/-- A character that is a token by itself, whatever tokens follow. -/
theorem spells_mark (mark : Char) (token : JsonToken)
    (alone : ∀ r, JsonToken.next (mark :: r) = some (token, r)) {r : Text} {more : List JsonToken}
    (rest : Spells more r) : Spells (token :: more) (mark :: r) :=
  Spells.token (w := [mark]) (alone r) rest

mutual

/-- The text of a value spells its document, wherever a number could not go on behind it. -/
theorem spells_write (v : Json) {r : Text} {more : List JsonToken} (stops : Stops r) (rest : Spells more r) :
    Spells ((document v).tokens ++ more) (write v ++ r) := by
  match v with
  | .null =>
    rw [document, JsonDocument.tokens, write]
    exact spells_word (by decide) rest
  | .bool b =>
    rw [document, JsonDocument.tokens, write]
    cases b <;> exact spells_word (by decide) rest
  | .number n =>
    rw [document, JsonDocument.tokens, write]
    exact spells_writeNumber n stops rest
  | .string s =>
    rw [document, JsonDocument.tokens, write]
    exact spells_quote s rest
  | .array items =>
    have close : Spells (.closeBracket :: more) (']' :: r) := spells_mark _ _ (fun _ => rfl) rest
    have inner := spells_writeItems items (.cons (by decide) r) close
    have opened := spells_mark '[' .openBracket (fun _ => rfl) inner
    rw [document, JsonDocument.tokens, write]
    simpa using opened
  | .object members =>
    have close : Spells (.closeBrace :: more) ('\x7d' :: r) := spells_mark _ _ (fun _ => rfl) rest
    have inner := spells_writeMembers members (.cons (by decide) r) close
    have opened := spells_mark '\x7b' .openBrace (fun _ => rfl) inner
    rw [document, JsonDocument.tokens, write]
    simpa using opened

theorem spells_writeItems (items : List Json) {r : Text} {more : List JsonToken} (stops : Stops r)
    (rest : Spells more r) :
    Spells (JsonDocument.itemTokens (documents items) ++ more) (writeItems items ++ r) := by
  match items with
  | [] => simpa [documents, JsonDocument.itemTokens, writeItems] using rest
  | [item] =>
    have only := spells_write item stops rest
    simpa [documents, JsonDocument.itemTokens, writeItems] using only
  | item :: other :: items =>
    have others := spells_writeItems (other :: items) stops rest
    have comma := spells_mark ',' .comma (fun _ => rfl) others
    have first := spells_write item (.cons (by decide) _) comma
    rw [documents] at first
    rw [documents, documents, JsonDocument.itemTokens_cons, writeItems]
    · simpa using first
    · simp

theorem spells_writeMembers (members : List (Text × Json)) {r : Text} {more : List JsonToken}
    (stops : Stops r) (rest : Spells more r) :
    Spells (JsonDocument.memberTokens (memberDocuments members) ++ more) (writeMembers members ++ r) := by
  match members with
  | [] => simpa [memberDocuments, JsonDocument.memberTokens, writeMembers] using rest
  | [(name, value)] =>
    have only := spells_write value stops rest
    have colon := spells_mark ':' .colon (fun _ => rfl) only
    have named := spells_quote name colon
    simpa [memberDocuments, JsonDocument.memberTokens, writeMembers] using named
  | (name, value) :: (next, other) :: members =>
    have others := spells_writeMembers ((next, other) :: members) stops rest
    have comma := spells_mark ',' .comma (fun _ => rfl) others
    have first := spells_write value (.cons (by decide) _) comma
    have colon := spells_mark ':' .colon (fun _ => rfl) first
    have named := spells_quote name colon
    rw [memberDocuments] at named
    rw [memberDocuments, memberDocuments, JsonDocument.memberTokens_cons, writeMembers]
    · simpa using named
    · simp

end

/-- The text of a value spells its document. -/
theorem ofText?_write (v : Json) : JsonDocument.ofText? (write v) = some (document v) := by
  have spells := spells_write v .nil .nil
  rw [List.append_nil, List.append_nil] at spells
  unfold JsonDocument.ofText?
  rw [ofText?_eq_some.2 spells]
  exact JsonDocument.ofTokens?_tokens _

end Json
end ModuleHooks
