import Mathlib.Data.List.Chain
import ModuleHooks.Proofs.Json.Lexeme

/-!
Commas in the tokens of a JSON text. What is read as a value, or as the items or members of one, neither
starts with a closing bracket or brace nor ends in a comma. So a comma never stands right before a closing
one.
-/
namespace ModuleHooks.JsonDocument

open JsonToken

/-- The token may stand before the other: a comma never closes anything. -/
def Precedes (a b : JsonToken) : Prop := a = .comma → b.closes = false

/-- Tokens without a comma at their end or before a closing one, which they do not start with. -/
structure IsPhrase (tokens : List JsonToken) : Prop where
  start : ∃ first, tokens.head? = some first ∧ first.closes = false
  finish : ∀ last, tokens.getLast? = some last → last ≠ .comma
  chain : tokens.IsChain Precedes

namespace IsPhrase

variable {tokens more : List JsonToken} {a : JsonToken}

theorem singleton (opens : a.closes = false) (other : a ≠ .comma) : IsPhrase [a] where
  start := ⟨a, rfl, opens⟩
  finish last same := by
    obtain rfl := Option.some.inj same
    exact other
  chain := .singleton a

/-- What goes on behind a phrase may start with anything. -/
theorem append (phrase : IsPhrase tokens) (chain : more.IsChain Precedes)
    (finish : ∀ last, more.getLast? = some last → last ≠ .comma) : IsPhrase (tokens ++ more) where
  start := by
    obtain ⟨first, head, opens⟩ := phrase.start
    exact ⟨first, by simp [List.head?_append, head], opens⟩
  finish last same := by
    rw [List.getLast?_append] at same
    cases behind : more.getLast? with
    | some other =>
      obtain rfl : other = last := by simpa [behind] using same
      exact finish other behind
    | none => exact phrase.finish last (by simpa [behind] using same)
  chain := by
    refine List.isChain_append.2 ⟨phrase.chain, chain, fun last same first _ comma => ?_⟩
    exact absurd comma (phrase.finish last same)

theorem cons (phrase : IsPhrase tokens) (opens : a.closes = false) (other : a ≠ .comma) :
    IsPhrase (a :: tokens) :=
  (singleton opens other).append phrase.chain phrase.finish

theorem concat (phrase : IsPhrase tokens) (other : a ≠ .comma) : IsPhrase (tokens ++ [a]) :=
  phrase.append (.singleton a) fun last same => by
    obtain rfl := Option.some.inj same
    exact other

/-- Two phrases with a comma between them. -/
theorem comma (phrase : IsPhrase tokens) (further : IsPhrase more) :
    IsPhrase (tokens ++ .comma :: more) := by
  obtain ⟨first, head, opens⟩ := further.start
  obtain ⟨rest, rfl⟩ := List.head?_eq_some_iff.1 head
  refine phrase.append (List.isChain_cons_cons.2 ⟨fun _ => opens, further.chain⟩) fun last same => ?_
  exact further.finish last (by simpa using same)

end IsPhrase

/-- Whatever is read is read from a phrase, and items and members from one in front of the closing
bracket or brace. -/
theorem phrases (fuel : Nat) :
    (∀ tokens d rest, read fuel tokens = some (d, rest) → ∃ used, tokens = used ++ rest ∧ IsPhrase used) ∧
    (∀ tokens d rest, readItems fuel tokens = some (d, rest) →
      ∃ used, tokens = used ++ .closeBracket :: rest ∧ IsPhrase used) ∧
    ∀ tokens d rest, readMembers fuel tokens = some (d, rest) →
      ∃ used, tokens = used ++ .closeBrace :: rest ∧ IsPhrase used := by
  induction fuel with
  | zero => exact ⟨nofun, nofun, nofun⟩
  | succ fuel ih =>
    obtain ⟨values, items, members⟩ := ih
    refine ⟨?_, ?_, ?_⟩
    · intro tokens d rest found
      unfold read at found
      split at found
      case h_1 | h_2 | h_3 | h_4 =>
        cases found
        exact ⟨[_], rfl, .singleton rfl (by simp)⟩
      case h_5 =>
        cases found
        exact ⟨[.openBracket, .closeBracket], rfl, .concat (.singleton rfl (by simp)) (by simp)⟩
      case h_6 tokens _ =>
        obtain ⟨⟨inner, r⟩, found, same⟩ := Option.map_eq_some_iff.1 found
        cases same
        obtain ⟨used, rfl, phrase⟩ := items _ _ _ found
        have closed := phrase.concat (a := .closeBracket) (by simp)
        exact ⟨.openBracket :: (used ++ [.closeBracket]), by simp, closed.cons rfl (by simp)⟩
      case h_7 =>
        cases found
        exact ⟨[.openBrace, .closeBrace], rfl, .concat (.singleton rfl (by simp)) (by simp)⟩
      case h_8 tokens _ =>
        obtain ⟨⟨inner, r⟩, found, same⟩ := Option.map_eq_some_iff.1 found
        cases same
        obtain ⟨used, rfl, phrase⟩ := members _ _ _ found
        have closed := phrase.concat (a := .closeBrace) (by simp)
        exact ⟨.openBrace :: (used ++ [.closeBrace]), by simp, closed.cons rfl (by simp)⟩
      case h_9 => exact nomatch found
    · intro tokens d rest found
      unfold readItems at found
      split at found
      case h_1 item tokens' first =>
        obtain ⟨⟨others, r⟩, found, same⟩ := Option.map_eq_some_iff.1 found
        cases same
        obtain ⟨used, rfl, phrase⟩ := values _ _ _ first
        obtain ⟨further, rfl, phraseToo⟩ := items _ _ _ found
        exact ⟨used ++ .comma :: further, by simp, phrase.comma phraseToo⟩
      case h_2 item tokens' first =>
        cases found
        obtain ⟨used, rfl, phrase⟩ := values _ _ _ first
        exact ⟨used, rfl, phrase⟩
      case h_3 => exact nomatch found
    · intro tokens d rest found
      unfold readMembers at found
      split at found
      case h_1 name tokens' =>
        have member {used : List JsonToken} (phrase : IsPhrase used) :
            IsPhrase (.string name :: .colon :: used) :=
          (phrase.cons rfl (by simp)).cons rfl (by simp)
        split at found
        case h_1 value rest' first =>
          obtain ⟨⟨others, r⟩, found, same⟩ := Option.map_eq_some_iff.1 found
          cases same
          obtain ⟨used, rfl, phrase⟩ := values _ _ _ first
          obtain ⟨further, rfl, phraseToo⟩ := members _ _ _ found
          exact ⟨.string name :: .colon :: used ++ .comma :: further, by simp, (member phrase).comma phraseToo⟩
        case h_2 value rest' first =>
          cases found
          obtain ⟨used, rfl, phrase⟩ := values _ _ _ first
          exact ⟨.string name :: .colon :: used, rfl, member phrase⟩
        case h_3 => exact nomatch found
      case h_2 => exact nomatch found

/-- In the tokens of a document, a comma never stands right before a closing token. -/
theorem chain_of_ofTokens? {tokens : List JsonToken} {d : JsonDocument} (found : ofTokens? tokens = some d) :
    tokens.IsChain Precedes := by
  unfold ofTokens? at found
  split at found
  case h_1 document whole =>
    obtain ⟨used, rfl, phrase⟩ := (phrases _).1 _ _ _ whole
    simpa using phrase.chain
  case h_2 => exact nomatch found

end ModuleHooks.JsonDocument
