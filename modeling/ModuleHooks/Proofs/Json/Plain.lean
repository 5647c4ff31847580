import ModuleHooks.Json.Writer
import ModuleHooks.Proofs.Json.Lexeme

/-!
Texts of plain characters. Such a text is written between quotes as it is, and read back as it is.
-/
namespace ModuleHooks.Json

/-- A character that stands for itself in a string. -/
def IsPlain (c : Char) : Prop := c ≠ '"' ∧ c ≠ '\\' ∧ 0x20 ≤ c.toNat

theorem stringBody_cons {c : Char} (plain : IsPlain c) (rest : Text) :
    JsonToken.stringBody (c :: rest) =
      (JsonToken.stringBody rest).map fun found => (c :: found.1, found.2) := by
  obtain ⟨unquoted, backslash, printed⟩ := plain
  have solid : ¬(c = '\\' ∨ c.toNat < 0x20) := not_or.2 ⟨backslash, Nat.not_lt.2 printed⟩
  rw [JsonToken.stringBody]
  · rw [if_neg solid]
  all_goals simp [unquoted, backslash]

theorem unescape?_cons {c : Char} (backslash : c ≠ '\\') (rest : Text) :
    unescape? (c :: rest) = (unescape? rest).map (c :: ·) := by
  rw [unescape?]
  all_goals simp [backslash]

theorem stringBody_plain {s : Text} (plain : ∀ c ∈ s, IsPlain c) (rest : Text) :
    JsonToken.stringBody (s ++ '"' :: rest) = some (s, rest) := by
  induction s with
  | nil => rfl
  | cons c s ih =>
    obtain ⟨first, others⟩ := List.forall_mem_cons.1 plain
    rw [List.cons_append, stringBody_cons first, ih others]
    rfl

/-- A plain text between quotes is a token, whatever tokens follow. -/
theorem spells_plain {s t : Text} {tokens : List JsonToken} (plain : ∀ c ∈ s, IsPlain c)
    (rest : JsonToken.Spells tokens t) :
    JsonToken.Spells (.string s :: tokens) ('"' :: (s ++ '"' :: t)) := by
  have read : JsonToken.next ('"' :: (s ++ '"' :: t)) = some (.string s, t) := by
    show (JsonToken.stringBody _).map _ = _
    rw [stringBody_plain plain]
    rfl
  have pieces : '"' :: (s ++ '"' :: t) = '"' :: (s ++ ['"']) ++ t := by simp
  rw [pieces] at read ⊢
  exact .token read rest

theorem unescape?_plain {s : Text} (plain : ∀ c ∈ s, IsPlain c) : unescape? s = some s := by
  induction s with
  | nil => rfl
  | cons c s ih =>
    obtain ⟨first, others⟩ := List.forall_mem_cons.1 plain
    rw [unescape?_cons first.2.1, ih others]
    rfl

theorem escape_plain {c : Char} (plain : IsPlain c) : escape c = [c] := by
  obtain ⟨unquoted, backslash, printed⟩ := plain
  have apart {d : Char} (control : d.toNat < 0x20) : c ≠ d := by
    rintro rfl
    exact Nat.not_lt.2 printed control
  unfold escape
  split
  case h_8 => exact if_neg (Nat.not_lt.2 printed)
  case h_1 => exact absurd rfl unquoted
  case h_2 => exact absurd rfl backslash
  all_goals exact absurd rfl (apart (by decide))

theorem quote_plain {s : Text} (plain : ∀ c ∈ s, IsPlain c) : quote s = '"' :: (s ++ ['"']) := by
  have same : s.flatMap escape = s := by
    induction s with
    | nil => rfl
    | cons c s ih =>
      obtain ⟨first, others⟩ := List.forall_mem_cons.1 plain
      rw [List.flatMap_cons, escape_plain first, ih others]
      rfl
  rw [quote, same]

end ModuleHooks.Json
