import ModuleHooks.Glob.Pattern

/-!
Patterns that begin with a text without wildcards. Such a text is read as itself, character by character,
so a pattern of nothing else matches that text only (`matchText_literal`), and with a double star and a
star behind a slash it matches whatever goes on behind that slash (`matchText_below`).
-/
namespace ModuleHooks.Glob

/-- The characters that begin something else than themselves. -/
def wildcards : List Char := ['?', '*', '[']

/-- A pattern reads the text as itself. -/
def IsLiteral (s : Text) : Prop := ∀ c ∈ s, c ∉ wildcards

instance (s : Text) : Decidable (IsLiteral s) := List.decidableBAll (· ∉ wildcards) s

section

variable {s : Text}

theorem isLiteral_append {t : Text} : IsLiteral (s ++ t) ↔ IsLiteral s ∧ IsLiteral t :=
  List.forall_mem_append

/-! ## Reading -/

/-- A text without wildcards is put onto the tokens before it, and reading goes on behind it. -/
theorem readTokens_literal (literal : IsLiteral s) (fuel : Nat) (before : Option Char)
    (tokens : List GlobToken) (rest : Text) :
    readTokens (s.length + fuel) before tokens (s ++ rest) =
      readTokens fuel (s.getLast?.or before) ((s.map .char).reverse ++ tokens) rest := by
  induction s generalizing before tokens with
  | nil => simp
  | cons c s ih =>
    obtain ⟨here, others⟩ := List.forall_mem_cons.1 literal
    have plain : c ≠ '?' ∧ c ≠ '[' ∧ c ≠ '*' := by
      simp only [wildcards, List.mem_cons, List.not_mem_nil, or_false, not_or] at here
      exact ⟨here.1, here.2.2, here.2.1⟩
    have step : readTokens (s.length + fuel + 1) before tokens (c :: (s ++ rest)) =
        readTokens (s.length + fuel) (some c) (.char c :: tokens) (s ++ rest) :=
      (if_neg plain.1).trans ((if_neg plain.2.1).trans (if_neg plain.2.2))
    rw [List.cons_append, List.length_cons, Nat.add_right_comm, step, ih others]
    congr 1
    · cases s <;> simp [List.getLast?_cons]
    · simp

theorem parse?_literal (literal : IsLiteral s) : parse? s = some (s.map .char) := by
  have read := readTokens_literal literal 1 none [] []
  rw [List.append_nil] at read
  rw [parse?, read, readTokens, List.append_nil, List.reverse_reverse]

/-- The pattern for everything below a text that is read as itself. -/
theorem parse?_below (literal : IsLiteral s) :
    parse? (s ++ "/**/*".toList) = some (s.map .char ++ [.char '/', .anyDirectories, .anySequence]) := by
  have slashed : IsLiteral (s ++ ['/']) := isLiteral_append.2 ⟨literal, by simp [IsLiteral, wildcards]⟩
  have read := readTokens_literal slashed 5 none [] "**/*".toList
  have whole : s ++ "/**/*".toList = (s ++ ['/']) ++ "**/*".toList := by simp
  have length : (s ++ "/**/*".toList).length + 1 = (s ++ ['/']).length + 5 := by simp
  rw [parse?, length, whole, read]
  simp [readTokens, opensComponent, afterDirectories?, addDirectories]

/-! ## Matching -/

/-- Characters match themselves, and what follows is matched by the tokens behind them. -/
theorem matchTokens_literal (s : Text) (tokens : List GlobToken) (t : Text) :
    matchTokens (s.map .char ++ tokens) t = true ↔
      ∃ rest, t = s ++ rest ∧ matchTokens tokens rest = true := by
  induction s generalizing t with
  | nil => simp
  | cons c s ih =>
    cases t with
    | nil => simp [matchTokens]
    | cons d t =>
      simp only [List.map_cons, List.cons_append, matchTokens, accepts, Bool.and_eq_true, beq_iff_eq,
        List.cons.injEq, ih]
      constructor
      · rintro ⟨rfl, rest, rfl, further⟩
        exact ⟨rest, ⟨rfl, rfl⟩, further⟩
      · rintro ⟨rest, ⟨rfl, rfl⟩, further⟩
        exact ⟨rfl, rest, rfl, further⟩

/-- A double star reaches the end of every text. -/
theorem someAfterSlash_of_nil {p : Text → Bool} (holds : p [] = true) (t : Text) :
    someAfterSlash p t = true := by
  induction t with
  | nil => exact holds
  | cons c t ih => simp [someAfterSlash, ih]

theorem matchTokens_everything (t : Text) : matchTokens [.anyDirectories, .anySequence] t = true := by
  have nothing : matchTokens [.anySequence] [] = true := rfl
  rw [matchTokens, someAfterSlash_of_nil nothing t, Bool.or_true]

/-- A pattern without wildcards matches its own text. -/
theorem matchText_literal (literal : IsLiteral s) (t : Text) : matchText s t = true ↔ t = s := by
  have matched := matchTokens_literal s [] t
  rw [List.append_nil] at matched
  simp only [matchText, parse?_literal literal, covers_eq, matched]
  simp [matchTokens]

/-- With a double star and a star behind a slash it matches all that goes on behind that slash. -/
theorem matchText_below (literal : IsLiteral s) (t : Text) :
    matchText (s ++ "/**/*".toList) t = true ↔ ∃ rest, t = s ++ '/' :: rest := by
  have slashed : s.map GlobToken.char ++ [.char '/', .anyDirectories, .anySequence] =
      (s ++ ['/']).map .char ++ [.anyDirectories, .anySequence] := by simp
  simp only [matchText, parse?_below literal, covers_eq, slashed, matchTokens_literal]
  simp [matchTokens_everything]

end

end ModuleHooks.Glob
