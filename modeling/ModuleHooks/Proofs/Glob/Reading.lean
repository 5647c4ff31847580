import ModuleHooks.Proofs.Glob.Literal
import ModuleHooks.Proofs.Pieces

/-!
How a pattern is read, one rule for each way a token can begin (`Reads`). From these rules follow the facts
about the pieces of a pattern between slashes: a piece whose tokens are characters is the text of those
(`eq_of_literal?`), a piece with a double star is nothing else (`eq_anyNames`), and where every piece is a
pattern the whole is one (`exists_reads_joinWith`).
-/
namespace ModuleHooks.Glob

/-- What reading from a place makes of a text: the character in front of it, the tokens before it, last first,
the text, and the tokens of the whole. -/
inductive Reads : Option Char → List GlobToken → Text → List GlobToken → Prop
  | done {before : Option Char} {tokens : List GlobToken} : Reads before tokens [] tokens.reverse
  | anyChar {before : Option Char} {tokens result : List GlobToken} {rest : Text}
      (further : Reads (some '?') (.anyChar :: tokens) rest result) : Reads before tokens ('?' :: rest) result
  | bracket {before : Option Char} {tokens result : List GlobToken} {token : GlobToken} {rest behind : Text}
      (closed : bracket? rest = some (token, behind))
      (further : Reads (some ']') (token :: tokens) behind result) : Reads before tokens ('[' :: rest) result
  | star {before : Option Char} {tokens result : List GlobToken} {rest : Text} (single : rest.head? ≠ some '*')
      (further : Reads (some '*') (.anySequence :: tokens) rest result) : Reads before tokens ('*' :: rest) result
  | stars {before : Option Char} {tokens result : List GlobToken} {rest behind : Text}
      (opens : opensComponent before = true) (fills : afterDirectories? rest = some behind)
      (further : Reads (some '/') (addDirectories tokens) behind result) :
      Reads before tokens ('*' :: '*' :: rest) result
  | plain {before : Option Char} {tokens result : List GlobToken} {c : Char} {rest : Text}
      (literal : c ∉ wildcards) (further : Reads (some c) (.char c :: tokens) rest result) :
      Reads before tokens (c :: rest) result

variable {before : Option Char} {tokens result : List GlobToken} {s t rest behind : Text}

/-- A bracket is a token for one character. It ends inside the text, so it is the same where the text goes on. -/
theorem bracket?_eq_some {token : GlobToken} (closed : bracket? s = some (token, behind)) :
    (∃ sets, token = .oneOf sets ∨ token = .noneOf sets) ∧ (∃ inside, s = inside ++ ']' :: behind) ∧
      ∀ t, bracket? (s ++ t) = some (token, behind ++ t) := by
  have longer {rest body : Text} (cut : Text.cutAt? ']' rest = some (body, behind)) (t : Text) :
      Text.cutAt? ']' (rest ++ t) = some (body, behind ++ t) := by
    obtain ⟨rfl, unmarked⟩ := Text.cutAt?_eq_some cut
    rw [List.append_assoc]
    exact Text.cutAt?_append_mark unmarked (behind ++ t)
  unfold bracket? at closed
  split at closed
  case h_1 c rest =>
    obtain ⟨⟨body, after⟩, cut, same⟩ := Option.map_eq_some_iff.1 closed
    obtain ⟨rfl, rfl⟩ := Prod.mk.inj same
    refine ⟨⟨_, .inr rfl⟩, ⟨'!' :: c :: body, ?_⟩, fun t => ?_⟩
    · rw [(Text.cutAt?_eq_some cut).1]
      rfl
    · exact congrArg (Option.map _) (longer cut t)
  case h_2 => exact nomatch closed
  case h_3 c rest long short =>
    have other : c ≠ '!' := by
      rintro rfl
      cases rest with
      | nil => exact short rfl rfl
      | cons d rest => exact long d rest rfl rfl
    obtain ⟨⟨body, after⟩, cut, same⟩ := Option.map_eq_some_iff.1 closed
    obtain ⟨rfl, rfl⟩ := Prod.mk.inj same
    refine ⟨⟨_, .inl rfl⟩, ⟨c :: body, ?_⟩, fun t => ?_⟩
    · rw [(Text.cutAt?_eq_some cut).1]
      rfl
    · rw [List.cons_append, bracket?]
      · exact congrArg (Option.map _) (longer cut t)
      · exact fun _ _ same => absurd same other
      · exact fun same => absurd same other
  case h_4 => exact nomatch closed

theorem length_afterDirectories? (fills : afterDirectories? s = some behind) : behind.length ≤ s.length := by
  unfold afterDirectories? at fills
  split at fills
  · exact Option.some.inj fills ▸ Nat.le_refl _
  · exact Option.some.inj fills ▸ Nat.le_succ _
  · exact nomatch fills

theorem reads_of_readTokens {fuel : Nat} (read : readTokens fuel before tokens s = some result) :
    Reads before tokens s result := by
  induction fuel generalizing before tokens s with
  | zero => exact nomatch read
  | succ fuel ih =>
    cases s with
    | nil => exact Option.some.inj read ▸ .done
    | cons c rest =>
      unfold readTokens at read
      split at read
      case isTrue question =>
        subst question
        exact .anyChar (ih read)
      case isFalse question =>
        split at read
        case isTrue opening =>
          subst opening
          split at read
          case h_1 token behind closed => exact .bracket closed (ih read)
          case h_2 => exact nomatch read
        case isFalse opening =>
          split at read
          case isFalse star => exact .plain (by simp [wildcards, question, opening, star]) (ih read)
          case isTrue star =>
            subst star
            split at read
            case h_1 => exact nomatch read
            case h_2 rest _ =>
              split at read
              case isFalse => exact nomatch read
              case isTrue opens =>
                split at read
                case h_1 behind fills => exact .stars opens fills (ih read)
                case h_2 => exact nomatch read
            case h_3 single =>
              refine .star (fun double => ?_) (ih read)
              obtain ⟨more, rfl⟩ := List.head?_eq_some_iff.1 double
              exact single more rfl

theorem readTokens_of_reads (reads : Reads before tokens s result) {fuel : Nat} (enough : s.length < fuel) :
    readTokens fuel before tokens s = some result := by
  induction fuel generalizing before tokens s with
  | zero => exact absurd enough (Nat.not_lt_zero _)
  | succ fuel ih =>
    cases reads with
    | done => rfl
    | anyChar further => exact (if_pos rfl).trans (ih further (Nat.lt_of_succ_lt_succ enough))
    | bracket closed further =>
      obtain ⟨-, ⟨inside, rfl⟩, -⟩ := bracket?_eq_some closed
      unfold readTokens
      rw [if_neg (by decide), if_pos rfl, closed]
      refine ih further ?_
      simp only [List.length_cons, List.length_append] at enough
      omega
    | star single further =>
      unfold readTokens
      rw [if_neg (by decide), if_neg (by decide), if_pos rfl]
      split
      · exact absurd rfl single
      · exact absurd rfl single
      · exact ih further (Nat.lt_of_succ_lt_succ enough)
    | @stars _ _ _ rest behind opens fills further =>
      have shorter := length_afterDirectories? fills
      unfold readTokens
      rw [if_neg (by decide), if_neg (by decide), if_pos rfl]
      split
      case h_1 tail same =>
        obtain rfl : rest = '*' :: tail := (List.cons.inj same).2
        have none : (none : Option Text) = some behind := fills
        simp at none
      case h_2 r _ same =>
        obtain rfl : rest = r := (List.cons.inj same).2
        rw [if_pos opens, fills]
        refine ih further ?_
        simp only [List.length_cons] at enough
        omega
      case h_3 single => exact absurd rfl (single rest)
    | plain literal further =>
      simp only [wildcards, List.mem_cons, List.not_mem_nil, or_false, not_or] at literal
      unfold readTokens
      rw [if_neg literal.1, if_neg literal.2.2, if_neg literal.2.1]
      exact ih further (Nat.lt_of_succ_lt_succ enough)

theorem parse?_eq_some_iff : parse? s = some result ↔ Reads none [] s result :=
  ⟨reads_of_readTokens, fun reads => readTokens_of_reads reads (Nat.lt_succ_self _)⟩

/-! ## Tokens -/

/-- The tokens before a place stay in front. -/
theorem Reads.prefix (reads : Reads before tokens s result) : tokens.reverse <+: result := by
  induction reads with
  | done => exact List.prefix_refl _
  | stars opens fills further ih =>
    refine List.IsPrefix.trans ?_ ih
    unfold addDirectories
    split
    · exact List.prefix_refl _
    · rw [List.reverse_cons]
      exact List.prefix_append _ _
  | _ =>
    rename_i ih
    rw [List.reverse_cons] at ih
    exact (List.prefix_append _ _).trans ih

theorem mem_addDirectories (tokens : List GlobToken) : .anyDirectories ∈ addDirectories tokens := by
  unfold addDirectories
  split
  case isTrue double =>
    obtain ⟨rest, rfl⟩ := List.head?_eq_some_iff.1 double.2
    exact List.mem_cons_self
  case isFalse => exact List.mem_cons_self

theorem literal?_eq_some_iff : literal? tokens = some t ↔ tokens = t.map .char := by
  unfold literal?
  induction tokens generalizing t with
  | nil => cases t <;> simp
  | cons token tokens ih =>
    rw [List.mapM_cons]
    cases token with
    | char c =>
      cases t with
      | nil => simp [Option.bind_eq_some_iff]
      | cons d t =>
        simp only [ih, Option.bind_eq_bind, Option.bind_eq_some_iff, Option.some.injEq, Option.pure_def,
          exists_eq_left', List.map_cons, List.cons.injEq, GlobToken.char.injEq]
        constructor
        · rintro ⟨_, whole, here, rfl⟩
          exact ⟨here, whole⟩
        · rintro ⟨here, whole⟩
          exact ⟨t, whole, here, rfl⟩
    | _ => cases t <;> simp

/-- Tokens that are characters are those of the text. -/
theorem Reads.eq_of_chars (reads : Reads before tokens s result) (chars : result = t.map .char) :
    t.map .char = tokens.reverse ++ s.map .char := by
  have only {more : List GlobToken} (front : more.reverse <+: result) {token : GlobToken}
      (member : token ∈ more) : ∃ c, token = .char c := by
    rw [chars] at front
    obtain ⟨c, -, same⟩ := List.mem_map.1 (front.subset (List.mem_reverse.2 member))
    exact ⟨c, same.symm⟩
  induction reads with
  | done => simp [chars]
  | anyChar further ih => exact nomatch only further.prefix List.mem_cons_self
  | bracket closed further ih =>
    obtain ⟨⟨sets, rfl | rfl⟩, -⟩ := bracket?_eq_some closed
    · exact nomatch only further.prefix List.mem_cons_self
    · exact nomatch only further.prefix List.mem_cons_self
  | star single further ih => exact nomatch only further.prefix List.mem_cons_self
  | stars opens fills further ih => exact nomatch only further.prefix (mem_addDirectories _)
  | plain literal further ih =>
    rw [ih chars only]
    simp

/-- A piece that is read as characters is their text. -/
theorem eq_of_literal? (parsed : parse? s = some tokens) (literal : literal? tokens = some t) : t = s := by
  have same := (parse?_eq_some_iff.1 parsed).eq_of_chars (literal?_eq_some_iff.1 literal)
  exact (List.map_inj_right fun _ _ => GlobToken.char.inj).1 same

/-- A character in front of the tokens is in front of the text. -/
theorem head?_of_parse? {c : Char} (parsed : parse? s = some tokens) (first : tokens.head? = some (.char c)) :
    s.head? = some c := by
  have only {token : GlobToken} (front : [token] <+: tokens) : token = .char c := by
    obtain ⟨more, rfl⟩ := front
    exact Option.some.inj first
  cases parse?_eq_some_iff.1 parsed with
  | done => exact nomatch first
  | anyChar further => exact nomatch only further.prefix
  | bracket closed further =>
    obtain ⟨⟨sets, rfl | rfl⟩, -⟩ := bracket?_eq_some closed
    · exact nomatch only further.prefix
    · exact nomatch only further.prefix
  | star single further => exact nomatch only further.prefix
  | stars opens fills further => exact nomatch only further.prefix
  | plain literal further => exact congrArg some (GlobToken.char.inj (only further.prefix))

/-- The segment that takes any number of names. -/
def anyNames : Text := ['*', '*']

/-- Inside a piece no double star begins. -/
theorem Reads.mem_anyDirectories (reads : Reads before tokens s result) (unmarked : '/' ∉ s)
    (inside : opensComponent before = false) (member : .anyDirectories ∈ result) :
    .anyDirectories ∈ tokens := by
  induction reads with
  | done => exact List.mem_reverse.1 member
  | anyChar further ih =>
    exact (List.mem_cons.1 (ih (mt (List.mem_cons_of_mem _) unmarked) rfl member)).resolve_left nofun
  | bracket closed further ih =>
    obtain ⟨⟨sets, tokens⟩, ⟨body, rfl⟩, -⟩ := bracket?_eq_some closed
    have outside := (List.mem_cons.1 (ih (fun slash => unmarked (by simp [slash])) rfl member))
    refine outside.resolve_left ?_
    rcases tokens with rfl | rfl <;> exact nofun
  | star single further ih =>
    exact (List.mem_cons.1 (ih (mt (List.mem_cons_of_mem _) unmarked) rfl member)).resolve_left nofun
  | stars opens fills further ih => exact absurd (opens.symm.trans inside) nofun
  | @plain before tokens result c rest literal further ih =>
    have other : c ≠ '/' := fun slash => unmarked (by simp [slash])
    exact (List.mem_cons.1 (ih (mt (List.mem_cons_of_mem _) unmarked) (by simpa [opensComponent] using other)
      member)).resolve_left nofun

/-- A piece with a double star is nothing else. -/
theorem eq_anyNames (parsed : parse? s = some tokens) (unmarked : '/' ∉ s)
    (member : .anyDirectories ∈ tokens) : s = anyNames := by
  cases parse?_eq_some_iff.1 parsed with
  | done => exact nomatch member
  | anyChar further =>
    exact nomatch further.mem_anyDirectories (mt (List.mem_cons_of_mem _) unmarked) rfl member
  | bracket closed further =>
    obtain ⟨⟨sets, tokens⟩, ⟨body, rfl⟩, -⟩ := bracket?_eq_some closed
    have outside := further.mem_anyDirectories (fun slash => unmarked (by simp [slash])) rfl member
    rcases tokens with rfl | rfl <;> exact nomatch outside
  | star single further =>
    exact nomatch further.mem_anyDirectories (mt (List.mem_cons_of_mem _) unmarked) rfl member
  | @stars _ _ _ rest behind opens fills further =>
    unfold afterDirectories? at fills
    split at fills
    · rfl
    · exact absurd (by simp) unmarked
    · exact nomatch fills
  | @plain _ _ _ c rest literal further =>
    have other : c ≠ '/' := fun slash => unmarked (by simp [slash])
    exact nomatch further.mem_anyDirectories (mt (List.mem_cons_of_mem _) unmarked)
      (by simpa [opensComponent] using other) member

/-! ## Pieces -/

/-- Reading does not end at the end of a piece: it goes on behind a slash, whatever the tokens are by then. -/
def GoesOn (t : Text) : Prop :=
  t = [] ∨ ∃ rest, t = '/' :: rest ∧ ∀ tokens, ∃ result, Reads (some '/') tokens rest result

/-- A piece is read in front of what goes on behind it as it is read alone. -/
theorem Reads.append (reads : Reads before tokens s result) (unmarked : '/' ∉ s) (goesOn : GoesOn t)
    (beforeToo : Option Char) (opens : opensComponent beforeToo = opensComponent before)
    (tokensToo : List GlobToken) : ∃ resultToo, Reads beforeToo tokensToo (s ++ t) resultToo := by
  induction reads generalizing beforeToo tokensToo with
  | done =>
    obtain rfl | ⟨rest, rfl, further⟩ := goesOn
    · exact ⟨_, .done⟩
    · obtain ⟨result, reads⟩ := further (.char '/' :: tokensToo)
      exact ⟨result, .plain (by decide) reads⟩
  | anyChar further ih =>
    obtain ⟨result, reads⟩ := ih (mt (List.mem_cons_of_mem _) unmarked) (some '?') rfl (.anyChar :: tokensToo)
    exact ⟨result, .anyChar reads⟩
  | @bracket before tokens result token rest behind closed further ih =>
    obtain ⟨-, ⟨body, whole⟩, longer⟩ := bracket?_eq_some closed
    have unmarkedToo : '/' ∉ behind := fun slash => unmarked (by simp [whole, slash])
    obtain ⟨result, reads⟩ := ih unmarkedToo (some ']') rfl (token :: tokensToo)
    exact ⟨result, .bracket (longer t) reads⟩
  | @star before tokens result rest single further ih =>
    obtain ⟨result, reads⟩ :=
      ih (mt (List.mem_cons_of_mem _) unmarked) (some '*') rfl (.anySequence :: tokensToo)
    refine ⟨result, .star ?_ reads⟩
    cases rest with
    | cons c rest => exact single
    | nil =>
      obtain rfl | ⟨rest, rfl, -⟩ := goesOn
      · exact nofun
      · exact nofun
  | @stars before tokens result rest behind opensHere fills further ih =>
    have ends : rest = [] := by
      unfold afterDirectories? at fills
      split at fills
      · rfl
      · exact absurd (by simp) unmarked
      · exact nomatch fills
    subst ends
    obtain rfl | ⟨more, rfl, furtherToo⟩ := goesOn
    · exact ⟨_, .stars (opens.trans opensHere) rfl .done⟩
    · obtain ⟨result, reads⟩ := furtherToo (addDirectories tokensToo)
      exact ⟨result, .stars (opens.trans opensHere) rfl reads⟩
  | @plain before tokens result c rest literal further ih =>
    obtain ⟨result, reads⟩ := ih (mt (List.mem_cons_of_mem _) unmarked) (some c) rfl (.char c :: tokensToo)
    exact ⟨result, .plain literal reads⟩

/-- Pieces that are patterns are a pattern with slashes between them. -/
theorem exists_reads_joinWith {pieces : List Text} (unmarked : ∀ piece ∈ pieces, '/' ∉ piece)
    (parses : ∀ piece ∈ pieces, (parse? piece).isSome = true) (opens : opensComponent before = true)
    (tokens : List GlobToken) : ∃ result, Reads before tokens (Text.joinWith '/' pieces) result := by
  induction pieces generalizing before tokens with
  | nil => exact ⟨_, .done⟩
  | cons piece pieces ih =>
    obtain ⟨first, others⟩ := List.forall_mem_cons.1 unmarked
    obtain ⟨parsesFirst, parsesOthers⟩ := List.forall_mem_cons.1 parses
    obtain ⟨_, alone⟩ := Option.isSome_iff_exists.1 parsesFirst
    have reads := parse?_eq_some_iff.1 alone
    cases pieces with
    | nil =>
      have whole := reads.append first (.inl rfl) before opens tokens
      rwa [List.append_nil] at whole
    | cons next rest =>
      rw [Text.joinWith_cons '/' piece (List.cons_ne_nil next rest)]
      have further : GoesOn ('/' :: Text.joinWith '/' (next :: rest)) :=
        .inr ⟨_, rfl, fun tokens => ih others parsesOthers rfl tokens⟩
      exact reads.append first further before opens tokens

end ModuleHooks.Glob
