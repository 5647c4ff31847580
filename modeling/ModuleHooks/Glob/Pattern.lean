import ModuleHooks.Text.Basic

/-!
Glob patterns. A pattern is a list of tokens; all but the two kinds of star stand for one character,
and none of those stands for a slash, so a pattern without a double star has as many slashes as what
it matches.
-/
namespace ModuleHooks

/-- A character or a range in a bracket. -/
inductive CharSet
  | single (c : Char)
  | range (low high : Char)
deriving DecidableEq, Repr

/-- A token of a glob pattern. -/
inductive GlobToken
  | char (c : Char)
  | anyChar
  | oneOf (sets : List CharSet)
  | noneOf (sets : List CharSet)
  | anySequence
  | anyDirectories
deriving DecidableEq, Repr

namespace CharSet

/-- Whether a character is in the set. -/
def holds (c : Char) : CharSet → Bool
  | single x => c == x
  | range low high => low ≤ c && c ≤ high

/-- The sets that the inside of a bracket spells: a hyphen between two characters makes a range. -/
def ofText : Text → List CharSet
  | a :: '-' :: b :: rest => .range a b :: ofText rest
  | a :: rest => .single a :: ofText rest
  | [] => []

end CharSet

namespace Glob

/-- The token of a bracket and what follows it, given what follows its opening. A bracket holds one
character at least, so a closing bracket right after the opening is a character. -/
def bracket? : Text → Option (GlobToken × Text)
  | '!' :: c :: rest =>
    (Text.cutAt? ']' rest).map fun (body, r) => (.noneOf (CharSet.ofText (c :: body)), r)
  | '!' :: [] => none
  | c :: rest =>
    (Text.cutAt? ']' rest).map fun (body, r) => (.oneOf (CharSet.ofText (c :: body)), r)
  | [] => none

/-- Whether a character, or the start of the text, opens a component. -/
def opensComponent : Option Char → Bool
  | none => true
  | some c => c == '/'

/-- What follows a double star, which has to fill a component; the slash after it belongs to it. -/
def afterDirectories? : Text → Option Text
  | [] => some []
  | '/' :: rest => some rest
  | _ :: _ => none

/-- Appends the token of a double star, unless it would only repeat the one before. -/
def addDirectories (tokens : List GlobToken) : List GlobToken :=
  if 1 < tokens.length ∧ tokens.head? = some .anyDirectories then tokens
  else .anyDirectories :: tokens

/-- Reads tokens onto those before, last first; `before` is the character read last and `fuel`
bounds the number of tokens. -/
def readTokens : Nat → Option Char → List GlobToken → Text → Option (List GlobToken)
  | 0, _, _, _ => none
  | _ + 1, _, tokens, [] => some tokens.reverse
  | fuel + 1, before, tokens, c :: rest =>
    if c = '?' then readTokens fuel (some c) (.anyChar :: tokens) rest
    else if c = '[' then
      match bracket? rest with
      | some (token, r) => readTokens fuel (some ']') (token :: tokens) r
      | none => none
    else if c = '*' then
      match rest with
      | '*' :: '*' :: _ => none
      | '*' :: r =>
        if opensComponent before then
          match afterDirectories? r with
          | some r => readTokens fuel (some '/') (addDirectories tokens) r
          | none => none
        else none
      | r => readTokens fuel (some c) (.anySequence :: tokens) r
    else readTokens fuel (some c) (.char c :: tokens) rest

def parse? (pattern : Text) : Option (List GlobToken) :=
  readTokens (pattern.length + 1) none [] pattern

/-- Whether a token for one character accepts it. A slash is accepted by itself only. -/
def accepts (c : Char) : GlobToken → Bool
  | .char x => c == x
  | .anyChar => c != '/'
  | .oneOf sets => c != '/' && sets.any (·.holds c)
  | .noneOf sets => c != '/' && !sets.any (·.holds c)
  | .anySequence | .anyDirectories => false

/-- Whether `p` holds of some rest of the text that is reached without passing a slash. -/
def someRest (p : Text → Bool) : Text → Bool
  | [] => p []
  | c :: r => p (c :: r) || (c != '/' && someRest p r)

/-- Whether `p` holds of what follows some slash, or of the empty rest behind it all. -/
def someAfterSlash (p : Text → Bool) : Text → Bool
  | [] => p []
  | c :: r => (c == '/' && p r) || someAfterSlash p r

/-- Whether a text matches a pattern: one star takes characters of one component, two take whole
components, each with its slash, or everything. -/
def matchTokens : List GlobToken → Text → Bool
  | [], s => s.isEmpty
  | .anySequence :: tokens, s => someRest (matchTokens tokens) s
  | .anyDirectories :: tokens, s => matchTokens tokens s || someAfterSlash (matchTokens tokens) s
  | _ :: _, [] => false
  | token :: tokens, c :: s => accepts c token && matchTokens tokens s

/-- What an end of a pattern says of a text: whether it matches the text, and whether it matches
what follows some slash in it, or the empty rest behind it all. -/
structure Verdict where
  here : Bool
  afterSlash : Bool
deriving DecidableEq, Repr

def verdict (tokens : List GlobToken) (s : Text) : Verdict :=
  ⟨matchTokens tokens s, someAfterSlash (matchTokens tokens) s⟩

/-- The verdicts of all ends of a pattern, the longest first. -/
def verdicts : List GlobToken → Text → List Verdict
  | [], s => [verdict [] s]
  | token :: tokens, s => verdict (token :: tokens) s :: verdicts tokens s

/-- The verdict of the longest end. -/
def longest (column : List Verdict) : Verdict := column.headD ⟨false, false⟩

/-- The verdicts on the empty text. -/
def emptyColumn : List GlobToken → List Verdict
  | [] => [⟨true, true⟩]
  | token :: tokens =>
    let rest := emptyColumn tokens
    let here := (token == .anySequence || token == .anyDirectories) && (longest rest).here
    ⟨here, here⟩ :: rest

/-- The verdicts on a text from those on the text without its first character. -/
def nextColumn (c : Char) : List GlobToken → List Verdict → List Verdict
  | [], before => [⟨false, (c == '/' && (longest before).here) || (longest before).afterSlash⟩]
  | token :: tokens, before =>
    let rest := nextColumn c tokens before.tail
    let here :=
      match token with
      | .anySequence => (longest rest).here || (c != '/' && (longest before).here)
      | .anyDirectories => (longest rest).here || (longest rest).afterSlash
      | token => accepts c token && (longest before.tail).here
    ⟨here, (c == '/' && (longest before).here) || (longest before).afterSlash⟩ :: rest

/-- The verdicts on a text, each character taken once. -/
def column (tokens : List GlobToken) : Text → List Verdict
  | [] => emptyColumn tokens
  | c :: s => nextColumn c tokens (column tokens s)

theorem longest_verdicts (tokens : List GlobToken) (s : Text) :
    longest (verdicts tokens s) = verdict tokens s := by
  cases tokens <;> rfl

theorem emptyColumn_eq (tokens : List GlobToken) : emptyColumn tokens = verdicts tokens [] := by
  induction tokens with
  | nil => rfl
  | cons token tokens ih =>
    simp only [emptyColumn, ih, longest_verdicts, verdicts]
    cases token <;> simp [verdict, matchTokens, someRest, someAfterSlash]

theorem nextColumn_eq (c : Char) (tokens : List GlobToken) (s : Text) :
    nextColumn c tokens (verdicts tokens s) = verdicts tokens (c :: s) := by
  induction tokens with
  | nil => simp [nextColumn, verdicts, longest, verdict, matchTokens, someAfterSlash]
  | cons token tokens ih =>
    simp only [nextColumn, verdicts, List.tail_cons, ih, longest_verdicts]
    cases token <;>
      simp [longest, verdict, matchTokens, someRest, someAfterSlash]

/-- Taking each character once gives the verdicts that trying every way gives. -/
theorem column_eq (tokens : List GlobToken) (s : Text) : column tokens s = verdicts tokens s := by
  induction s with
  | nil => exact emptyColumn_eq tokens
  | cons c s ih => rw [column, ih, nextColumn_eq]

/-- Whether a text matches a pattern, found without trying every way in which the stars could share
the text. -/
def covers (tokens : List GlobToken) (s : Text) : Bool := (longest (column tokens s)).here

theorem covers_eq (tokens : List GlobToken) (s : Text) :
    covers tokens s = matchTokens tokens s := by
  rw [covers, column_eq, longest_verdicts, verdict]

/-- Whether a text matches a pattern text; what is no pattern matches nothing. -/
def matchText (pattern s : Text) : Bool :=
  match parse? pattern with
  | some tokens => covers tokens s
  | none => false

/-- The text that a pattern without wildcards stands for. -/
def literal? (tokens : List GlobToken) : Option Text :=
  tokens.mapM fun
    | .char c => some c
    | _ => none

end Glob
end ModuleHooks
