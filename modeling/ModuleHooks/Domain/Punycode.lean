import ModuleHooks.Text.Basic

/-!
Labels beyond ASCII that are written in ASCII. In front of the last hyphen stand the characters of
the label that are ASCII; behind it numbers say, in the order of their code points, which other
characters go where. A number is written lowest digit first, and where it ends depends on a bias
that follows the numbers read.
-/
namespace ModuleHooks.Domain.Punycode

/-- The value of a digit: the letters come first. -/
def digit? (c : Char) : Option Nat :=
  let lower := c.toLower
  if 'a' ≤ lower ∧ lower ≤ 'z' then some (lower.toNat - 'a'.toNat)
  else if c.isDigit then some (c.toNat - '0'.toNat + 26)
  else none

def base : Nat := 36

/-- One more than the greatest number that is counted with. -/
def numberLimit : Nat := 4294967296

/-- The least digit that does not end a number at a place. -/
def threshold (place bias : Nat) : Nat := min 26 (max 1 (place - bias))

/-- Reads a number onto one read before: the sum, and what follows. -/
def readNumber (bias : Nat) : Nat → Nat → Nat → Text → Option (Nat × Text)
  | _, _, _, [] => none
  | place, weight, sum, c :: rest => do
    let digit ← digit? c
    let sum := sum + digit * weight
    if numberLimit ≤ sum then none
    else if digit < threshold place bias then return (sum, rest)
    else
      let weight := weight * (base - threshold place bias)
      if numberLimit ≤ weight then none else readNumber bias (place + base) weight sum rest

theorem length_readNumber {bias place weight sum : Nat} {s : Text} {result : Nat × Text}
    (h : readNumber bias place weight sum s = some result) : result.2.length < s.length := by
  induction s generalizing place weight sum with
  | nil => simp [readNumber] at h
  | cons c rest ih =>
    simp only [readNumber, Option.bind_eq_bind, Option.bind_eq_some_iff] at h
    obtain ⟨digit, -, h⟩ := h
    split at h
    · simp at h
    · split at h
      · simp only [Option.pure_def, Option.some.injEq] at h
        subst h
        simp
      · split at h
        · simp at h
        · exact Nat.lt_succ_of_lt (ih h)

/-- Takes a difference down to the range in which the bias is computed from it. -/
def damp (difference place : Nat) : Nat × Nat :=
  if 455 < difference then damp (difference / 35) (place + base) else (difference, place)
termination_by difference
decreasing_by omega

/-- The bias after a number that moved on by a difference among so many characters. -/
def adapt (difference count : Nat) (isFirst : Bool) : Nat :=
  let start := if isFirst then difference / 700 else difference / 2
  let (rest, place) := damp (start + start / count) 0
  place + base * rest / (rest + 38)

def isCharacter (n : Nat) : Bool := n < 0xD800 || (0xDFFF < n && n < 0x110000)

/-- Inserts the characters that numbers spell: from a code point and a place on, each number says
how far to go over the places, code point by code point. -/
def insertAll (bias code place : Nat) (label s : Text) : Option Text :=
  match s with
  | [] => some label
  | c :: rest =>
    match _h : readNumber bias base 1 place (c :: rest) with
    | none => none
    | some (sum, rest') =>
      let count := label.length + 1
      let code := code + sum / count
      if isCharacter code then
        insertAll (adapt (sum - place) count (place == 0)) code (sum % count + 1)
          (label.insertIdx (sum % count) (Char.ofNat code)) rest'
      else none
termination_by s.length
decreasing_by exact length_readNumber ‹_›

/-- The label that a text stands for. A hyphen in front of everything is no mark of an end. -/
def decode? (s : Text) : Option Text :=
  match Text.cutAt? '-' s.reverse with
  | some (numbers, plain) =>
    if plain.isEmpty then insertAll 72 0x80 0 [] s
    else insertAll 72 0x80 0 plain.reverse numbers.reverse
  | none => insertAll 72 0x80 0 [] s

end ModuleHooks.Domain.Punycode
