import ModuleHooks.Text.Basic

/-!
The tokens of a JSON text. Reading a text as tokens checks the form of every literal and drops the
blanks between them; whether the tokens make a value is decided later.
-/
namespace ModuleHooks

/-- A number as it is written. -/
structure NumberLiteral where
  negative : Bool
  whole : Text
  fraction : Text
  exponentNegative : Bool
  exponent : Text
  /-- Neither a fraction nor an exponent is written. -/
  isWhole : Bool
deriving DecidableEq, Repr

/-- A token. A string is kept as written, escapes and all, without its quotes. -/
inductive JsonToken
  | openBrace
  | closeBrace
  | openBracket
  | closeBracket
  | colon
  | comma
  | null
  | bool (b : Bool)
  | number (n : NumberLiteral)
  | string (body : Text)
deriving DecidableEq, Repr

namespace JsonToken

/-- The blanks that may stand between tokens. -/
def isGap (c : Char) : Bool := c == ' ' || c == '\n' || c == '\t' || c == '\r'

def isHexDigit (c : Char) : Bool :=
  c.isDigit || ('a' ≤ c && c ≤ 'f') || ('A' ≤ c && c ≤ 'F')

/-- The characters that may follow a backslash, apart from `u` and its four digits. -/
def simpleEscapes : Text := ['"', '\\', '/', 'b', 'f', 'n', 'r', 't']

/-- The body of a string up to its closing quote, and what follows it. -/
def stringBody : Text → Option (Text × Text)
  | '"' :: rest => some ([], rest)
  | '\\' :: 'u' :: a :: b :: c :: d :: rest =>
    if [a, b, c, d].all isHexDigit then
      (stringBody rest).map fun (body, r) => ('\\' :: 'u' :: a :: b :: c :: d :: body, r)
    else none
  | '\\' :: e :: rest =>
    if simpleEscapes.contains e then
      (stringBody rest).map fun (body, r) => ('\\' :: e :: body, r)
    else none
  | c :: rest =>
    if c = '\\' ∨ c.toNat < 0x20 then none
    else (stringBody rest).map fun (body, r) => (c :: body, r)
  | [] => none

/-- The digits at the start, and what follows them. -/
def digits (s : Text) : Text × Text := (s.takeWhile Char.isDigit, s.dropWhile Char.isDigit)

/-- The whole part of a number: one zero, or digits that do not start with one. -/
def wholePart : Text → Option (Text × Text)
  | '0' :: rest => some (['0'], rest)
  | s => if (digits s).1.isEmpty then none else some (digits s)

/-- The fraction after the whole part: nothing, or a point and digits. -/
def fractionPart : Text → Option (Text × Text)
  | '.' :: rest => if (digits rest).1.isEmpty then none else some (digits rest)
  | s => some ([], s)

/-- The exponent after the fraction: its sign, its digits, and what follows; no digits where no
exponent is written. -/
def exponentPart : Text → Option (Bool × Text × Text)
  | c :: rest =>
    if c = 'e' ∨ c = 'E' then
      let (negative, rest) :=
        match rest with
        | '-' :: r => (true, r)
        | '+' :: r => (false, r)
        | r => (false, r)
      if (digits rest).1.isEmpty then none else some (negative, digits rest)
    else some (false, [], c :: rest)
  | [] => some (false, [], [])

/-- A number at the start of the text, and what follows it. -/
def numberLiteral (s : Text) : Option (NumberLiteral × Text) := do
  let (negative, s) :=
    match s with
    | '-' :: r => (true, r)
    | r => (false, r)
  let (whole, s) ← wholePart s
  let (fraction, s) ← fractionPart s
  let (exponentNegative, exponent, s) ← exponentPart s
  return ({ negative, whole, fraction, exponentNegative, exponent
            isWhole := fraction.isEmpty && exponent.isEmpty }, s)

def words : List (Text × JsonToken) :=
  [("null".toList, .null), ("true".toList, .bool true), ("false".toList, .bool false)]

/-- The token at the start of a text that starts with no blank, and what follows it. -/
def next : Text → Option (JsonToken × Text)
  | [] => none
  | '\x7b' :: rest => some (.openBrace, rest)
  | '\x7d' :: rest => some (.closeBrace, rest)
  | '[' :: rest => some (.openBracket, rest)
  | ']' :: rest => some (.closeBracket, rest)
  | ':' :: rest => some (.colon, rest)
  | ',' :: rest => some (.comma, rest)
  | '"' :: rest => (stringBody rest).map fun (body, r) => (.string body, r)
  | s =>
    match words.findSome? fun (word, token) => (Text.after? word s).map (token, ·) with
    | some found => some found
    | none => (numberLiteral s).map fun (n, r) => (.number n, r)

/-- The tokens of a text; `fuel` bounds their number. -/
def scan : Nat → Text → Option (List JsonToken)
  | 0, _ => none
  | fuel + 1, s =>
    match s.dropWhile isGap with
    | [] => some []
    | rest => do
      let (token, rest) ← next rest
      return token :: (← scan fuel rest)

/-- The tokens of a text, when it consists of tokens and blanks. -/
def ofText? (s : Text) : Option (List JsonToken) := scan (s.length + 1) s

end JsonToken
end ModuleHooks
