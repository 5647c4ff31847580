import ModuleHooks.Json.Document
import ModuleHooks.Json.Value

/-!
Reading JSON. A text is read as a document and the document as a value: strings are unescaped,
numbers evaluated, repeated names merged, and nesting is bounded.
-/
namespace ModuleHooks.Json

/-- The value of a hexadecimal digit. -/
def hexValue (c : Char) : Nat :=
  if c.isDigit then c.toNat - '0'.toNat
  else if c.toNat < 'a'.toNat then c.toNat - 'A'.toNat + 10
  else c.toNat - 'a'.toNat + 10

/-- The number that four hexadecimal digits spell. -/
def hexUnit (a b c d : Char) : Nat :=
  ((hexValue a * 16 + hexValue b) * 16 + hexValue c) * 16 + hexValue d

/-- The character that a backslash and `c` stand for. -/
def simpleEscape (c : Char) : Char :=
  match c with
  | 'b' => '\x08'
  | 'f' => '\x0c'
  | 'n' => '\n'
  | 'r' => '\r'
  | 't' => '\t'
  | c => c

/-- The text that a string body stands for. A surrogate stands for a character only together with
its other half, in the right order. -/
def unescape? : Text → Option Text
  | '\\' :: 'u' :: a :: b :: c :: d :: rest =>
    let n := hexUnit a b c d
    if 0xDC00 ≤ n ∧ n < 0xE000 then none
    else if 0xD800 ≤ n ∧ n < 0xDC00 then
      match rest with
      | '\\' :: 'u' :: a :: b :: c :: d :: rest =>
        let m := hexUnit a b c d
        if 0xDC00 ≤ m ∧ m < 0xE000 then
          (unescape? rest).map (Char.ofNat (0x10000 + (n - 0xD800) * 0x400 + (m - 0xDC00)) :: ·)
        else none
      | _ => none
    else (unescape? rest).map (Char.ofNat n :: ·)
  | '\\' :: e :: rest => (unescape? rest).map (simpleEscape e :: ·)
  | c :: rest => (unescape? rest).map (c :: ·)
  | [] => some []

/-- The largest significand that is kept: 64 bits. -/
def largestSignificand : Nat := twoTo 64 - 1

/-- Appends digits to a significand as long as it stays within 64 bits; also the number of digits
left over. -/
def significand : Nat → Text → Nat × Nat
  | n, [] => (n, 0)
  | n, d :: rest =>
    let m := n * 10 + hexValue d
    if m ≤ largestSignificand then significand m rest else (n, rest.length + 1)

def digitsValue (digits : Text) : Nat := digits.foldl (fun n d => n * 10 + hexValue d) 0

/-- The binary number that a literal is read as. -/
def binaryNumber? (n : NumberLiteral) : Option JsonNumber :=
  let (whole, dropped) := significand 0 n.whole
  let (all, ignored) := significand whole n.fraction
  let written : Int := digitsValue n.exponent
  let exponent : Int :=
    (dropped : Int) - (n.fraction.length - ignored : Nat)
      + (if n.exponentNegative then -written else written)
  (Magnitude.ofDecimal? all exponent).map fun m => .binary ⟨n.negative, m⟩

/-- The number that a literal stands for: a whole number where one of 64 bits is written, negative
zero not being one, and else the binary number, unless it is too large. -/
def number? (n : NumberLiteral) : Option JsonNumber :=
  let whole := digitsValue n.whole
  if n.isWhole ∧ ¬n.negative ∧ whole < twoTo 64 then some (.whole whole)
  else if n.isWhole ∧ n.negative ∧ 0 < whole ∧ whole ≤ twoTo 63 then some (.whole (-whole))
  else binaryNumber? n

/-- The greatest number of arrays and objects around a value. -/
def nestingLimit : Nat := 127

mutual

/-- The value of a document inside at most `depth` more arrays and objects. -/
def ofDocument? (depth : Nat) : JsonDocument → Option Json
  | .null => some .null
  | .bool b => some (.bool b)
  | .number n => (number? n).map .number
  | .string body => (unescape? body).map .string
  | .array items =>
    if depth = 0 then none else (ofDocuments? (depth - 1) items).map .array
  | .object members =>
    if depth = 0 then none
    else (ofMembers? (depth - 1) members).map fun pairs => .object (Members.ofPairs pairs)

/-- The values of the items of an array. -/
def ofDocuments? (depth : Nat) : List JsonDocument → Option (List Json)
  | [] => some []
  | item :: items => do
    let value ← ofDocument? depth item
    return value :: (← ofDocuments? depth items)

/-- The names and values of the members of an object, repeated names included. -/
def ofMembers? (depth : Nat) : List (Text × JsonDocument) → Option (List (Text × Json))
  | [] => some []
  | (name, item) :: members => do
    let name ← unescape? name
    let value ← ofDocument? depth item
    return (name, value) :: (← ofMembers? depth members)

end

def parse? (s : Text) : Option Json := (JsonDocument.ofText? s).bind (ofDocument? nestingLimit)

end ModuleHooks.Json
