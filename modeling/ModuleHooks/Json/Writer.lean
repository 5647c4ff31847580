import ModuleHooks.Decimal.Shortest
import ModuleHooks.Json.Value

/-!
Writing JSON without blanks, members in order.
-/
namespace ModuleHooks.Json

def hexDigit (n : Nat) : Char := ("0123456789abcdef".toList[n]?).getD '0'

/-- A character inside a string: the quote, the backslash and the control characters are escaped,
all else stands for itself. -/
def escape (c : Char) : Text :=
  match c with
  | '"' => ['\\', '"']
  | '\\' => ['\\', '\\']
  | '\x08' => ['\\', 'b']
  | '\x0c' => ['\\', 'f']
  | '\n' => ['\\', 'n']
  | '\r' => ['\\', 'r']
  | '\t' => ['\\', 't']
  | c =>
    if c.toNat < 0x20 then ['\\', 'u', '0', '0', hexDigit (c.toNat / 16), hexDigit (c.toNat % 16)]
    else [c]

def quote (s : Text) : Text := '"' :: (s.flatMap escape ++ ['"'])

/-- Numbers are positional from a hundred-thousandth up to below ten to the sixteenth. -/
def numberSpelling : Decimal.Spelling := { leastPositional := -5, leastScientific := 16 }

/-- A number: whole ones in digits, others as the shortest decimal that reads back. -/
def writeNumber : JsonNumber → Text
  | .whole n => (if n < 0 then ['-'] else []) ++ Text.ofNat n.natAbs
  | .binary x =>
    (if x.negative then ['-'] else []) ++ (Decimal.shortest x.magnitude).write numberSpelling

mutual

/-- The text of a value. -/
def write : Json → Text
  | .null => "null".toList
  | .bool b => if b then "true".toList else "false".toList
  | .number n => writeNumber n
  | .string s => quote s
  | .array items => '[' :: (writeItems items ++ [']'])
  | .object members => '\x7b' :: (writeMembers members ++ ['\x7d'])

/-- The items of an array with commas between. -/
def writeItems : List Json → Text
  | [] => []
  | [item] => write item
  | item :: items => write item ++ ',' :: writeItems items

/-- The members of an object with commas between. -/
def writeMembers : List (Text × Json) → Text
  | [] => []
  | [(name, value)] => quote name ++ ':' :: write value
  | (name, value) :: members => quote name ++ ':' :: (write value ++ ',' :: writeMembers members)

end

end ModuleHooks.Json
