import ModuleHooks.Json.Token

/-!
The syntax of a JSON text: literals as written, and every member of an object, repeated names
included. A document says what a text spells before anyone asks which values its literals have, so
parts that are skipped need not have any.
-/
namespace ModuleHooks

/-- A JSON text as a tree of literals. -/
inductive JsonDocument
  | null
  | bool (b : Bool)
  | number (n : NumberLiteral)
  | string (body : Text)
  | array (items : List JsonDocument)
  | object (members : List (Text × JsonDocument))
deriving Inhabited

namespace JsonDocument

mutual

/-- The document at the start of the tokens, and the tokens after it; `fuel` bounds the steps. -/
def read : Nat → List JsonToken → Option (JsonDocument × List JsonToken)
  | 0, _ => none
  | fuel + 1, tokens =>
    match tokens with
    | .null :: rest => some (.null, rest)
    | .bool b :: rest => some (.bool b, rest)
    | .number n :: rest => some (.number n, rest)
    | .string body :: rest => some (.string body, rest)
    | .openBracket :: .closeBracket :: rest => some (.array [], rest)
    | .openBracket :: rest => (readItems fuel rest).map fun (items, r) => (.array items, r)
    | .openBrace :: .closeBrace :: rest => some (.object [], rest)
    | .openBrace :: rest => (readMembers fuel rest).map fun (members, r) => (.object members, r)
    | _ => none

/-- The items up to the closing bracket, one at least. -/
def readItems : Nat → List JsonToken → Option (List JsonDocument × List JsonToken)
  | 0, _ => none
  | fuel + 1, tokens =>
    match read fuel tokens with
    | some (item, .comma :: rest) => (readItems fuel rest).map fun (items, r) => (item :: items, r)
    | some (item, .closeBracket :: rest) => some ([item], rest)
    | _ => none

/-- The members up to the closing brace, one at least. -/
def readMembers : Nat → List JsonToken → Option (List (Text × JsonDocument) × List JsonToken)
  | 0, _ => none
  | fuel + 1, tokens =>
    match tokens with
    | .string name :: .colon :: rest =>
      match read fuel rest with
      | some (value, .comma :: rest) =>
        (readMembers fuel rest).map fun (members, r) => ((name, value) :: members, r)
      | some (value, .closeBrace :: rest) => some ([(name, value)], rest)
      | _ => none
    | _ => none

end

/-- The document that all of the tokens make up. Each token costs at most two steps. -/
def ofTokens? (tokens : List JsonToken) : Option JsonDocument :=
  match read (2 * tokens.length + 1) tokens with
  | some (document, []) => some document
  | _ => none

def ofText? (s : Text) : Option JsonDocument := (JsonToken.ofText? s).bind ofTokens?

end JsonDocument
end ModuleHooks
