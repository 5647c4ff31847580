import ModuleHooks.Decimal.Binary64
import ModuleHooks.Text.Basic

/-!
JSON values. An object keeps its members in order, so reading, changing and writing one is exact.
-/
namespace ModuleHooks

/-- A number is whole when it was written so and fits 64 bits, signed or unsigned, and a binary
floating point number otherwise. -/
inductive JsonNumber
  | whole (n : Int)
  | binary (x : Binary64)
deriving DecidableEq, Repr

/-- A JSON value. -/
inductive Json
  | null
  | bool (b : Bool)
  | number (n : JsonNumber)
  | string (s : Text)
  | array (items : List Json)
  | object (members : List (Text × Json))
deriving BEq, Repr, Inhabited

/-- The members of an object: names with values, each name once. -/
abbrev Members (α : Type) := List (Text × α)

namespace Members

variable {α : Type}

def get? (name : Text) (members : Members α) : Option α := members.lookup name

/-- Sets a name: a new one goes to the end, one that is there keeps its place. -/
def insert (name : Text) (value : α) : Members α → Members α
  | [] => [(name, value)]
  | (n, v) :: rest => if n = name then (name, value) :: rest else (n, v) :: insert name value rest

/-- The members of a list of pairs: the first occurrence of a name gives its place, the last one
its value. -/
def ofPairs (pairs : List (Text × α)) : Members α :=
  pairs.foldl (fun members (name, value) => insert name value members) []

/-- Removes a name; the last member moves into the place that became free. -/
def remove (name : Text) (members : Members α) : Members α :=
  match members.findIdx? (·.1 = name) with
  | none => members
  | some i =>
    match members.getLast? with
    | none => members
    | some last => (members.set i last).dropLast

end Members

namespace Json

/-- The text of a string value. -/
def text? : Json → Option Text
  | .string s => some s
  | _ => none

/-- The member of an object value. -/
def member? (name : Text) : Json → Option Json
  | .object members => Members.get? name members
  | _ => none

/-- The texts among the items of a list, in order. -/
def texts (items : List Json) : List Text := items.filterMap text?

end Json
end ModuleHooks
