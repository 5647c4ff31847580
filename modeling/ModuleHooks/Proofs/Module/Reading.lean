import ModuleHooks.Json.Reader
import ModuleHooks.Module.Aggregate
import ModuleHooks.Proofs.Json.Written

/-!
The source of an aggregate, read. It has a line for each import and a line for each member, so it is read line by
line, and what a literal says is what a document with the same literal says (`Aggregate.ofText?`). Every line is
read as what it was written of, whatever follows it, and therefore so are all lines of a kind together
(`Aggregate.lines_mapIdx`).
-/
namespace ModuleHooks

/-- What a member of an aggregate holds: an import, by its name, or what is required in its place. -/
inductive Held
  | imported (name : Text)
  | required (target : Text)
deriving DecidableEq, Repr

/-- An aggregate as its source says: the names of the imports with what they are of, and the keys of the members
with what they hold. -/
structure Aggregate where
  kind : LoaderKind
  imports : List (Text × Text)
  members : List (Text × Held)
deriving DecidableEq, Repr

namespace Aggregate

/-! ## Reading a source -/

/-- The text of the string literal at the start, and what follows it. -/
def literal? (s : Text) : Option (Text × Text) := do
  let rest ← Text.after? ['"'] s
  let (body, rest) ← JsonToken.stringBody rest
  let value ← Json.unescape? body
  return (value, rest)

/-- The line of an import. -/
def importLine? (s : Text) : Option ((Text × Text) × Text) := do
  let rest ← Text.after? "import * as ".toList s
  let (name, rest) ← Text.cutAt? ' ' rest
  let rest ← Text.after? "from ".toList rest
  let (target, rest) ← literal? rest
  let rest ← Text.after? ";\n".toList rest
  return ((name, target), rest)

/-- What a member holds. -/
def held? (s : Text) : Option (Held × Text) :=
  match Text.after? "require(".toList s with
  | some rest => do
    let (target, rest) ← literal? rest
    let rest ← Text.after? "),\n".toList rest
    return (.required target, rest)
  | none => do
    let (name, rest) ← Text.cutAt? ',' s
    let rest ← Text.after? ['\n'] rest
    return (.imported name, rest)

/-- The line of a member. -/
def memberLine? (s : Text) : Option ((Text × Held) × Text) := do
  let rest ← Text.after? ['\t'] s
  let (key, rest) ← literal? rest
  let rest ← Text.after? ": ".toList rest
  let (held, rest) ← held? rest
  return ((key, held), rest)

/-- The line that the members stand behind. -/
def opening? (s : Text) : Option (LoaderKind × Text) :=
  match Text.after? "export default \x7b\n".toList s with
  | some rest => some (.module, rest)
  | none => (Text.after? "module.exports = \x7b\n".toList s).map (.commonJs, ·)

/-- Lines of one kind as long as there are any, at most `fuel`, and what follows them. -/
def lines {α : Type} (line? : Text → Option (α × Text)) : Nat → Text → List α × Text
  | 0, s => ([], s)
  | fuel + 1, s =>
    match line? s with
    | some (a, rest) =>
      let (more, rest) := lines line? fuel rest
      (a :: more, rest)
    | none => ([], s)

/-- The aggregate that a source says. -/
def ofText? (s : Text) : Option Aggregate := do
  let (imports, rest) := lines importLine? s.length s
  let (kind, rest) ← opening? rest
  let (members, rest) := lines memberLine? rest.length rest
  if rest = "\x7d;\n".toList then some ⟨kind, imports, members⟩ else none

/-- The key of each member with what it holds in the end, if there is such an import. -/
def entries (a : Aggregate) : List (Text × Option Text) :=
  a.members.map fun (key, held) =>
    (key, match held with
      | .imported name => a.imports.lookup name
      | .required target => some target)

/-! ## Lines -/

variable {rest : Text}

theorem literal?_quote (s rest : Text) : literal? (Json.quote s ++ rest) = some (s, rest) := by
  have whole : Json.quote s ++ rest = ['"'] ++ (Json.escaped s ++ '"' :: rest) := by
    simp [Json.quote, Json.escaped]
  rw [literal?, whole, Text.after?_append, Option.bind_eq_bind, Option.bind_some, Json.stringBody_escaped,
    Option.bind_eq_bind, Option.bind_some]
  dsimp only
  rw [Json.unescape?_escaped]
  rfl

theorem importLine?_append {name : Text} (unmarked : ' ' ∉ name) (target rest : Text) :
    importLine? ("import * as ".toList ++ name ++ " from ".toList ++ Json.quote target ++ ";\n".toList ++ rest) =
      some ((name, target), rest) := by
  have whole : "import * as ".toList ++ name ++ " from ".toList ++ Json.quote target ++ ";\n".toList ++ rest =
      "import * as ".toList ++
        (name ++ ' ' :: ("from ".toList ++ (Json.quote target ++ (";\n".toList ++ rest)))) := by
    simp
  rw [importLine?, whole, Text.after?_append, Option.bind_eq_bind, Option.bind_some,
    Text.cutAt?_append_mark unmarked, Option.bind_eq_bind, Option.bind_some]
  dsimp only
  rw [Text.after?_append, Option.bind_some, literal?_quote, Option.bind_some]
  dsimp only
  rw [Text.after?_append]
  rfl

theorem opening?_module (rest : Text) :
    opening? ("export default \x7b\n".toList ++ rest) = some (.module, rest) := by
  rw [opening?, Text.after?_append]

theorem opening?_commonJs (rest : Text) :
    opening? ("module.exports = \x7b\n".toList ++ rest) = some (.commonJs, rest) := by
  have other : Text.after? "export default \x7b\n".toList ("module.exports = \x7b\n".toList ++ rest) = none := rfl
  rw [opening?, other, Text.after?_append]
  rfl

theorem held?_imported {name : Text} (unmarked : ',' ∉ name) (other : name.head? ≠ some 'r') (filled : name ≠ [])
    (rest : Text) : held? (name ++ ",\n".toList ++ rest) = some (.imported name, rest) := by
  obtain ⟨c, name, rfl⟩ := List.exists_cons_of_ne_nil filled
  have apart : Text.after? "require(".toList (c :: name ++ ",\n".toList ++ rest) = none := by
    have differ : c ≠ 'r' := by simpa using other
    exact if_neg (fun same => differ (beq_iff_eq.1 same).symm)
  have whole : c :: name ++ ",\n".toList ++ rest = c :: name ++ ',' :: (['\n'] ++ rest) := by simp
  rw [held?, apart]
  dsimp only
  rw [whole, Text.cutAt?_append_mark unmarked, Option.bind_eq_bind, Option.bind_some]
  dsimp only
  rw [Text.after?_append]
  rfl

theorem held?_required (target rest : Text) :
    held? ("require(".toList ++ Json.quote target ++ [')'] ++ ",\n".toList ++ rest) =
      some (.required target, rest) := by
  have whole : "require(".toList ++ Json.quote target ++ [')'] ++ ",\n".toList ++ rest =
      "require(".toList ++ (Json.quote target ++ ("),\n".toList ++ rest)) := by simp
  rw [held?, whole, Text.after?_append]
  dsimp only
  rw [literal?_quote, Option.bind_eq_bind, Option.bind_some]
  dsimp only
  rw [Text.after?_append]
  rfl

theorem memberLine?_append {value : Text} {held : Held} (key : Text)
    (holds : ∀ rest, held? (value ++ ",\n".toList ++ rest) = some (held, rest)) (rest : Text) :
    memberLine? (VirtualModule.memberLine key value ++ rest) = some ((key, held), rest) := by
  have whole : VirtualModule.memberLine key value ++ rest =
      ['\t'] ++ (Json.quote key ++ (": ".toList ++ (value ++ ",\n".toList ++ rest))) := by
    simp [VirtualModule.memberLine]
  rw [memberLine?, whole, Text.after?_append, Option.bind_eq_bind, Option.bind_some, literal?_quote,
    Option.bind_eq_bind, Option.bind_some]
  dsimp only
  rw [Text.after?_append, Option.bind_eq_bind, Option.bind_some, holds]
  rfl

theorem lines_of_eq_none {α : Type} {line? : Text → Option (α × Text)} {s : Text} (stops : line? s = none)
    (fuel : Nat) : lines line? fuel s = ([], s) := by
  cases fuel with
  | zero => rfl
  | succ fuel => rw [lines, stops]

/-- Lines that are read one by one are read together, up to what is no line of theirs. -/
theorem lines_mapIdx {α β : Type} {line? : Text → Option (α × Text)} {write : Nat → β → Text} {read : Nat → β → α}
    (each : ∀ i b rest, line? (write i b ++ rest) = some (read i b, rest)) (stops : line? rest = none)
    (items : List β) {fuel : Nat} (enough : ((items.mapIdx write).flatten ++ rest).length ≤ fuel) :
    lines line? fuel ((items.mapIdx write).flatten ++ rest) = (items.mapIdx read, rest) := by
  induction items generalizing write read fuel with
  | nil => exact lines_of_eq_none stops fuel
  | cons item items ih =>
    rw [List.mapIdx_cons, List.flatten_cons, List.append_assoc] at enough ⊢
    rw [List.mapIdx_cons]
    -- A line is not empty, since what follows the last one is none.
    have filled : write 0 item ≠ [] := fun nothing => by
      have found := each 0 item rest
      rw [nothing, List.nil_append, stops] at found
      exact nomatch found
    have positive := List.length_pos_of_ne_nil filled
    cases fuel with
    | zero =>
      rw [List.length_append] at enough
      omega
    | succ fuel =>
      rw [List.length_append] at enough
      rw [lines, each]
      dsimp only
      rw [ih (fun i => each (i + 1)) (by omega)]

theorem ofText?_eq_some {s rest body : Text} {kind : LoaderKind} {imports : List (Text × Text)}
    {members : List (Text × Held)} (imported : lines importLine? s.length s = (imports, rest))
    (opened : opening? rest = some (kind, body))
    (listed : lines memberLine? body.length body = (members, "\x7d;\n".toList)) :
    ofText? s = some ⟨kind, imports, members⟩ := by
  rw [ofText?, imported]
  dsimp only
  rw [opened, Option.bind_eq_bind, Option.bind_some]
  dsimp only
  rw [listed, if_pos rfl]

end Aggregate

end ModuleHooks
