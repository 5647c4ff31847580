import ModuleHooks.Text.Hexadecimal

/-!
Tables of code points that are packed into words. A word is a code point or a range of them in base
sixteen, and what the table has to say of it may follow behind a colon.
-/
namespace ModuleHooks.Packed

def words (lines : List String) : List Text :=
  lines.flatMap fun line => Text.splitAt ' ' line.toList

/-- The range that a word spells. -/
def range (word : Text) : Nat × Nat :=
  match Text.cutAt? '-' word with
  | some (low, high) => (Hexadecimal.number low, Hexadecimal.number high)
  | none => (Hexadecimal.number word, Hexadecimal.number word)

def ranges (lines : List String) : List (Nat × Nat) := (words lines).map range

def holds (ranges : List (Nat × Nat)) (c : Char) : Bool :=
  ranges.any fun (low, high) => low ≤ c.toNat && c.toNat ≤ high

/-- The ranges of a table with what stands behind each. -/
def entries (lines : List String) : List ((Nat × Nat) × Text) :=
  (words lines).filterMap fun word =>
    (Text.cutAt? ':' word).map fun (place, value) => (range place, value)

/-- The value of the range that holds the character. -/
def value? {α : Type} (entries : List ((Nat × Nat) × α)) (c : Char) : Option α :=
  (entries.find? fun ((low, high), _) => low ≤ c.toNat && c.toNat ≤ high).map (·.2)

/-- The characters whose code points are joined by plus signs. -/
def characters (s : Text) : Text :=
  (Text.splitAt '+' s).map fun piece => Char.ofNat (Hexadecimal.number piece)

/-- The rows of a table: a code point, and the texts of it and those after it. -/
def rows (lines : List String) : List (Nat × List Text) :=
  (entries lines).map fun ((first, _), s) => (first, (Text.splitAt ',' s).map characters)

/-- The text of a character in the row that has one. -/
def text? (rows : List (Nat × List Text)) (c : Char) : Option Text :=
  rows.findSome? fun (first, texts) =>
    if first ≤ c.toNat then texts[c.toNat - first]? else none

end ModuleHooks.Packed
