import ModuleHooks.Proofs.Json.Plain
import ModuleHooks.Text.Base64
import ModuleHooks.Transform.DynamicImport

/-!
The mappings of a source map, as a reader of the map decodes them. Lines stand between semicolons and the
segments of a line between commas. A segment has four numbers, each relative to the segment before, but
for the column in the code, which starts again with every line. A number is written in digits of six bits,
the lowest first: five bits of the number with one that says whether there are more. Its lowest bit is the
sign. The identity map decodes to one segment for each line (`decode?_identityMappings`), and is read back
from its text (`parse?_identityMap`).
-/
namespace ModuleHooks.SourceMap

/-- A place in the code, in a line that is known, and the place in a source that it comes from. All are
counted from zero. -/
structure Segment where
  column : Int
  source : Int
  line : Int
  sourceColumn : Int
deriving DecidableEq, Repr

/-- The number with its sign in the lowest bit. -/
def signed (n : Nat) : Int := if n % 2 = 0 then (n / 2 : Nat) else -(n / 2 : Nat)

/-- The numbers that digits spell; the digits of the first are worth `weight` and more, and are added to
`value`. -/
def numbers? (value weight : Nat) : List Nat → Option (List Int)
  | [] => if weight = 1 then some [] else none
  | d :: rest =>
    if d < 32 then (numbers? 0 1 rest).map (signed (value + d * weight) :: ·)
    else numbers? (value + d % 32 * weight) (weight * 32) rest

/-- The segment that a text spells behind another one in its line. -/
def segment? (before : Segment) (s : Text) : Option Segment :=
  match (s.mapM fun c => Base64.standardDigits.idxOf? c).bind (numbers? 0 1) with
  | some [column, source, line, sourceColumn] =>
    some ⟨before.column + column, before.source + source, before.line + line,
      before.sourceColumn + sourceColumn⟩
  | _ => none

/-- The segments of a line. -/
def segments? (before : Segment) : List Text → Option (List Segment)
  | [] => some []
  | s :: rest => do
    let segment ← segment? before s
    return segment :: (← segments? segment rest)

/-- The segments of lines. -/
def lines? (before : Segment) : List Text → Option (List (List Segment))
  | [] => some []
  | line :: rest => do
    let segments ← segments? { before with column := 0 }
      (if line.isEmpty then [] else Text.splitAt ',' line)
    return segments :: (← lines? ((segments.getLast?).getD before) rest)

/-- The segments of each line of the code. -/
def decode? (mappings : Text) : Option (List (List Segment)) :=
  lines? ⟨0, 0, 0, 0⟩ (Text.splitAt ';' mappings)

end ModuleHooks.SourceMap

namespace ModuleHooks.DynamicImport

open SourceMap

theorem identityMappings_eq (n : Nat) :
    identityMappings n = Text.joinWith ';' ("AAAA".toList :: List.replicate n "AACA".toList) := by
  have later (n : Nat) (first : Text) :
      first ++ (List.replicate n ";AACA".toList).flatten =
        Text.joinWith ';' (first :: List.replicate n "AACA".toList) := by
    induction n generalizing first with
    | zero => simp [Text.joinWith]
    | succ n ih =>
      rw [List.replicate_succ, List.replicate_succ, Text.joinWith_cons ';' first (by simp),
        ← ih "AACA".toList, List.flatten_cons]
      rfl
  exact later n _

/-- A line of one segment. -/
theorem lines?_cons {before segment : Segment} {line : Text} (single : Text.splitAt ',' line = [line])
    (some : line.isEmpty = false) (found : segment? { before with column := 0 } line = .some segment)
    (rest : List Text) :
    lines? before (line :: rest) = (lines? segment rest).map ([segment] :: ·) := by
  have whole : segments? { before with column := 0 } (if line.isEmpty then [] else Text.splitAt ',' line) =
      .some [segment] := by
    rw [some, single]
    simp [segments?, found]
  rw [lines?, whole]
  cases rest : lines? segment rest <;> simp [rest]

/-- Lines that go one further each, from a place at the start of a line. -/
theorem lines?_replicate (n k : Nat) :
    lines? ⟨0, 0, k, 0⟩ (List.replicate n "AACA".toList) =
      some ((List.range' (k + 1) n).map fun line : Nat => [⟨0, 0, line, 0⟩]) := by
  induction n generalizing k with
  | zero => rfl
  | succ n ih =>
    have numbers : (("AACA".toList).mapM fun c => Base64.standardDigits.idxOf? c).bind (numbers? 0 1) =
        some [0, 0, 1, 0] := by decide +kernel
    have segment : segment? ⟨0, 0, k, 0⟩ "AACA".toList = some ⟨0, 0, (k + 1 : Nat), 0⟩ := by
      rw [segment?, numbers]
      simp
    rw [List.replicate_succ, lines?_cons (by decide) (by decide) segment, ih (k + 1), List.range'_succ]
    rfl

/-- The identity has one segment for each line: its start is that of the same line of the source. -/
theorem decode?_identityMappings (n : Nat) :
    decode? (identityMappings n) =
      some ((List.range (n + 1)).map fun line : Nat => [⟨0, 0, line, 0⟩]) := by
  have unmarked : ∀ piece ∈ "AAAA".toList :: List.replicate n "AACA".toList, ';' ∉ piece := by
    refine List.forall_mem_cons.2 ⟨by decide, fun piece member => ?_⟩
    rw [List.eq_of_mem_replicate member]
    decide
  have first : segment? ⟨0, 0, 0, 0⟩ "AAAA".toList = some ⟨0, 0, (0 : Nat), 0⟩ := by decide +kernel
  rw [decode?, identityMappings_eq, Text.splitAt_joinWith (by simp) unmarked,
    lines?_cons (by decide) (by decide) first, lines?_replicate, List.range_eq_range', List.range'_succ]
  rfl

/-! ## Reading the map -/

/-- The characters of the mappings are letters and semicolons. -/
theorem isPlain_of_mem_identityMappings {n : Nat} {c : Char} (member : c ∈ identityMappings n) :
    Json.IsPlain c := by
  have plain : ∀ d ∈ ['A', ';', 'C'], Json.IsPlain d := by simp [Json.IsPlain]
  refine plain c ?_
  obtain first | later := List.mem_append.1 member
  · exact List.Subset.trans (by decide : "AAAA".toList ⊆ ['A']) (by decide) first
  · obtain ⟨line, copy, inside⟩ := List.mem_flatten.1 later
    rw [List.eq_of_mem_replicate copy] at inside
    exact (by decide : ";AACA".toList ⊆ ['A', ';', 'C']) inside

/-- The members of the identity map of code of `n + 1` lines: it has one source, without a name. -/
def identityMembers (n : Nat) : Members Json :=
  [("version".toList, .number (.whole 3)), ("sources".toList, .array [.string []]),
    ("names".toList, .array []), ("mappings".toList, .string (identityMappings n))]

/-- The tokens of the map. -/
def identityTokens (n : Nat) : List JsonToken :=
  [.openBrace, .string "version".toList, .colon, .number ⟨false, ['3'], [], false, [], true⟩, .comma,
    .string "sources".toList, .colon, .openBracket, .string [], .closeBracket, .comma,
    .string "names".toList, .colon, .openBracket, .closeBracket, .comma,
    .string "mappings".toList, .colon, .string (identityMappings n), .closeBrace]

theorem spells_identityMap (source : Text) :
    JsonToken.Spells (identityTokens (source.count '\n')) (identityMap source) := by
  have plain : ∀ c ∈ identityMappings (source.count '\n'), Json.IsPlain c :=
    fun _ => isPlain_of_mem_identityMappings
  have whole : identityMap source =
      "\x7b\"version\":3,\"sources\":[\"\"],\"names\":[],\"mappings\":\"".toList ++
        (identityMappings (source.count '\n') ++ ['"', '\x7d']) := by
    unfold identityMap
    simp only [Json.write, Json.writeMembers, Json.writeItems, Json.quote_plain plain]
    simp only [List.append_assoc, List.cons_append, List.nil_append]
    rfl
  have closed : JsonToken.Spells [.closeBrace] ['\x7d'] := .token (w := ['\x7d']) rfl .nil
  have mappings := Json.spells_plain plain closed
  rw [whole]
  exact .token (w := ['\x7b']) rfl <| .token (w := "\"version\"".toList) rfl <| .token (w := [':']) rfl <|
    .token (w := ['3']) rfl <| .token (w := [',']) rfl <| .token (w := "\"sources\"".toList) rfl <|
    .token (w := [':']) rfl <| .token (w := ['[']) rfl <| .token (w := ['"', '"']) rfl <|
    .token (w := [']']) rfl <| .token (w := [',']) rfl <| .token (w := "\"names\"".toList) rfl <|
    .token (w := [':']) rfl <| .token (w := ['[']) rfl <| .token (w := [']']) rfl <|
    .token (w := [',']) rfl <| .token (w := "\"mappings\"".toList) rfl <| .token (w := [':']) rfl mappings

theorem parse?_identityMap (source : Text) :
    Json.parse? (identityMap source) = some (.object (identityMembers (source.count '\n'))) := by
  have tokens := JsonToken.ofText?_eq_some.2 (spells_identityMap source)
  have document : JsonDocument.ofTokens? (identityTokens (source.count '\n')) = some (.object
      [("version".toList, .number ⟨false, ['3'], [], false, [], true⟩),
        ("sources".toList, .array [.string []]), ("names".toList, .array []),
        ("mappings".toList, .string (identityMappings (source.count '\n')))]) := by
    rfl
  have mappings := Json.unescape?_plain fun c => isPlain_of_mem_identityMappings (n := source.count '\n') (c := c)
  rw [Json.parse?, JsonDocument.ofText?, tokens, Option.bind_some, document, Option.bind_some]
  simp only [Json.ofDocument?, Json.ofMembers?, Json.ofDocuments?, mappings]
  rfl

end ModuleHooks.DynamicImport
