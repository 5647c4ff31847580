import ModuleHooks.Json.Writer
import ModuleHooks.Transform.CodeToken

/-!
Dynamic imports. Code that calls `import` for a module compiled to the other format gets a namespace
with nothing but a default export; every such call is given a continuation that takes the exports
out of it. The rest of the code stays as it is, line for line.
-/
namespace ModuleHooks

/-- Code with a source map for it, where there is one. -/
structure TransformOutput where
  code : Text
  map : Option Text := none
deriving DecidableEq, Repr

namespace DynamicImport

/-- What is put behind every dynamic import. -/
def continuation : Text :=
  ".then((mod)=>\x7bconst exports=Object.keys(mod);".toList
    ++ "if(exports.length===1&&exports[0]==='default'&&mod.default&&mod.default.__esModule)".toList
    ++ "\x7breturn mod.default\x7dreturn mod\x7d)".toList

def importWord : Text := "import".toList

/-- How far matching brackets has come: whether the last token is the word of a call, whether it is
a dot, and for each open bracket whether it opens the arguments of a call, the innermost first. -/
structure Matching where
  pending : Bool := false
  afterDot : Bool := false
  brackets : List Bool := []

/-- The matching after a token, and whether the token closes the arguments of a call. -/
def Matching.next (m : Matching) : CodeToken → Matching × Bool
  | .word w => (⟨w = importWord && !m.afterDot, false, m.brackets⟩, false)
  | .mark '(' => (⟨false, false, m.pending :: m.brackets⟩, false)
  | .mark ')' => (⟨false, false, m.brackets.tail⟩, m.brackets.head? = some true)
  | .mark c => (⟨false, c = '.', m.brackets⟩, false)
  | .literal | .templateCode => (⟨false, false, m.brackets⟩, false)

/-- The positions of the brackets that close the arguments of a call, in order. -/
def closings : Matching → List (Nat × CodeToken) → List Nat
  | _, [] => []
  | m, (pos, token) :: rest =>
    let (m, closes) := m.next token
    if closes then pos :: closings m rest else closings m rest

/-- The positions in a source of the brackets that close a dynamic import. -/
def callEnds (source : Text) : List Nat := closings {} (CodeToken.tokens source)

/-- The source from position `pos` on with a text put in behind each of the positions, which are in
order. -/
def insertAfter (inserted : Text) : Nat → List Nat → Text → Text
  | _, _, [] => []
  | pos, ends, c :: rest =>
    match ends with
    | e :: later =>
      if e = pos then c :: (inserted ++ insertAfter inserted (pos + 1) later rest)
      else c :: insertAfter inserted (pos + 1) ends rest
    | [] => c :: rest

/-- The mappings of a source of `n + 1` lines to itself, line by line. -/
def identityMappings (n : Nat) : Text :=
  "AAAA".toList ++ (List.replicate n ";AACA".toList).flatten

/-- The map of code whose lines are the lines of its source. -/
def identityMap (source : Text) : Text :=
  Json.write <| .object
    [("version".toList, .number (.whole 3)), ("sources".toList, .array [.string []]),
      ("names".toList, .array []),
      ("mappings".toList, .string (identityMappings (source.count '\n')))]

/-- The source with a continuation behind every dynamic import; `none` if there is none. -/
def continued? (source : Text) : Option TransformOutput :=
  if Text.hasInfix importWord source then
    match callEnds source with
    | [] => none
    | ends => some ⟨insertAfter continuation 0 ends source, some (identityMap source)⟩
  else none

end DynamicImport
end ModuleHooks
