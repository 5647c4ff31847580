import ModuleHooks.Domain.Direction
import ModuleHooks.Domain.Joining
import ModuleHooks.Domain.Mapping
import ModuleHooks.Domain.Punycode

/-!
Reading a domain name. Its characters are mapped and composed, then it is cut into labels; a label
that is written in ASCII for one beyond it is decoded and has to be what reading it again gives.
-/
namespace ModuleHooks.Domain

/-- The characters beyond the printable ones that are not allowed in ASCII: those that have a
meaning in a URL. -/
def forbidden : Text := "%#/:<>?@[\\]^|".toList

/-- Whether a character can stand in a label. -/
def canStand (c : Char) : Bool := !(c.toNat ≤ 0x20 || c.toNat == 0x7F || forbidden.contains c)

def isAscii (c : Char) : Bool := c.toNat < 0x80

/-- What a label starts with that stands for one beyond ASCII. -/
def encodedMark : Text := "xn--".toList

/-- The greatest number of characters behind the mark of an encoded label. -/
def encodedLimit : Nat := 2000

/-- The greatest number of characters in a label that has to be encoded. -/
def labelLimit : Nat := 1000

/-- Whether a label keeps the rules for labels. -/
def isLabel (label : Text) : Bool := !startsWithMark label && keepsJoining [] label

/-- Whether a label is short enough to be written in ASCII. -/
def canEncode (label : Text) : Bool := label.all isAscii || label.length ≤ labelLimit

/-- Whether a decoded label is in the form that reading a name gives. -/
def isSettled (label : Text) : Bool :=
  label.all (fun c => isKept c && canStand c && c != '.') && composed label == label

/-- The label that a piece of a name stands for. -/
def label? (piece : Text) : Option Text :=
  match Text.after? encodedMark piece with
  | none => if isLabel piece && canEncode piece then some piece else none
  | some code =>
    if piece.getLast? = some '-' ∨ encodedLimit < code.length ∨ !code.all isAscii then none
    else
      match Punycode.decode? code with
      | some label => if isSettled label && isLabel label then some label else none
      | none => none

/-- The labels of a name, if it is one. -/
def labels? (name : Text) : Option (List Text) := do
  let name := composed (← mapped? name)
  if !name.all canStand then none
  else
    let labels ← (Text.splitAt '.' name).mapM label?
    if keepDirection labels then return labels else none

end ModuleHooks.Domain
