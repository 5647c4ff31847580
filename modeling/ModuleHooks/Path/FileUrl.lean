import ModuleHooks.Domain.Address
import ModuleHooks.Domain.Name
import ModuleHooks.Path.Normal
import ModuleHooks.Text.Utf8

/-!
File URLs. A URL of scheme `file` with no host but this machine names a path: its segments with the
dot segments taken, then percent-decoded. Decoding comes last, so an encoded slash is part of a name
while an encoded dot still makes a dot segment. A path that starts in a drive needs no host, so it
hides the one that is written.
-/
namespace ModuleHooks.FileUrl

/-- Characters that a URL ignores wherever they stand. -/
def isIgnored (c : Char) : Bool := c == '\t' || c == '\n' || c == '\r'

def clean (s : Text) : Text := s.filter (!isIgnored ·)

/-- Characters that a URL ignores at its ends. -/
def isEdge (c : Char) : Bool := c.toNat ≤ 0x20

def trim (s : Text) : Text := ((s.dropWhile isEdge).reverse.dropWhile isEdge).reverse

def isSlash (c : Char) : Bool := c == '/' || c == '\\'

def isPathEnd (c : Char) : Bool := c == '?' || c == '#'

/-- What follows the scheme, when that is `file` in any case. -/
def afterScheme? (s : Text) : Option Text :=
  match Text.cutAt? ':' s with
  | some (scheme, rest) =>
    if Text.sameIgnoringCase (clean scheme) "file".toList then some rest else none
  | none => none

/-- What follows a slash, when the text starts with one. -/
def afterSlash? (s : Text) : Option Text :=
  match s.dropWhile isIgnored with
  | c :: rest => if isSlash c then some rest else none
  | [] => none

/-- The bytes of a text whose percent signs with two digits stand for a byte each. -/
def percentDecode : Text → List UInt8
  | '%' :: a :: b :: rest =>
    match Hexadecimal.digit? a, Hexadecimal.digit? b with
    | some x, some y => Utf8.byte (x * 16 + y) :: percentDecode rest
    | _, _ => Utf8.encodeChar '%' ++ percentDecode (a :: b :: rest)
  | c :: rest => Utf8.encodeChar c ++ percentDecode rest
  | [] => []

/-- A letter and a colon or a bar: the name of a drive. -/
def isDrive : Text → Bool
  | [c, m] => c.isAlpha && (m == ':' || m == '|')
  | _ => false

/-- Whose files a URL names. -/
inductive Owner
  | thisMachine
  | other
deriving DecidableEq, Repr

def localName : Text := "localhost".toList

/-- The owner that a host stands for, if it is a host. -/
def owner? (host : Text) : Option Owner :=
  match host with
  | [] => some .thisMachine
  | '[' :: rest =>
    match Text.before? [']'] rest with
    | some groups => if Address.isEightGroups groups then some .other else none
    | none => none
  | host => do
    let labels ← Domain.labels? (← Utf8.decode? (percentDecode host))
    if labels = [[]] then none
    else if Address.endsInNumber labels && !Address.isFourBytes labels then none
    else if labels = [localName] then return .thisMachine
    else return .other

/-- The segments of a path text up to its end, cut at either slash. -/
def segments (s : Text) : List Text :=
  Text.splitAt '/' ((s.takeWhile (!isPathEnd ·)).map fun c => if c = '\\' then '/' else c)

/-- The number of dots in a segment of dots, which may be encoded. -/
def dots? : Text → Option Nat
  | [] => some 0
  | '.' :: rest => (dots? rest).map (· + 1)
  | '%' :: '2' :: e :: rest => if e = 'e' ∨ e = 'E' then (dots? rest).map (· + 1) else none
  | _ => none

/-- The segments taken so far. -/
structure Walk where
  /-- The segments, the last one first. -/
  taken : List Text := []
  /-- Whether the first of them is a drive. -/
  inDrive : Bool := false
deriving DecidableEq, Repr

/-- The drive and the name that a segment falls into, when an ignored character between the two
stands where only a slash may follow. -/
def driveAndName? (raw : Text) : Option (Text × Text) :=
  match raw.dropWhile isIgnored with
  | c :: rest =>
    match rest.dropWhile isIgnored with
    | ':' :: rest =>
      let name := clean rest
      if c.isAlpha && (rest.head?.map isIgnored).getD false && !name.isEmpty then
        some ([c, ':'], name)
      else none
    | _ => none
  | [] => none

namespace Walk

/-- Takes a segment: one dot adds nothing, two dots remove a segment unless it is a drive, and a
drive that comes first is written with a colon. -/
def take (w : Walk) (raw : Text) : Walk :=
  match if w.taken.isEmpty then driveAndName? raw else none with
  | some (drive, name) => { w with taken := [name, drive] }
  | none =>
    let segment := clean raw
    match dots? segment with
    | some 1 => w
    | some 2 =>
      match w.taken with
      | [] => w
      | last :: before => if isDrive last then w else { w with taken := before }
    | _ =>
      match w.taken, segment with
      | [], [c, _] =>
        if isDrive segment then { taken := [[c, ':']], inDrive := true }
        else { w with taken := [segment] }
      | taken, segment => { w with taken := segment :: taken }

/-- Takes the segments of a path text. A dot segment at the end leaves a slash behind it. -/
def ofText (s : Text) : Walk :=
  let all := segments s
  let w := all.foldl take {}
  match (all.getLast?.map clean).bind dots? with
  | some 1 | some 2 => { w with taken := [] :: w.taken }
  | _ => w

/-- The segments of the path, without empty ones at the start. -/
def names (w : Walk) : List Text :=
  match w.taken.reverse.dropWhile List.isEmpty with
  | [] => [[]]
  | names => names

end Walk

/-- The walk over the path behind two slashes. A drive is no host. Behind the name of this machine
the slash belongs to the path and opens a segment, so that what follows is not the first one; the
files of another machine are named only by a path that starts in a drive. -/
def walkFromHost? (s : Text) : Option Walk := do
  let host := s.takeWhile fun c => !isSlash c && !isPathEnd c
  let rest := s.drop host.length
  if isDrive (clean host) then return Walk.ofText s
  else
    match ← owner? (clean host) with
    | .thisMachine => return Walk.ofText rest
    | .other =>
      let w := Walk.ofText ((afterSlash? rest).getD rest)
      if w.inDrive then return w else none

/-- The walk over the path of a URL. -/
def walk? (url : Text) : Option Walk := do
  let rest ← afterScheme? (trim url)
  match afterSlash? rest with
  | none => return Walk.ofText rest
  | some path =>
    match afterSlash? path with
    | none => return Walk.ofText path
    | some host => walkFromHost? host

/-- A path that ends in a letter and a colon or a bar gets a slash, as drives end in one. -/
def closeDrive (bytes : List UInt8) : List UInt8 :=
  match bytes.reverse with
  | m :: c :: _ :: _ =>
    let letter := (65 ≤ c && c ≤ 90) || (97 ≤ c && c ≤ 122)
    if letter && (m == 58 || m == 124) then bytes ++ [47] else bytes
  | _ => bytes

/-- The bytes of the path that a file URL names. -/
def bytes? (url : Text) : Option (List UInt8) :=
  (walk? url).map fun w => closeDrive (w.names.flatMap fun s => 47 :: percentDecode s)

def path? (url : Text) : Option Path := (bytes? url).map fun bytes => ⟨Utf8.decodeLossy bytes⟩

/-- The normal path of bytes, each byte for itself until the names are known; where one of these is
no text, nothing is named but the root. -/
def lookupPath (bytes : List UInt8) : Path :=
  let names := Path.normalNames ⟨bytes.map fun b => Char.ofNat b.toNat⟩
  match names.mapM fun name => Utf8.decode? (name.map fun c => Utf8.byte c.toNat) with
  | some names => ⟨'/' :: Text.joinWith '/' names⟩
  | none => Path.rootDirectory

/-- The path under which a file URL is looked up. -/
def lookupPath? (url : Text) : Option Path := (bytes? url).map lookupPath

end ModuleHooks.FileUrl
