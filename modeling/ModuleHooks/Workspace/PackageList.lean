import ModuleHooks.Text.Blank

/-!
The list of package patterns in a workspace description: the sequence under the key `packages`, one
indented item a line or all of them in brackets on one line. Everything else in the description is
passed over.
-/
namespace ModuleHooks.PackageList

def isSpacing (c : Char) : Bool := c == ' ' || c == '\t' || c == '\n' || c == '\r' || c == '\x0c'

/-- The line up to a comment; `fresh` says that a comment may start here. -/
def dropComment (fresh : Bool) : Text → Text
  | [] => []
  | c :: rest => if c = '#' && fresh then [] else c :: dropComment (isSpacing c) rest

def isQuote (c : Char) : Bool := c == '\'' || c == '"'

/-- The item without blanks around it and then without quotes around it. -/
def unquote (s : Text) : Text :=
  (((Text.trim s).dropWhile isQuote).reverse.dropWhile isQuote).reverse

def key : Text := "packages:".toList

/-- The items of a list in brackets. -/
def flowItems? (s : Text) : Option (List Text) := do
  let inside ← (Text.after? ['['] s).bind (Text.before? [']'])
  return ((Text.splitAt ',' inside).map unquote).filter (!·.isEmpty)

def isIndented (line : Text) : Bool := line.head? == some ' ' || line.head? == some '\t'

/-- What a line says: the items it holds, and whether the lines below it are items. -/
def readLine (inList : Bool) (line : Text) : List Text × Bool :=
  if (Text.trim line).isEmpty then ([], inList)
  else if isIndented line then
    match if inList then Text.after? ['-'] (Text.trim line) else none with
    | some item => ([unquote item].filter (!·.isEmpty), inList)
    | none => ([], inList)
  else
    match Text.after? key line with
    | none => ([], false)
    | some rest =>
      match flowItems? (Text.trim rest) with
      | some items => (items, false)
      | none => ([], (Text.trim rest).isEmpty)

/-- The items of the lines from here on. -/
def readLines (inList : Bool) : List Text → List Text
  | [] => []
  | line :: lines =>
    let (items, inList) := readLine inList (dropComment true line)
    items ++ readLines inList lines

def parse (source : Text) : List Text := readLines false (Text.lines source)

end ModuleHooks.PackageList
