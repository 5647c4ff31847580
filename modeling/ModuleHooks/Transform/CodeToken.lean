import ModuleHooks.Text.Blank
import ModuleHooks.Text.Letter

/-!
The tokens of module source code, told apart without a grammar: words, punctuation, and literals
whose inside is text. Code between the braces of a template is code again. Whether a slash begins a
regular expression is decided by the token before it.
-/
namespace ModuleHooks

/-- A token of source code. -/
inductive CodeToken
  | word (w : Text)
  /-- A number, a string, a regular expression, or the end of a template. -/
  | literal
  /-- The opening of code inside a template. -/
  | templateCode
  | mark (c : Char)
deriving DecidableEq, Repr

namespace CodeToken

/-- The words after which a slash begins a regular expression. -/
def regexWords : List Text :=
  ["await", "case", "delete", "do", "else", "in", "instanceof", "new", "of", "return", "throw",
    "typeof", "void", "yield"].map String.toList

/-- Whether a slash after the token begins a regular expression rather than divides. -/
def beforeRegex : CodeToken → Bool
  | word w => regexWords.contains w
  | literal => false
  | templateCode => true
  | mark c => c != ')' && c != ']'

def startsWord (c : Char) : Bool := isLetter c || c == '_' || c == '$'

def continuesWord (c : Char) : Bool := isLetterOrNumeral c || c == '_' || c == '$'

def continuesNumber (c : Char) : Bool := isLetterOrNumeral c || c == '.' || c == '_'

/-- What follows a comment to the end of the line, given what follows its slashes. -/
def afterLineComment (s : Text) : Text := s.dropWhile (· != '\n')

/-- What follows a block comment, given what follows its opening. -/
def afterBlockComment : Text → Text
  | '*' :: '/' :: rest => rest
  | _ :: rest => afterBlockComment rest
  | [] => []

/-- What follows a string, given what follows its opening quote. The end of the line ends it, unless
a backslash stands before. -/
def afterString (quote : Char) : Text → Text
  | '\\' :: _ :: rest => afterString quote rest
  | c :: rest =>
    if c = '\\' then []
    else if c = '\n' then c :: rest
    else if c = quote then rest
    else afterString quote rest
  | [] => []

/-- What follows the body of a regular expression, given what follows its opening slash. A slash
inside a class does not end it, the end of the line does. -/
def afterRegexBody (inClass : Bool) : Text → Text
  | '\\' :: _ :: rest => afterRegexBody inClass rest
  | c :: rest =>
    if c = '\\' then []
    else if c = '\n' then c :: rest
    else if c = '[' then afterRegexBody true rest
    else if c = ']' then afterRegexBody false rest
    else if c = '/' && !inClass then rest
    else afterRegexBody inClass rest
  | [] => []

/-- What follows a regular expression and its flags. -/
def afterRegex (s : Text) : Text := (afterRegexBody false s).dropWhile continuesWord

/-- How the text of a template ends: at its closing mark, at code, or with the source. -/
inductive TemplateEnd
  | closed (rest : Text)
  | code (rest : Text)
  | unfinished

/-- How the text of a template ends. -/
def templateEnd : Text → TemplateEnd
  | '\\' :: _ :: rest => templateEnd rest
  | '$' :: '\x7b' :: rest => .code rest
  | c :: rest =>
    if c = '\x60' then .closed rest
    else if c = '\\' then .unfinished
    else templateEnd rest
  | [] => .unfinished

/-- A token, the braces open in each template around what follows, and what follows. -/
structure Step where
  token : Option CodeToken
  templates : List Nat
  rest : Text

/-- The step at the end of a piece of template text. -/
def templateStep (templates : List Nat) (s : Text) : Step :=
  match templateEnd s with
  | .closed rest => ⟨some .literal, templates, rest⟩
  | .code rest => ⟨some .templateCode, 0 :: templates, rest⟩
  | .unfinished => ⟨none, templates, []⟩

/-- The step at a closing brace: it ends the code in a template, if no brace is open in it. -/
def closeBrace (templates : List Nat) (rest : Text) : Step :=
  match templates with
  | 0 :: outer => templateStep outer rest
  | (n + 1) :: outer => ⟨some (.mark '\x7d'), n :: outer, rest⟩
  | [] => ⟨some (.mark '\x7d'), [], rest⟩

/-- An opening brace counts in the innermost template. -/
def openBrace : List Nat → List Nat
  | n :: outer => (n + 1) :: outer
  | [] => []

/-- The step at the first character; `regex` says that a slash begins a regular expression here. -/
def step (regex : Bool) (templates : List Nat) (c : Char) (rest : Text) : Step :=
  if isBlank c then ⟨none, templates, rest⟩
  else if c = '/' ∧ rest.head? = some '/' then ⟨none, templates, afterLineComment rest⟩
  else if c = '/' ∧ rest.head? = some '*' then ⟨none, templates, afterBlockComment rest.tail⟩
  else if c = '/' ∧ regex then ⟨some .literal, templates, afterRegex rest⟩
  else if c = '"' ∨ c = '\'' then ⟨some .literal, templates, afterString c rest⟩
  else if c = '\x60' then templateStep templates rest
  else if c = '\x7b' then ⟨some (.mark c), openBrace templates, rest⟩
  else if c = '\x7d' then closeBrace templates rest
  else if startsWord c then
    ⟨some (.word (c :: rest.takeWhile continuesWord)), templates, rest.dropWhile continuesWord⟩
  else if c.isDigit then ⟨some .literal, templates, rest.dropWhile continuesNumber⟩
  else ⟨some (.mark c), templates, rest⟩

/-- The tokens of a source with the positions at which they start, from a given position on; `fuel`
bounds the number of steps. -/
def scan : Nat → Nat → Bool → List Nat → Text → List (Nat × CodeToken)
  | fuel + 1, pos, regex, templates, c :: rest =>
    let next := step regex templates c rest
    let after := pos + (rest.length + 1 - next.rest.length)
    match next.token with
    | none => scan fuel after regex next.templates next.rest
    | some token => (pos, token) :: scan fuel after token.beforeRegex next.templates next.rest
  | _, _, _, _, _ => []

/-- The tokens of a source with the positions at which they start. -/
def tokens (source : Text) : List (Nat × CodeToken) := scan source.length 0 true [] source

end CodeToken
end ModuleHooks
