import ModuleHooks.Text.Blank

/-!
JSON with comments and trailing commas, brought to plain JSON in two passes over the text. Neither
pass touches a string literal, and line ends stay where they are.
-/
namespace ModuleHooks.Relaxed

mutual

/-- Drops comments from code. -/
def stripComments : Text → Text
  | [] => []
  | '"' :: rest => '"' :: insideString rest
  | '/' :: '/' :: rest => insideLineComment rest
  | '/' :: '*' :: rest => insideBlockComment rest
  | c :: rest => c :: stripComments rest

/-- Copies a string up to its closing quote. -/
def insideString : Text → Text
  | [] => []
  | '\\' :: c :: rest => '\\' :: c :: insideString rest
  | c :: rest => if c = '"' then c :: stripComments rest else c :: insideString rest

/-- Drops a comment up to the end of its line, which is kept. -/
def insideLineComment : Text → Text
  | [] => []
  | c :: rest => if c = '\n' then c :: stripComments rest else insideLineComment rest

/-- Drops a comment up to its end mark; the line ends in it are kept. -/
def insideBlockComment : Text → Text
  | [] => []
  | '*' :: '/' :: rest => stripComments rest
  | c :: rest => if c = '\n' then c :: insideBlockComment rest else insideBlockComment rest

end

/-- Whether the next character that is no blank closes an array or an object. -/
def closesNext (s : Text) : Bool :=
  match s.dropWhile isBlank with
  | c :: _ => c == ']' || c == '\x7d'
  | [] => false

mutual

/-- Drops each comma that only blanks part from a closing bracket or brace. -/
def dropTrailingCommas : Text → Text
  | [] => []
  | c :: rest =>
    if c = '"' then c :: keepString rest
    else if c = ',' ∧ closesNext rest then dropTrailingCommas rest
    else c :: dropTrailingCommas rest

/-- Copies a string up to its closing quote. -/
def keepString : Text → Text
  | [] => []
  | '\\' :: c :: rest => '\\' :: c :: keepString rest
  | c :: rest => if c = '"' then c :: dropTrailingCommas rest else c :: keepString rest

end

/-- The plain JSON of a text with comments and trailing commas. -/
def toPlain (s : Text) : Text := dropTrailingCommas (stripComments s)

end ModuleHooks.Relaxed
