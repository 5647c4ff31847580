import ModuleHooks.CommandLine.Arguments
import ModuleHooks.Version

/-!
The help texts: what a command is for, how it is called, and tables of commands, arguments and
options whose second columns are aligned.
-/
namespace ModuleHooks.CommandLine

/-- What a command is for. -/
def CommandName.about : CommandName → Text
  | .version => "Print version information".toList
  | .resolve => "Resolve a specifier the way the loader hooks would".toList
  | .load => "Load a file through the transform pipeline and print the result".toList
  | .aliases => "List workspace aliases and tsconfig paths mappings".toList
  | .config => "Print the discovered configuration".toList

/-- What the operand of a command is. -/
def CommandName.operandAbout : CommandName → Text
  | .resolve =>
    "The specifier (e.g., \"./utils\", \"~/src/app\", \"@t/ui\", \"./routes/*.ts\")".toList
  | .load => "File to load".toList
  | .version | .aliases | .config => []

namespace Help

def programAbout : Text := "Inspect how TypeScript-aware module hooks resolve and load".toList

/-- What the command is for that gives help. -/
def helpAbout : Text := "Print this message or the help of the given subcommand(s)".toList

/-- What an option is for, as the help about a topic says it. -/
def optionAbout (topic : HelpTopic) : OptionName → Text
  | .verbose => "Increase logging verbosity (-v for DEBUG, -vv for TRACE)".toList
  | .json => "Emit JSON formatted output (stable, machine-readable)".toList
  | .cwd => "Override the working directory".toList
  | .importer => "Importing file (defaults to <cwd>/index.ts)".toList
  | .asModule =>
    if topic = .command .load then "Load as a module instead of a commonjs script".toList
    else "Resolve as an \x60import\x60 instead of a \x60require\x60".toList
  | .asynchronous => "Use the asynchronous contract".toList
  | .condition => "Replace the default export conditions".toList
  | .help => "Print help".toList
  | .version => "Print version".toList

/-- How an option is written: its letter, or room for one, its word, and its value. -/
def optionForm (o : OptionName) : Text :=
  (match o.short? with
    | some c => '-' :: c :: ", ".toList
    | none => "    ".toList)
  ++ UsageFault.spelled o
  ++ (if o = .verbose then "...".toList else [])
  ++ (o.valueName?.map fun name => " <".toList ++ name ++ ['>']).getD []

def padTo (width : Nat) (s : Text) : Text := s ++ List.replicate (width - s.length) ' '

/-- A table under a heading. -/
def table (heading : Text) (rows : List (Text × Text)) : Text :=
  let width := rows.foldl (fun n (form, _) => max n form.length) 0
  heading ++ ":\n".toList ++ rows.flatMap fun (form, about) =>
    "  ".toList ++ padTo width form ++ "  ".toList ++ about ++ ['\n']

/-- Alternates the items of two lists. -/
def interleave {α : Type} : List α → List α → List α
  | [], bs => bs
  | a :: as, bs =>
    match bs with
    | [] => a :: as
    | b :: bs => a :: b :: interleave as bs

/-- The options that the help about a topic lists. Those of a command alternate with the shared
ones. -/
def listed : HelpTopic → List OptionName
  | .program => OptionName.shared ++ [.help, .version]
  | .command c => interleave c.options OptionName.shared ++ [.help]
  | .helpCommand => []

def optionTable (topic : HelpTopic) : Text :=
  table "Options".toList ((listed topic).map fun o => (optionForm o, optionAbout topic o))

/-- The table of commands. -/
def commandTable : Text :=
  table "Commands".toList <|
    (CommandName.all.map fun c => (c.label, c.about)) ++ [(CommandName.helpLabel, helpAbout)]

def usage (words : Text) : Text :=
  "Usage: ".toList ++ Version.program ++ ' ' :: words ++ "\n\n".toList

def operandForm (name : Text) : Text := '<' :: (name ++ ['>'])

/-- The help about a topic. -/
def text (topic : HelpTopic) : Text :=
  match topic with
  | .program =>
    programAbout ++ "\n\n".toList ++ usage "[OPTIONS] [COMMAND]".toList ++ commandTable ++ '\n' ::
      optionTable topic
  | .command c =>
    c.about ++ "\n\n".toList ++
    (match c.operandName? with
      | none => usage (c.label ++ " [OPTIONS]".toList)
      | some name =>
        usage (c.label ++ " [OPTIONS] ".toList ++ operandForm name)
        ++ table "Arguments".toList [(operandForm name, c.operandAbout)] ++ ['\n'])
    ++ optionTable topic
  | .helpCommand =>
    helpAbout ++ "\n\n".toList ++ usage "help [COMMAND]...".toList
    ++ table "Arguments".toList
        [("[COMMAND]...".toList, "Print help for the subcommand(s)".toList)]

end Help
end ModuleHooks.CommandLine
