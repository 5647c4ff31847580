import ModuleHooks.Module.Format

/-!
The arguments of the program. They are first told apart by their form, options with their values and
operands, and then read from the left: first those of the program, then those of the command that an
operand names. Asking for help or for the version ends the reading, and so does a fault; whichever
comes first counts.
-/
namespace ModuleHooks.CommandLine

/-- The name of a command. -/
inductive CommandName
  | version
  | resolve
  | load
  | aliases
  | config
deriving DecidableEq, Repr

/-- The name of an option. -/
inductive OptionName
  | verbose
  | json
  | cwd
  | importer
  | asModule
  | asynchronous
  | condition
  | help
  | version
deriving DecidableEq, Repr

namespace CommandName

/-- The commands in the order in which they are presented. -/
def all : List CommandName := [version, resolve, load, aliases, config]

/-- The word for a command. -/
def label : CommandName → Text
  | version => "version".toList
  | resolve => "resolve".toList
  | load => "load".toList
  | aliases => "aliases".toList
  | config => "config".toList

def ofLabel? (s : Text) : Option CommandName := all.find? (·.label == s)

/-- The word that asks for help about a command. -/
def helpLabel : Text := "help".toList

/-- The name of the operand, for a command that needs one. -/
def operandName? : CommandName → Option Text
  | resolve => some "SPECIFIER".toList
  | load => some "PATH".toList
  | version | aliases | config => none

/-- The options that belong to a command alone, in order. -/
def options : CommandName → List OptionName
  | resolve => [.importer, .asModule, .asynchronous, .condition]
  | load => [.asModule]
  | version | aliases | config => []

end CommandName

namespace OptionName

/-- The options. -/
def all : List OptionName :=
  [verbose, json, cwd, importer, asModule, asynchronous, condition, help, version]

/-- The options that may stand before and behind the command, in order. -/
def shared : List OptionName := [verbose, json, cwd]

/-- The word of an option. -/
def long : OptionName → Text
  | verbose => "verbose".toList
  | json => "json".toList
  | cwd => "cwd".toList
  | importer => "from".toList
  | asModule => "import".toList
  | asynchronous => "async".toList
  | condition => "condition".toList
  | help => "help".toList
  | version => "version".toList

/-- The letter of an option that has one. -/
def short? : OptionName → Option Char
  | verbose => some 'v'
  | help => some 'h'
  | version => some 'V'
  | _ => none

/-- The name of the value, for an option that takes one. -/
def valueName? : OptionName → Option Text
  | cwd => some "PATH".toList
  | importer => some "FILE".toList
  | condition => some "NAME".toList
  | _ => none

def ofLong? (s : Text) : Option OptionName := all.find? (·.long == s)

def ofShort? (c : Char) : Option OptionName := all.find? (·.short? == some c)

/-- Whether the option may be given more than once. -/
def isRepeatable : OptionName → Bool
  | verbose | condition => true
  | _ => false

/-- Whether the value names a file, and so cannot be empty. -/
def isPath : OptionName → Bool
  | cwd | importer => true
  | _ => false

end OptionName

/-- What is wrong with the arguments. -/
inductive UsageFault
  | unknownOption (s : Text)
  | unknownCommand (s : Text)
  | unexpectedOperand (s : Text)
  | missingOperand (name : Text)
  | missingValue (o : OptionName)
  | unneededValue (o : OptionName)
  | repeated (o : OptionName)
  | emptyPath
deriving DecidableEq, Repr

namespace UsageFault

def spelled (o : OptionName) : Text := '-' :: '-' :: o.long

/-- The fault in words. -/
def message : UsageFault → Text
  | unknownOption s => "unexpected argument '".toList ++ s ++ "' found".toList
  | unknownCommand s => "unrecognized subcommand '".toList ++ s ++ "'".toList
  | unexpectedOperand s => "unexpected argument '".toList ++ s ++ "' found".toList
  | missingOperand name => "the required argument <".toList ++ name ++ "> was not provided".toList
  | missingValue o => "a value is required for '".toList ++ spelled o ++ "'".toList
  | unneededValue o => "no value was expected for '".toList ++ spelled o ++ "'".toList
  | repeated o => "the argument '".toList ++ spelled o ++ "' cannot be used multiple times".toList
  | emptyPath => "a path cannot be empty".toList

end UsageFault

/-- What help is given about. -/
inductive HelpTopic
  | program
  | command (c : CommandName)
  /-- The command that gives help. -/
  | helpCommand
deriving DecidableEq, Repr

/-- What ends the reading of arguments early. -/
inductive Stop
  | help (topic : HelpTopic)
  | version
  | fault (f : UsageFault)
deriving DecidableEq, Repr

/-- An argument by its form. The value of an option that takes none is empty. -/
inductive Token
  | option (o : OptionName) (value : Text)
  /-- An operand, and whether it stands where every argument is one. -/
  | operand (s : Text) (plain : Bool)
  /-- The double dash from which on every argument is an operand. -/
  | divider
  | fault (f : UsageFault)
deriving DecidableEq, Repr

namespace Token

/-- Whether an argument can be the value of the option before it. -/
def isValue (s : Text) : Bool := s.head? != some '-' || s == ['-']

/-- The option of a letter in a group. -/
def ofLetter (c : Char) : Token :=
  match OptionName.ofShort? c with
  | some o => .option o []
  | none => .fault (.unknownOption ['-', c])

/-- An option with a value in the same argument. -/
def ofAttached (word value : Text) : Token :=
  match OptionName.ofLong? word with
  | none => .fault (.unknownOption ('-' :: '-' :: word))
  | some o => if o.valueName?.isSome then .option o value else .fault (.unneededValue o)

/-- The tokens of arguments, given the option, if any, that waits for its value. -/
def ofArguments : Option OptionName → List Text → List Token
  | none, [] => []
  | some o, [] => [.fault (.missingValue o)]
  | some o, s :: rest =>
    if isValue s then .option o s :: ofArguments none rest else [.fault (.missingValue o)]
  | none, s :: rest =>
    match s with
    | ['-', '-'] => .divider :: rest.map (.operand · true)
    | '-' :: '-' :: word =>
      match Text.cutAt? '=' word, OptionName.ofLong? word with
      | some (word, value), _ => ofAttached word value :: ofArguments none rest
      | none, none => [.fault (.unknownOption s)]
      | none, some o =>
        if o.valueName?.isSome then ofArguments (some o) rest
        else .option o [] :: ofArguments none rest
    | '-' :: c :: letters => (c :: letters).map ofLetter ++ ofArguments none rest
    | _ => .operand s false :: ofArguments none rest

end Token

/-- What is given at one level: options, the last first, and the operand. -/
structure Given where
  options : List (OptionName × Text) := []
  operand : Option Text := none
deriving DecidableEq, Repr

namespace Given

def has (g : Given) (o : OptionName) : Bool := g.options.any (·.1 == o)

def value? (g : Given) (o : OptionName) : Option Text := g.options.lookup o

/-- The values of an option in the order in which they are given. -/
def values (g : Given) (o : OptionName) : List Text :=
  (g.options.reverse.filter (·.1 == o)).map (·.2)

/-- Takes an option that is known at this level. -/
def takeOption (topic : HelpTopic) (known : List OptionName) (g : Given) (o : OptionName)
    (value : Text) : Except Stop Given :=
  if o = .help then .error (.help topic)
  else if !known.contains o then .error (.fault (.unknownOption (UsageFault.spelled o)))
  else if o = .version then .error .version
  else if g.has o && !o.isRepeatable then .error (.fault (.repeated o))
  else if o.isPath && value.isEmpty then .error (.fault .emptyPath)
  else .ok { g with options := (o, value) :: g.options }

/-- Takes an operand of a command that needs one. -/
def takeOperand (c : CommandName) (g : Given) (s : Text) : Except Stop Given :=
  if c.operandName?.isNone || g.operand.isSome then .error (.fault (.unexpectedOperand s))
  else if c = .load && s.isEmpty then .error (.fault .emptyPath)
  else .ok { g with operand := some s }

end Given

/-- Reads what stands behind a command. -/
def readCommand (c : CommandName) : Given → List Token → Except Stop Given
  | g, [] =>
    match c.operandName?, g.operand with
    | some name, none => .error (.fault (.missingOperand name))
    | _, _ => .ok g
  | g, token :: rest => do
    let taken ← match token with
      | .fault f => .error (.fault f)
      | .divider => .ok g
      | .operand s _ => g.takeOperand c s
      | .option o value => g.takeOption (.command c) (OptionName.shared ++ c.options) o value
    readCommand c taken rest

/-- What help is asked about by the words behind the word for help. Nothing but the name of a
command may stand there, not even a double dash. -/
def helpTopic : List Token → Stop
  | [] => .help .program
  | [.operand s false] =>
    match CommandName.ofLabel? s with
    | some c => .help (.command c)
    | none =>
      if s = CommandName.helpLabel then .help .helpCommand else .fault (.unknownCommand s)
  | _ => .fault (.unknownCommand [])

/-- Reads all arguments: what is given to the program, and the command with what is given to it. -/
def readProgram : Given → List Token → Except Stop (Given × Option (CommandName × Given))
  | g, [] => .ok (g, none)
  | _, .fault f :: _ => .error (.fault f)
  | g, .divider :: rest => readProgram g rest
  | g, .option o value :: rest => do
    readProgram (← g.takeOption .program (OptionName.shared ++ [.version]) o value) rest
  | g, .operand s plain :: rest =>
    if plain then .error (.fault (.unexpectedOperand s))
    else if s = CommandName.helpLabel then .error (helpTopic rest)
    else
      match CommandName.ofLabel? s with
      | none => .error (.fault (.unknownCommand s))
      | some c => (readCommand c {} rest).map fun inner => (g, some (c, inner))

/-- What is to be done. -/
inductive Command
  | version
  | resolve (specifier : Text) (importer : Option Text) (kind : LoaderKind) (conditions : List Text)
  | load (path : Text) (kind : LoaderKind)
  | aliases
  | config
deriving DecidableEq, Repr

/-- A call of the program. -/
structure Invocation where
  command : Command := .version
  /-- Whether the output is for machines. -/
  asJson : Bool := false
  /-- The working directory, where another one is asked for. -/
  directory : Option Text := none
deriving DecidableEq, Repr

namespace Given

/-- The loader that is asked for. -/
def kind (g : Given) : LoaderKind := if g.has .asModule then .module else .commonJs

/-- The command with what is given to it. Resolution answers the same under either contract, so the
option that chooses one decides nothing. -/
def command (g : Given) : CommandName → Command
  | .version => .version
  | .resolve =>
    .resolve (g.operand.getD []) (g.value? .importer) g.kind (g.values .condition)
  | .load => .load (g.operand.getD []) g.kind
  | .aliases => .aliases
  | .config => .config

end Given

/-- The call that arguments spell. A shared option behind the command goes before one in front of
it; without a command the version is printed. -/
def Invocation.parse (arguments : List Text) : Except Stop Invocation := do
  let (outer, command) ← readProgram {} (Token.ofArguments none arguments)
  match command with
  | none => return { asJson := outer.has .json, directory := outer.value? .cwd }
  | some (name, inner) =>
    return {
      command := inner.command name
      asJson := inner.has .json || outer.has .json
      directory := (inner.value? .cwd).or (outer.value? .cwd) }

end ModuleHooks.CommandLine
