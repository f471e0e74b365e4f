/-!
Command lines: options, flags and positional values, level by level.

A level ends at the name of a subcommand, which starts the next one. Options may stand between the
other arguments, as `--name value` or `--name=value`, and two dashes end them. What starts with a
dash is no value, unless the next positional value may be a negative number and it looks like one.
-/

namespace YangTypes.Command

/-- What one level of a command line takes. -/
structure Level where
  /-- The options, which take a value. -/
  options : List String
  /-- The options without a value. -/
  flags : List String
  /-- The positional values; whether each may be a negative number. -/
  positionals : List Bool
  subcommands : List String

/-- What one level of a command line says. -/
structure Arguments where
  options : List (String × String)
  flags : List String
  positionals : List String

namespace Arguments

/-- A level that says nothing. -/
def none : Arguments := ⟨[], [], []⟩

/-- The value of an option. -/
def option? (args : Arguments) (name : String) : Option String := args.options.lookup name

/-- Whether a flag is given. -/
def flag (args : Arguments) (name : String) : Bool := args.flags.contains name

/-- Gives an option a value, once. -/
def setOption? (args : Arguments) (name value : String) : Option Arguments :=
  if (args.option? name).isSome then .none
  else some { args with options := args.options ++ [(name, value)] }

/-- Gives a flag, once. -/
def setFlag? (args : Arguments) (name : String) : Option Arguments :=
  if args.flag name then .none else some { args with flags := args.flags ++ [name] }

end Arguments

/-- Whether characters are digits with at most one point and one exponent, in this order. The first
and the last character are no exponent mark, and the first one is no point. -/
def looksLikeNumber (cs : List Char) : Bool :=
  let mantissa := cs.takeWhile (· != 'e')
  let exponent := cs.dropWhile (· != 'e')
  mantissa.all (fun c => c.isDigit || c == '.') && mantissa.count '.' ≤ 1 &&
    mantissa.head? != some '.' &&
    match exponent with
    | [] => true
    | _ :: digits => !mantissa.isEmpty && !digits.isEmpty && digits.all Char.isDigit

/-- How an argument can be taken. -/
inductive Token where
  /-- Two dashes. -/
  | endOfOptions
  /-- An option, perhaps with a value after an equals sign. -/
  | long (name : String) (value : Option String)
  /-- One dash and something after it. -/
  | short (rest : List Char)
  | plain

/-- Splits an option at its equals sign. -/
def longToken (cs : List Char) : Token :=
  let name := String.ofList (cs.takeWhile (· != '='))
  match cs.dropWhile (· != '=') with
  | [] => .long name none
  | _ :: value => .long name (some (String.ofList value))

/-- How an argument can be taken. -/
def Token.ofArgument (argument : String) : Token :=
  match argument.toList with
  | ['-', '-'] => .endOfOptions
  | '-' :: '-' :: rest => longToken rest
  | '-' :: c :: rest => .short (c :: rest)
  | _ => .plain

namespace Level

/-- Takes a positional value. -/
def addPositional? (level : Level) (args : Arguments) (value : String) : Option Arguments :=
  if args.positionals.length < level.positionals.length then
    some { args with positionals := args.positionals ++ [value] }
  else none

/-- Whether the next positional value may be a negative number. -/
def takesNegative (level : Level) (args : Arguments) : Bool :=
  (level.positionals[args.positionals.length]?).getD false

/-- Takes a value: for the option that waits for one, or in its place. -/
def takeValue? (level : Level) (args : Arguments) (waiting : Option String) (value : String) :
    Option Arguments :=
  match waiting with
  | some name => args.setOption? name value
  | none => level.addPositional? args value

/-- Takes the values after the options have ended. -/
def parsePositionals? (level : Level) (args : Arguments) : List String → Option Arguments
  | [] => some args
  | value :: rest => do level.parsePositionals? (← level.addPositional? args value) rest

/-- Reads one level: what it says, and the subcommand with the arguments after it. An option may
wait for its value. -/
def parse? (level : Level) (args : Arguments) (waiting : Option String) :
    List String → Option (Arguments × Option (String × List String))
  | [] => if waiting.isSome then none else some (args, none)
  | argument :: rest =>
    if waiting.isNone && level.subcommands.contains argument then some (args, some (argument, rest))
    else
      match Token.ofArgument argument with
      | .endOfOptions =>
        if waiting.isSome then none
        else (level.parsePositionals? args rest).map fun args => (args, none)
      | .long name value =>
        if waiting.isSome then none
        else if level.options.contains name then
          match value with
          | none => level.parse? args (some name) rest
          | some value => (args.setOption? name value).bind fun args => level.parse? args none rest
        else if level.flags.contains name && value.isNone then
          (args.setFlag? name).bind fun args => level.parse? args none rest
        else none
      | .short text =>
        if level.takesNegative args && looksLikeNumber text then
          (level.takeValue? args waiting argument).bind fun args => level.parse? args none rest
        else none
      | .plain =>
        (level.takeValue? args waiting argument).bind fun args => level.parse? args none rest

end Level

end YangTypes.Command
