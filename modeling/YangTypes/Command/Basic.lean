import YangTypes.Command.Line
import YangTypes.Text.Literal

/-!
The commands and how they are given on a command line.
-/

namespace YangTypes

/-- A command. -/
inductive Command where
  /-- Prints a decimal, perhaps rescaled. -/
  | decimal (value : String) (scale : Option Nat) (rounding : String) (json : Bool)
  /-- Prints an unsigned integer of a width. -/
  | unsigned (width : Nat) (value : String) (radix : Nat) (saturate json : Bool)
  /-- Prints the wire form of a value. -/
  | encode (type value : String)
  /-- Prints the value of a wire form. -/
  | decode (hex : String) (json : Bool)
  /-- Derives the typedefs of a document, and prints them or checks a value. -/
  | typedef (input : Option String) (strict : Bool) (name check : Option String) (json : Bool)
deriving DecidableEq, Repr

namespace Command

/-- The option of every level. -/
def logLevel : String := "log-level"

/-- The first level. -/
def topLevel : Level := ⟨[logLevel], [], [], ["decimal", "uint", "wire", "typedef"]⟩

/-- The level of decimals. -/
def decimalLevel : Level := ⟨[logLevel, "scale", "rounding"], ["json"], [true], []⟩

/-- The level of unsigned integers. -/
def unsignedLevel : Level := ⟨[logLevel, "radix"], ["saturate", "json"], [false, true], []⟩

/-- The level of wire forms. -/
def wireLevel : Level := ⟨[logLevel], [], [], ["encode", "decode"]⟩

/-- The level of encoding. -/
def encodeLevel : Level := ⟨[logLevel], [], [false, false], []⟩

/-- The level of decoding. -/
def decodeLevel : Level := ⟨[logLevel], ["json"], [false], []⟩

/-- The level of typedefs. -/
def typedefLevel : Level := ⟨[logLevel, "name", "check"], ["strict", "json"], [false], []⟩

/-- Reads a natural number up to a limit. -/
def readNat? (limit : Nat) (text : String) : Option Nat :=
  match Text.readInt? 10 text.toList with
  | some n => if 0 ≤ n ∧ n ≤ limit then some n.toNat else none
  | none => none

/-- Reads a number that is given as an option. -/
def optionNat? (args : Arguments) (name : String) (limit : Nat) : Option (Option Nat) :=
  match args.option? name with
  | none => some none
  | some text => (readNat? limit text).map some

/-- Reads the arguments of a level that has no subcommands. -/
def leaf? (level : Level) (arguments : List String) : Option Arguments :=
  (level.parse? .none none arguments).map Prod.fst

/-- Reads the arguments of `decimal`. -/
def parseDecimal? (arguments : List String) : Option Command := do
  let args ← leaf? decimalLevel arguments
  let scale ← optionNat? args "scale" 255
  match args.positionals with
  | [value] =>
    some (.decimal value scale ((args.option? "rounding").getD "unnecessary") (args.flag "json"))
  | _ => none

/-- Reads the arguments of `uint`. -/
def parseUnsigned? (arguments : List String) : Option Command := do
  let args ← leaf? unsignedLevel arguments
  let radix ← optionNat? args "radix" 4294967295
  match args.positionals with
  | [width, value] =>
    let width ← readNat? 4294967295 width
    some (.unsigned width value (radix.getD 10) (args.flag "saturate") (args.flag "json"))
  | _ => none

/-- Reads the arguments of `wire`. -/
def parseWire? (arguments : List String) : Option Command := do
  match ← wireLevel.parse? .none none arguments with
  | (_, some ("encode", rest)) =>
    match (← leaf? encodeLevel rest).positionals with
    | [type, value] => some (.encode type value)
    | _ => none
  | (_, some ("decode", rest)) =>
    let args ← leaf? decodeLevel rest
    match args.positionals with
    | [hex] => some (.decode hex (args.flag "json"))
    | _ => none
  | _ => none

/-- Reads the arguments of `typedef`. A value can only be checked against a named typedef. -/
def parseTypedef? (arguments : List String) : Option Command := do
  let args ← leaf? typedefLevel arguments
  if (args.option? "check").isSome ∧ (args.option? "name").isNone then none
  else
    some (.typedef args.positionals.head? (args.flag "strict") (args.option? "name")
      (args.option? "check") (args.flag "json"))

/-- Reads a command line; there is no command if it is not used as intended. -/
def parse? (arguments : List String) : Option Command := do
  match ← topLevel.parse? .none none arguments with
  | (_, some ("decimal", rest)) => parseDecimal? rest
  | (_, some ("uint", rest)) => parseUnsigned? rest
  | (_, some ("wire", rest)) => parseWire? rest
  | (_, some ("typedef", rest)) => parseTypedef? rest
  | _ => none

end Command

end YangTypes
