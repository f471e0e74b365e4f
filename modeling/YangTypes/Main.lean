import YangTypes.Command.Run

/-!
The command line program.
-/

namespace YangTypes

/-- How the program is used. -/
def usage : String :=
  "Usage: yang-types [--log-level LEVEL] COMMAND\n\n" ++
  "Commands:\n" ++
  "  decimal VALUE [--scale DIGITS] [--rounding MODE] [--json]\n" ++
  "  uint WIDTH VALUE [--radix RADIX] [--saturate] [--json]\n" ++
  "  wire encode TYPE VALUE\n" ++
  "  wire decode HEX [--json]\n" ++
  "  typedef [FILE] [--strict] [--name NAME] [--check VALUE] [--json]\n"

/-- What an error of the system says about a document. -/
def readFailure : IO.Error → Command.ReadFailure
  | .noFileOrDirectory .. => .missing
  | .permissionDenied .. => .notPermitted
  | .inappropriateType _ 20 _ => .notDirectory
  | .inappropriateType _ 21 _ => .isDirectory
  | .invalidArgument _ 36 _ => .nameTooLong
  | error => .other (toString error)

/-- Reads the document of a command. -/
def readSource : Option Command.Source → IO (Except Command.ReadFailure String)
  | none => return .ok ""
  | some source => do
    try
      match source with
      | .standardInput => return .ok (← (← IO.getStdin).readToEnd)
      | .file path => return .ok (← IO.FS.readFile path)
    catch error => return .error (readFailure error)

end YangTypes

/-- Runs a command line: 0 for success, 1 for an error, 2 for wrong usage. -/
def main (arguments : List String) : IO UInt32 := do
  match YangTypes.Command.parse? arguments with
  | none =>
    IO.eprint YangTypes.usage
    return 2
  | some command =>
    match command.run (← YangTypes.readSource command.source?) with
    | .ok text =>
      IO.println text
      return 0
    | .error reason =>
      IO.eprintln ("Error: " ++ reason)
      return 1
