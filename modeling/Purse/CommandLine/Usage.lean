/-
  Purse.CommandLine.Usage

  What the program prints when a line is not carried out: help or the version when the
  line asks for it, else what is wrong with the line.
-/
import Purse.CommandLine.Session

namespace Purse.CommandLine

/-- True when the line asked for what is printed. -/
def UsageError.isRequest : UsageError → Bool
  | .displayHelp | .displayVersion => true
  | _ => false

/-- The exit status of a line that is not carried out. -/
def UsageError.status (error : UsageError) : Nat := if error.isRequest then 0 else 2

/-- The help text. -/
def helpText : String := unlines [
  "An atomic wallet ledger with credits, transfers and purchases",
  "",
  "Usage: wallet-ledger [OPTIONS] <COMMAND>",
  "",
  "Commands: " ++ ", ".intercalate (programSpec.commands.map Spec.name),
  "Options:  " ++ ", ".intercalate (programSpec.args.filterMap fun arg => arg.long.map ("--" ++ ·))]

/-- What is printed. -/
def UsageError.message : UsageError → String
  | .displayHelp | .displayHelpOnMissing => helpText
  | .displayVersion => "wallet-ledger 0.1.0\n"
  | .missingCommand => "error: a command is missing\n"
  | .unknownCommand => "error: unrecognized command\n"
  | .missingArgument => "error: a required argument is missing\n"
  | .unknownArgument => "error: unexpected argument\n"
  | .invalidValue => "error: a value is missing or not allowed\n"
  | .unreadableValue => "error: invalid value for an argument\n"
  | .surplusValue => "error: unexpected value for a flag\n"
  | .conflict => "error: an argument cannot be used multiple times\n"

/-- The paths that opening the store of a line looks at, when the store is a file: those that lead
    to it, those of the files beside it, and those that lead to the file it takes its rights
    from. -/
def linePaths (env : Environment) (line : List String) (home : Path) : List Path :=
  match parseLine env line with
  | .error _ => []
  | .ok (options, command) => match Location.parse options.database with
    | .error _ => []
    | .ok location => match location.target (command = .init) with
      | .error _ => []
      | .ok target =>
          if target.isBare then []
          else
            let paths := Disk.visited home target.name
            paths ++ (paths.getLast?.map fun path => Companion.all.map (·.path path)).getD [] ++
              (target.pattern.map (Disk.visited home)).getD []

end Purse.CommandLine
