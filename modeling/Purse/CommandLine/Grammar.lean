/-
  Purse.CommandLine.Grammar

  Command lines: commands with nested commands, options, flags and positional values.
  A line is read argument by argument.  Every command that is entered opens a level;
  a level collects the values given after its name, and the levels are closed from
  the innermost outwards.  A value is read only when the next argument starts or the
  level closes, which decides which of several faults in a line is reported.

  Global arguments may be given at any level.  The innermost value counts, unless an
  outer one has a stronger source: the line is stronger than the environment.
-/
import Purse.Ident
import Purse.Text.Digits

namespace Purse.CommandLine

open Text

/-! ## Grammar -/

/-- How the value of an argument is written. -/
inductive ValueKind where
  | text
  | ident
  /-- A number up to a limit; with `signed` a minus zero is one too. -/
  | number (limit : Nat) (signed : Bool)
  /-- One of some words. -/
  | word (words : List String)
  deriving DecidableEq, Repr

/-- A value that was read. -/
inductive Value where
  | text (s : String)
  | ident (id : Ident)
  | number (n : Nat)
  /-- A flag that was given. -/
  | set
  deriving DecidableEq

/-- What an argument does. -/
inductive Action where
  /-- Takes a value. -/
  | value (kind : ValueKind)
  /-- Takes no value. -/
  | flag
  /-- Asks for help. -/
  | help
  /-- Asks for the version. -/
  | version
  deriving DecidableEq, Repr

/-- An argument of a command. Without short and long form it is positional. -/
structure Arg where
  name : String
  short : Option Char := none
  long : Option String := none
  action : Action
  required : Bool := false
  /-- The variable of the environment that stands in when the line gives no value. -/
  variableName : Option String := none
  deriving DecidableEq, Repr

/-- True for an argument that is told by its place. -/
def Arg.isPositional (arg : Arg) : Bool := arg.short.isNone && arg.long.isNone

/-- A command with its arguments and the commands inside it. -/
inductive Spec where
  | mk (name : String) (args : List Arg) (commands : List Spec)

namespace Spec

def name : Spec → String
  | .mk name _ _ => name

def args : Spec → List Arg
  | .mk _ args _ => args

def commands : Spec → List Spec
  | .mk _ _ commands => commands

/-- The command of a name inside a command. -/
def command? (spec : Spec) (name : String) : Option Spec :=
  spec.commands.find? (·.name = name)

end Spec

/-- Why a line is not carried out. -/
inductive UsageError where
  | displayHelp
  | displayVersion
  /-- Help, because the line stops before a command and gives nothing else. -/
  | displayHelpOnMissing
  | missingCommand
  | unknownCommand
  | missingArgument
  | unknownArgument
  /-- A value that is missing or is not one of the allowed words. -/
  | invalidValue
  /-- A value that cannot be read. -/
  | unreadableValue
  /-- A value for a flag. -/
  | surplusValue
  /-- An argument that is given twice. -/
  | conflict
  deriving DecidableEq, Repr

/-! ## Levels -/

/-- Where a value comes from; the stronger source comes later. -/
inductive Source where
  | environment
  | line
  deriving DecidableEq, Repr

/-- A value with its source. -/
structure Found where
  source : Source
  value : Value

/-- An argument whose value has not been read yet. -/
structure Pending where
  arg : Arg
  /-- The text given for it; absent while it is awaited. -/
  text : Option String

/-- What was given to one command. -/
structure Level where
  spec : Spec
  found : List (String × Found)
  pending : Option Pending
  /-- The positional arguments still to come. -/
  positionals : List Arg
  /-- Whether the mark that ends the options has passed. -/
  trailing : Bool

/-- The level of a command at its start. -/
def Level.start (spec : Spec) : Level :=
  ⟨spec, [], none, spec.args.filter Arg.isPositional, false⟩

/-- True while the value of an option is awaited. -/
def Level.awaiting (level : Level) : Bool :=
  match level.pending with
  | some ⟨_, none⟩ => true
  | _ => false

/-- Reads a value. -/
def ValueKind.read (kind : ValueKind) (text : String) : Except UsageError Value :=
  match kind with
  | .text => .ok (.text text)
  | .ident => match Ident.ofText? text with
    | some id => .ok (.ident id)
    | none => .error .unreadableValue
  | .number limit signed =>
      let n? := if signed || text.toList.head? ≠ some '-' then integer? text.toList else none
      match n? with
      | some n => if 0 ≤ n ∧ n ≤ limit then .ok (.number n.toNat) else .error .unreadableValue
      | none => .error .unreadableValue
  | .word words => if words.contains text then .ok (.text text) else .error .invalidValue

/-- Notes a value for an argument; a second one from the line is a conflict. -/
def Level.note (level : Level) (arg : Arg) (source : Source) (value : Except UsageError Value) :
    Except UsageError Level :=
  if (level.found.lookup arg.name).isSome then .error .conflict
  else do
    let value ← value
    return { level with found := (arg.name, ⟨source, value⟩) :: level.found }

/-- Notes the text of an argument that takes a value. -/
def Level.noteText (level : Level) (arg : Arg) (source : Source) (text : String) :
    Except UsageError Level :=
  level.note arg source <| match arg.action with
    | .value kind => kind.read text
    | _ => .ok .set

/-- Reads the value that is pending. One that is still awaited is missing. -/
def Level.settle (level : Level) : Except UsageError Level :=
  match level.pending with
  | none => .ok level
  | some ⟨_, none⟩ => .error .invalidValue
  | some ⟨arg, some text⟩ => { level with pending := none }.noteText arg .line text

/-- Takes up an option or a flag; `attached` is a value that was written onto it. -/
def Level.take (level : Level) (arg : Arg) (attached : Option String) :
    Except UsageError Level :=
  match arg.action, attached with
  | .value _, some text => do (← level.settle).noteText arg .line text
  | .value _, none => return { ← level.settle with pending := some ⟨arg, none⟩ }
  | _, some _ => .error .surplusValue
  | .flag, none => do (← level.settle).note arg .line (.ok .set)
  | .help, none => do
      let _ ← level.settle
      .error .displayHelp
  | .version, none => do
      let _ ← level.settle
      .error .displayVersion

/-! ## Arguments -/

/-- Takes up the option in `--name` or `--name=value`, given without the hyphens. -/
def Level.takeLong (level : Level) (body : List Char) : Except UsageError Level :=
  let name := String.ofList (body.takeWhile (· ≠ '='))
  let attached := match body.dropWhile (· ≠ '=') with
    | _ :: text => some (String.ofList text)
    | [] => none
  match level.spec.args.find? (·.long = some name) with
  | some arg => level.take arg attached
  | none => .error .unknownArgument

/-- Takes up the flags and the option in `-abc`, given without the hyphen. What follows the
    letter of an option is its value. -/
def Level.takeShort (level : Level) : List Char → Except UsageError Level
  | [] => .ok level
  | c :: rest =>
      match level.spec.args.find? (·.short = some c) with
      | none => .error .unknownArgument
      | some arg =>
          match arg.action with
          | .value _ => match rest with
            | [] => level.take arg none
            | '=' :: text => level.take arg (some (String.ofList text))
            | text => level.take arg (some (String.ofList text))
          | _ => do (← level.take arg none).takeShort rest

/-- Takes up a text as the next positional argument. -/
def Level.takePositional (level : Level) (text : String) : Except UsageError Level :=
  match level.positionals with
  | arg :: rest => do
      let level ← level.settle
      return { level with pending := some ⟨arg, some text⟩, positionals := rest }
  | [] =>
      if level.trailing && (level.spec.command? text).isSome then .error .unknownArgument
      else if level.spec.commands.isEmpty then .error .unknownArgument
      else .error .unknownCommand

/-- Takes up a text that is neither an option nor a mark: an awaited value, or the next
    positional argument. -/
def Level.takePlain (level : Level) (text : String) : Except UsageError Level :=
  match level.pending with
  | some ⟨arg, none⟩ => .ok { level with pending := some ⟨arg, some text⟩ }
  | _ => level.takePositional text

/-- How far a line has been read. -/
inductive Progress where
  /-- Inside a command; the outer levels follow from the inside outwards. -/
  | inside (level : Level) (outer : List Level)
  /-- Inside a request for help on a command. -/
  | helping (spec : Spec)

/-- The name of the command that asks for help on the others. -/
def helpCommand : String := "help"

/-- Takes up one argument at a level. -/
def Level.step (level : Level) (outer : List Level) (text : String) :
    Except UsageError Progress := do
  let stay (next : Except UsageError Level) : Except UsageError Progress :=
    next.map (.inside · outer)
  if level.trailing then stay (level.takePositional text)
  else
    match (if level.awaiting then none else level.spec.command? text) with
    | some spec =>
        if text = helpCommand then return .helping level.spec
        else return .inside (.start spec) (level :: outer)
    | none => match text.toList with
      | ['-', '-'] => stay (.ok { level with trailing := true })
      | '-' :: '-' :: body => stay (level.takeLong body)
      | '-' :: c :: body => stay (level.takeShort (c :: body))
      | _ => stay (level.takePlain text)

/-- Takes up one argument. -/
def Progress.step (progress : Progress) (text : String) : Except UsageError Progress :=
  match progress with
  | .inside level outer => level.step outer text
  | .helping spec => match spec.command? text with
    | some inner => .ok (.helping inner)
    | none => .error .unknownCommand

/-! ## Closing levels -/

/-- The variables of the environment. -/
abbrev Environment := String → Option String

/-- Adds the variables that stand in for arguments without a value. -/
def Level.addVariables (env : Environment) (level : Level) : List Arg → Except UsageError Level
  | [] => .ok level
  | arg :: args =>
      match (level.found.lookup arg.name), arg.variableName.bind env with
      | none, some text => do (← level.noteText arg .environment text).addVariables env args
      | _, _ => level.addVariables env args

/-- Checks a level that has all its values. -/
def Level.check (level : Level) (entered : Bool) : Except UsageError Unit :=
  if !entered && !level.spec.commands.isEmpty then
    if level.found.isEmpty then .error .displayHelpOnMissing else .error .missingCommand
  else if level.spec.args.any fun arg => arg.required && (level.found.lookup arg.name).isNone then
    .error .missingArgument
  else .ok ()

/-- Closes a level; `entered` says whether a command inside it was entered. -/
def Level.close (env : Environment) (level : Level) (entered : Bool) : Except UsageError Level := do
  let level ← level.settle
  let level ← level.addVariables env level.spec.args
  level.check entered
  return level

/-- Closes outer levels from the inside outwards. -/
def closeOuter (env : Environment) : List Level → Except UsageError (List Level)
  | [] => .ok []
  | level :: outer => do
      let level ← level.close env true
      return level :: (← closeOuter env outer)

/-- A line that was read: the levels from the innermost outwards. -/
abbrev Parsed := List Level

/-- Ends a line. -/
def Progress.finish (env : Environment) : Progress → Except UsageError Parsed
  | .helping _ => .error .displayHelp
  | .inside level outer => do
      let level ← level.close env false
      return level :: (← closeOuter env outer)

/-- Reads a line. -/
def Spec.parse (spec : Spec) (env : Environment) (line : List String) :
    Except UsageError Parsed := do
  let progress ← line.foldlM Progress.step (.inside (.start spec) [])
  progress.finish env

/-! ## Values of a line -/

/-- The names of the commands entered, from the outermost inwards, without the program's. -/
def Parsed.path (parsed : Parsed) : List String :=
  (parsed.reverse.map (·.spec.name)).drop 1

/-- Of an inner and an outer value the inner one, unless the outer one is stronger. -/
def Found.prefer : Option Found → Option Found → Option Found
  | some inner, some outer =>
      if outer.source = .line ∧ inner.source = .environment then some outer else some inner
  | some inner, none => some inner
  | none, outer => outer

/-- The value that counts for an argument. -/
def Parsed.value? (parsed : Parsed) (name : String) : Option Value :=
  (parsed.foldr (fun level outer => Found.prefer (level.found.lookup name) outer) none).map
    (·.value)

end Purse.CommandLine
