/-!
# The command line

The one command, `replay`, takes three options with a value and one without. The value
of an option is joined to it by an equals sign or is the next argument, which may not
start with a dash unless it is a single dash.

A value that is an argument of its own is looked at only when the next option is
reached, or at the end. So an argument that is not understood is reported before an
option in front of it that lacks its value.
-/

namespace PodCache.CommandLine

/-- The paths and switches of a replay. -/
structure ReplayArgs where
  input : String
  output : Option String
  strict : Bool
  logPath : Option String
  deriving DecidableEq, Repr

/-- What the command line asks for. -/
inductive Command where
  | replay (args : ReplayArgs)
  deriving DecidableEq, Repr

/-- Why there is nothing to be done. -/
inductive Usage where
  | displayHelp
  | displayVersion
  | missingSubcommand
  | unknownArgument
  | invalidSubcommand
  | invalidValue
  | tooManyValues
  | argumentConflict
  | missingRequiredArgument
  deriving DecidableEq, Repr

/-- The name of the reason. -/
def Usage.name : Usage → String
  | displayHelp => "DisplayHelp"
  | displayVersion => "DisplayVersion"
  | missingSubcommand => "DisplayHelpOnMissingArgumentOrSubcommand"
  | unknownArgument => "UnknownArgument"
  | invalidSubcommand => "InvalidSubcommand"
  | invalidValue => "InvalidValue"
  | tooManyValues => "TooManyValues"
  | argumentConflict => "ArgumentConflict"
  | missingRequiredArgument => "MissingRequiredArgument"

/-! ### Arguments -/

/-- An argument by its form. -/
inductive Argument where
  /-- Two dashes, behind which nothing is an option. -/
  | separator
  /-- A long option, with the value that is joined to it. -/
  | long (name : String) (value : Option String)
  /-- Short options in a row. -/
  | short (first : Char) (others : List Char)
  | word (w : String)
  deriving DecidableEq, Repr

/-- Parts a long option from its value at the first equals sign. -/
def Argument.ofLong (cs : List Char) : Argument :=
  match cs.span (· ≠ '=') with
  | (name, _ :: value) => .long (.ofList name) (some (.ofList value))
  | (name, []) => .long (.ofList name) none

/-- The form of an argument. -/
def Argument.ofString (s : String) : Argument :=
  match s.toList with
  | ['-', '-'] => .separator
  | '-' :: '-' :: cs => ofLong cs
  | '-' :: c :: cs => .short c cs
  | _ => .word s

/-! ### The options of a replay -/

/-- An option whose value is a path. -/
inductive PathOption where
  | input
  | output
  | logPath
  deriving DecidableEq, Repr

/-- The option with the given name. -/
def PathOption.ofName? : String → Option PathOption
  | "input" => some input
  | "output" => some output
  | "log-path" => some logPath
  | _ => none

/-- The values used for options that are not given. -/
structure Defaults where
  input : Option String := none
  logPath : Option String := none
  deriving DecidableEq, Repr

/-- The options read so far. -/
structure Options where
  input : Option String := none
  output : Option String := none
  logPath : Option String := none
  strict : Bool := false
  /-- The last option, if its value is an argument of its own, with the value once that
      has been read. -/
  pending : Option (PathOption × Option String) := none
  deriving DecidableEq, Repr

namespace Options

/-- The value of an option. -/
def get (o : Options) : PathOption → Option String
  | .input => o.input
  | .output => o.output
  | .logPath => o.logPath

/-- Sets an option. It may be given once, and its value may not be empty. -/
def set (o : Options) (option : PathOption) (value : String) : Except Usage Options :=
  if (o.get option).isSome then .error .argumentConflict
  else if value.isEmpty then .error .invalidValue
  else .ok <| match option with
    | .input => { o with input := some value }
    | .output => { o with output := some value }
    | .logPath => { o with logPath := some value }

/-- Sets the last option if that is still to be done. -/
def settle (o : Options) : Except Usage Options :=
  match o.pending with
  | none => .ok o
  | some (_, none) => .error .invalidValue
  | some (option, some value) => { o with pending := none }.set option value

/-- Fills an option that is not given. A default may not be empty. -/
def withDefault (given fallback : Option String) : Except Usage (Option String) :=
  match given, fallback with
  | some path, _ => .ok (some path)
  | none, some "" => .error .invalidValue
  | none, path => .ok path

/-- The arguments of a replay once all options have been read. -/
def complete (o : Options) (defaults : Defaults) : Except Usage ReplayArgs := do
  let o ← o.settle
  let input ← withDefault o.input defaults.input
  let logPath ← withDefault o.logPath defaults.logPath
  match input with
  | none => throw .missingRequiredArgument
  | some input => return { input, output := o.output, strict := o.strict, logPath }

/-- Reads a long option. -/
def takeLong (o : Options) (name : String) (value : Option String) : Except Usage Options :=
  match PathOption.ofName? name, name, value with
  | some option, _, some value => do (← o.settle).set option value
  | some option, _, none => do return { ← o.settle with pending := some (option, none) }
  | none, "strict", none => do
    let o ← o.settle
    if o.strict then .error .argumentConflict else .ok { o with strict := true }
  | none, "help", none => do
    let _ ← o.settle
    .error .displayHelp
  | none, "strict", some _ => .error .tooManyValues
  | none, "help", some _ => .error .tooManyValues
  | none, _, _ => .error .unknownArgument

/-- Reads an argument that is not the separator. -/
def take (o : Options) : Argument → Except Usage Options
  | .long name value => o.takeLong name value
  | .short 'h' _ => do
    let _ ← o.settle
    .error .displayHelp
  | .word w =>
    match o.pending with
    | some (option, none) => .ok { o with pending := some (option, some w) }
    | _ => .error .unknownArgument
  | _ => .error .unknownArgument

/-- Reads the arguments of a replay. Nothing may follow the separator. -/
def read (defaults : Defaults) (o : Options) : List String → Except Usage ReplayArgs
  | [] => o.complete defaults
  | arg :: args =>
    match Argument.ofString arg with
    | .separator => if args.isEmpty then o.complete defaults else .error .unknownArgument
    | argument => do read defaults (← o.take argument) args

end Options

/-! ### Commands -/

/-- The commands that help can be asked for. -/
def commands : List String := ["replay", "help"]

/-- The answer to a request for help. Commands have no commands of their own. -/
def help : List String → Usage
  | [] => .displayHelp
  | [command] => if commands.contains command then .displayHelp else .invalidSubcommand
  | _ => .invalidSubcommand

/-- The command that the arguments ask for. -/
def parse (defaults : Defaults) : List String → Except Usage Command
  | [] => .error .missingSubcommand
  | arg :: args =>
    match Argument.ofString arg with
    | .word "replay" => (Options.read defaults {} args).map .replay
    | .word "help" => .error (help args)
    | .word _ => .error .invalidSubcommand
    | .separator => .error <|
      match args with
      | [] => .missingSubcommand
      | w :: _ => if commands.contains w then .unknownArgument else .invalidSubcommand
    | .long "help" none => .error .displayHelp
    | .long "version" none => .error .displayVersion
    | .long "help" (some _) => .error .tooManyValues
    | .long "version" (some _) => .error .tooManyValues
    | .short 'h' _ => .error .displayHelp
    | .short 'V' _ => .error .displayVersion
    | _ => .error .unknownArgument

example : parse {} ["replay", "--input=a", "--strict"] =
    .ok (.replay ⟨"a", none, true, none⟩) := rfl

example : parse {} ["replay", "--input", "--strict"] = .error .invalidValue := rfl

example : parse {} ["replay", "--input", "-x"] = .error .unknownArgument := rfl

end PodCache.CommandLine
