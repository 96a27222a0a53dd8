import OffHours.CommandLine.Similar

/-!
# Arguments

What the arguments of the program ask for. They are read from left to right, up to the first
that asks for help, for the version, or for something that does not exist.
-/

namespace OffHours.CommandLine

/-- An option of the program. -/
inductive Flag where
  /-- The directory of the settings, which follows as a value. -/
  | directory
  /-- Actions are only reported. -/
  | simulate
  /-- Help is asked for. -/
  | help
  /-- The version is asked for. -/
  | version
  deriving DecidableEq, Repr

namespace Flag

/-- All options in the order of the help. -/
def all : List Flag := [directory, simulate, help, version]

/-- The name of an option. -/
def name : Flag → String
  | directory => "config-dir"
  | simulate => "simulate"
  | help => "help"
  | version => "version"

/-- The option with a name. -/
def ofName? (text : String) : Option Flag := all.find? fun flag => flag.name = text

/-- The option with a letter. -/
def ofLetter? : Char → Option Flag
  | 'h' => some help
  | 'V' => some version
  | _ => none

/-- How an option is written. -/
def written (flag : Flag) : String :=
  "--" ++ flag.name ++ if flag = directory then " <CONFIG_DIR>" else ""

end Flag

/-- Why arguments cannot be followed. -/
inductive UsageFault where
  /-- An argument that there is not. `similar` is an option like it, `given` are the options in
  front of it. -/
  | unexpected (argument : String) (similar : Option Flag) (given : List Flag)
  /-- A value for an option that has none. -/
  | needlessValue (value : String) (flag : Flag) (given : List Flag)
  /-- An option that stands twice. -/
  | repeated (flag : Flag)
  /-- The directory is missing. -/
  | missingValue
  deriving DecidableEq, Repr

/-- What is asked for. -/
structure Options where
  /-- The directory of the settings. -/
  directory : Option String := none
  /-- Whether actions are only reported. -/
  simulate : Bool := false
  /-- The options in the order of writing. -/
  given : List Flag := []
  deriving DecidableEq, Repr

/-- What the program is to do. -/
inductive Command where
  /-- Show the help. -/
  | help
  /-- Show the version. -/
  | version
  /-- Sweep the fleet. -/
  | sweep (options : Options)
  deriving DecidableEq, Repr

/-- One argument. -/
inductive Argument where
  /-- Two dashes: no options follow. -/
  | escape
  /-- An option by its name, perhaps with a value. -/
  | long (name : String) (value : Option String)
  /-- A dash and letters. -/
  | short (letter : Char)
  /-- Anything else. -/
  | plain (text : String)
  deriving DecidableEq, Repr

/-- The kind of an argument. -/
def Argument.of (text : String) : Argument :=
  match text.toList with
  | ['-', '-'] => .escape
  | '-' :: '-' :: rest =>
    let name := String.ofList (rest.takeWhile (· ≠ '='))
    match rest.dropWhile (· ≠ '=') with
    | [] => .long name none
    | _ :: value => .long name (some (String.ofList value))
  | '-' :: letter :: _ => .short letter
  | _ => .plain text

namespace Options

/-- The options with a directory. -/
def withDirectory (options : Options) (value : String) : Except UsageFault Options :=
  match options.directory with
  | some _ => .error (.repeated .directory)
  | none => .ok { options with
      directory := some value, given := options.given ++ [.directory] }

/-- The options with the wish that actions are only reported. -/
def withSimulate (options : Options) : Except UsageFault Options :=
  if options.simulate then .error (.repeated .simulate)
  else .ok { options with simulate := true, given := options.given ++ [.simulate] }

/-- The options in the order of writing, and one more at the end unless it is among them. -/
def givenWith (options : Options) (flag : Flag) : List Flag :=
  if options.given.contains flag then options.given else options.given ++ [flag]

/-- The fault of an option that there is not. -/
def unknown (options : Options) (name : String) : UsageFault :=
  let similar := (mostSimilar? name (Flag.all.map Flag.name)).bind Flag.ofName?
  .unexpected ("--" ++ name) similar (similar.elim options.given options.givenWith)

/-- The fault of a value for an option that has none. -/
def needless (options : Options) (value : String) (flag : Flag) : UsageFault :=
  .needlessValue value flag (options.givenWith flag)

end Options

/-- A directory that was announced: with its value, if that was read. -/
abbrev Announced := Option (Option String)

/-- The options after an announced directory is taken over. -/
def takeOver (options : Options) : Announced → Except UsageFault Options
  | none => .ok options
  | some none => .error .missingValue
  | some (some value) => options.withDirectory value

/-- What the arguments after some options ask for. -/
def follow (options : Options) (announced : Announced) : List String → Except UsageFault Command
  | [] => do return .sweep (← takeOver options announced)
  | text :: rest =>
    match Argument.of text, announced with
    | .escape, _ =>
      match rest with
      | [] => do return .sweep (← takeOver options announced)
      | extra :: _ => .error (.unexpected extra none [])
    | .plain value, some none => follow options (some (some value)) rest
    | .plain text, _ => .error (.unexpected text none [])
    | .short letter, _ =>
      match Flag.ofLetter? letter with
      | some flag => do
        let _ ← takeOver options announced
        return if flag = .help then .help else .version
      | none => .error (.unexpected (String.ofList ['-', letter]) none [])
    | .long name value, _ =>
      match Flag.ofName? name, value with
      | none, _ =>
        let known := (takeOver options announced).toOption.getD options
        .error (known.unknown name)
      | some .directory, none => do
        follow (← takeOver options announced) (some none) rest
      | some .directory, some value => do
        let options ← takeOver options announced
        follow (← options.withDirectory value) none rest
      | some flag, some value => .error (options.needless value flag)
      | some .simulate, none => do
        let options ← takeOver options announced
        follow (← options.withSimulate) none rest
      | some flag, none => do
        let _ ← takeOver options announced
        return if flag = .help then .help else .version

/-- What the arguments of the program ask for. -/
def Command.ofArguments (arguments : List String) : Except UsageFault Command :=
  follow {} none arguments

end OffHours.CommandLine
