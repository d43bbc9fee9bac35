/-!
# Command-line arguments

A command line names one of three commands.  Some options belong to every
command and may stand before or after its name; the others follow it.  Options
have long names, some have letters, and values are attached or follow.  The
first thing that is wrong is reported, where an option that waits for its value
is only settled when the next option or the end of the line comes.
-/

namespace MarkedRoutes

/-- Why a command line is refused, or answered without running a command. -/
inductive UsageFault where
  | displayHelp
  | displayVersion
  | displayHelpOnMissingCommand
  | missingSubcommand
  | invalidSubcommand
  | unknownArgument
  | missingRequiredArgument
  | argumentConflict
  | invalidValue
  | tooManyValues
  deriving DecidableEq, Repr

def UsageFault.name : UsageFault → String
  | displayHelp => "DisplayHelp"
  | displayVersion => "DisplayVersion"
  | displayHelpOnMissingCommand => "DisplayHelpOnMissingArgumentOrSubcommand"
  | missingSubcommand => "MissingSubcommand"
  | invalidSubcommand => "InvalidSubcommand"
  | unknownArgument => "UnknownArgument"
  | missingRequiredArgument => "MissingRequiredArgument"
  | argumentConflict => "ArgumentConflict"
  | invalidValue => "InvalidValue"
  | tooManyValues => "TooManyValues"

/-- The three commands. -/
inductive CommandName where
  | generate
  | check
  | inspect
  deriving DecidableEq, Repr

def CommandName.ofText? : String → Option CommandName
  | "generate" => some generate
  | "check" => some check
  | "inspect" => some inspect
  | _ => none

/-- An option of the command line. -/
inductive OptionName where
  | verbose
  | logFormat
  | config
  | help
  | version
  | input
  | modulePath
  | output
  | runtimePath
  | registerFn
  | fmt
  | json
  deriving DecidableEq, Repr

namespace OptionName

def long : OptionName → String
  | verbose => "verbose"
  | logFormat => "log-format"
  | config => "config"
  | help => "help"
  | version => "version"
  | input => "input"
  | modulePath => "module-path"
  | output => "output"
  | runtimePath => "runtime-path"
  | registerFn => "register-fn"
  | fmt => "fmt"
  | json => "json"

def letter : OptionName → Option Char
  | verbose => some 'v'
  | help => some 'h'
  | version => some 'V'
  | input => some 'i'
  | output => some 'o'
  | _ => none

def takesValue : OptionName → Bool
  | verbose => false
  | help => false
  | version => false
  | fmt => false
  | json => false
  | _ => true

/-- Whether a value fits an option: paths are not empty, and there are two log formats. -/
def accepts (name : OptionName) (value : String) : Bool :=
  match name with
  | config => !value.isEmpty
  | input => !value.isEmpty
  | output => !value.isEmpty
  | logFormat => value == "text" || value == "json"
  | _ => true

end OptionName

/-- The options known before a command (`none`) or behind it. -/
def knownOptions : Option CommandName → List OptionName
  | none => [.verbose, .logFormat, .config, .help, .version]
  | some .generate =>
    [.verbose, .logFormat, .config, .help, .input, .modulePath, .output, .runtimePath,
      .registerFn, .fmt]
  | some .check => [.verbose, .logFormat, .config, .help, .input, .modulePath]
  | some .inspect => [.verbose, .logFormat, .config, .help, .input, .modulePath, .json]

/-- The options read so far.  An option that takes a value is pending, at first without
it, until it is settled. -/
structure ScannedOptions where
  settled : List (OptionName × String)
  pending : Option (OptionName × Option String)
  deriving DecidableEq, Repr

namespace ScannedOptions

/-- Nothing read yet. -/
def empty : ScannedOptions := ⟨[], none⟩

def value? (scanned : ScannedOptions) (name : OptionName) : Option String :=
  (scanned.settled.find? fun option => option.1 = name).map Prod.snd

def has (scanned : ScannedOptions) (name : OptionName) : Bool := (scanned.value? name).isSome

/-- Whether a pending option has no value yet. -/
def isWaiting (scanned : ScannedOptions) : Bool :=
  match scanned.pending with
  | some (_, none) => true
  | _ => false

/-- Records an option with its value, once. -/
def record (scanned : ScannedOptions) (name : OptionName) (value : String) :
    Except UsageFault ScannedOptions :=
  if scanned.has name then .error .argumentConflict
  else if !name.accepts value then .error .invalidValue
  else .ok { scanned with settled := scanned.settled ++ [(name, value)] }

def settle (scanned : ScannedOptions) : Except UsageFault ScannedOptions :=
  match scanned.pending with
  | none => .ok scanned
  | some (_, none) => .error .invalidValue
  | some (name, some value) => { scanned with pending := none }.record name value

/-- Takes an option without a value. -/
def takeFlag (scanned : ScannedOptions) (name : OptionName) :
    Except UsageFault ScannedOptions := do
  let scanned ← scanned.settle
  match name with
  | .help => .error .displayHelp
  | .version => .error .displayVersion
  | name => scanned.record name "true"

/-- Takes an option that takes a value, with the value attached to it or not. -/
def takeOption (scanned : ScannedOptions) (name : OptionName) (attached : Option String) :
    Except UsageFault ScannedOptions := do
  let scanned ← scanned.settle
  match attached with
  | some value => scanned.record name value
  | none => .ok { scanned with pending := some (name, none) }

/-- Takes a long option, after its dashes. -/
def takeLong (scanned : ScannedOptions) (known : List OptionName) (text : String) :
    Except UsageFault ScannedOptions :=
  let name := String.ofList (text.toList.takeWhile (· != '='))
  let attached :=
    match text.toList.dropWhile (· != '=') with
    | [] => none
    | _ :: value => some (String.ofList value)
  match known.find? fun candidate => candidate.long = name with
  | none => .error .unknownArgument
  | some found =>
    if found.takesValue then scanned.takeOption found attached
    else if attached.isSome then .error .tooManyValues
    else scanned.takeFlag found

/-- Takes a cluster of letters, after its dash.  The first letter of an option with a value
takes the rest of the cluster. -/
def takeLetters (scanned : ScannedOptions) (known : List OptionName) :
    List Char → Except UsageFault ScannedOptions
  | [] => .ok scanned
  | c :: rest =>
    match known.find? fun candidate => candidate.letter = some c with
    | none => .error .unknownArgument
    | some found =>
      if found.takesValue then
        match rest with
        | [] => scanned.takeOption found none
        | '=' :: value => scanned.takeOption found (some (String.ofList value))
        | value => scanned.takeOption found (some (String.ofList value))
      else do
        let scanned ← scanned.takeFlag found
        scanned.takeLetters known rest

end ScannedOptions

/-- The fault of a word that is no option, no value and no command.  `trailing` says that
it follows `--`. -/
def strayFault (command : Option CommandName) (trailing : Bool) (word : String) : UsageFault :=
  match command with
  | some _ => .unknownArgument
  | none =>
    if trailing && ((CommandName.ofText? word).isSome || word == "help") then .unknownArgument
    else .invalidSubcommand

/-- The answer to `help` with the words behind it. -/
def helpFault : List String → UsageFault
  | [] => .displayHelp
  | [word] =>
    if (CommandName.ofText? word).isSome || word == "help" then .displayHelp
    else .invalidSubcommand
  | _ => .invalidSubcommand

/-- Reads the options of one level.  Before a command the reading stops at its name and
returns what follows it. -/
def scanOptions (command : Option CommandName) :
    ScannedOptions → List String →
      Except UsageFault (ScannedOptions × Option (CommandName × List String))
  | scanned, [] => .ok (scanned, none)
  | scanned, word :: rest =>
    let known := knownOptions command
    if command.isNone && !scanned.isWaiting && word == "help" then .error (helpFault rest)
    else
      match if command.isNone && !scanned.isWaiting then CommandName.ofText? word else none with
      | some name => .ok (scanned, some (name, rest))
      | none =>
        match word.toList with
        | ['-', '-'] =>
          match rest with
          | [] => .ok (scanned, none)
          | next :: _ => .error (strayFault command true next)
        | '-' :: '-' :: long => do
          let scanned ← scanned.takeLong known (String.ofList long)
          scanOptions command scanned rest
        | '-' :: c :: letters => do
          let scanned ← scanned.takeLetters known (c :: letters)
          scanOptions command scanned rest
        | _ =>
          match scanned.pending with
          | some (name, none) =>
            scanOptions command { scanned with pending := some (name, some word) } rest
          | _ => .error (strayFault command false word)

/-- Settles the last option and looks at the environment: a configuration path that is
empty there is refused unless the command line gives one. -/
def finishOptions (environment : Option String) (scanned : ScannedOptions) :
    Except UsageFault ScannedOptions := do
  let scanned ← scanned.settle
  if scanned.has .config then .ok scanned
  else if environment = some "" then .error .invalidValue
  else .ok scanned

/-- The form of log lines. -/
inductive LogFormat where
  | text
  | json
  deriving DecidableEq, Repr

def LogFormat.name : LogFormat → String
  | text => "Text"
  | json => "Json"

/-- What a command line asks for. -/
structure Invocation where
  command : CommandName
  isVerbose : Bool
  logFormat : LogFormat
  configPath : Option String
  input : String
  modulePath : Option String
  output : Option String
  runtimePath : Option String
  entryFunction : Option String
  formats : Bool
  asJson : Bool
  deriving DecidableEq, Repr

/-- The level of the log lines that are written. -/
def Invocation.logLevel (invocation : Invocation) : String :=
  if invocation.isVerbose then "debug" else "info"

/-- The invocation of a command with the options before and behind its name.  Of an option
given on both sides the one behind the name counts, and `environment` is the configuration
path without any. -/
def invocation (environment : Option String) (command : CommandName) (input : String)
    (before behind : ScannedOptions) : Invocation where
  command
  isVerbose := before.has .verbose || behind.has .verbose
  logFormat :=
    if (behind.value? .logFormat).or (before.value? .logFormat) = some "json" then .json
    else .text
  configPath := ((behind.value? .config).or (before.value? .config)).or environment
  input
  modulePath := behind.value? .modulePath
  output := behind.value? .output
  runtimePath := behind.value? .runtimePath
  entryFunction := behind.value? .registerFn
  formats := behind.has .fmt
  asJson := behind.has .json

/-- Reads a command line.  `environment` is the configuration path that the environment
gives. -/
def parseArguments (environment : Option String) (arguments : List String) :
    Except UsageFault Invocation := do
  let (before, found) ← scanOptions none .empty arguments
  match found with
  | none => do
    let before ← finishOptions environment before
    if before.settled.isEmpty && environment.isNone then .error .displayHelpOnMissingCommand
    else .error .missingSubcommand
  | some (command, rest) => do
    let (behind, _) ← scanOptions (some command) .empty rest
    let behind ← finishOptions environment behind
    match behind.value? .input with
    | none => .error .missingRequiredArgument
    | some input => do
      let before ← finishOptions environment before
      .ok (invocation environment command input before behind)

end MarkedRoutes
