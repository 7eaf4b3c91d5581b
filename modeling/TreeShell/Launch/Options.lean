/-!
# Options

The arguments of a run are options: a letter after one dash or a name after two.  An
option that takes a value takes what is attached to it, or else the next argument, which
must not begin with a dash.  Letters may be run together.  No option may be given twice,
and there are no other arguments.

Arguments are read in order, so that a request for help or for the version is granted
unless something before it is wrong.  The first argument that is wrong is told.
-/

namespace TreeShell.Launch

/-! ## Options -/

/-- What a run is asked for. -/
structure Options where
  /-- The line to run. -/
  command : Option String := none
  settingsFile : Option String := none
  dataDirectory : Option String := none
  ephemeral : Bool := false
  level : Option String := none
  reset : Bool := false
deriving DecidableEq, Repr

/-- A sign of the command line: an option by its meaning. -/
inductive Sign where
  | command
  | settingsFile
  | dataDirectory
  | level
  | ephemeral
  | reset
  | help
  | version
deriving DecidableEq, Repr

/-- The option with a name. -/
def Sign.named? : String → Option Sign
  | "config" => some .settingsFile
  | "data-dir" => some .dataDirectory
  | "log-level" => some .level
  | "ephemeral" => some .ephemeral
  | "reset" => some .reset
  | "help" => some .help
  | "version" => some .version
  | _ => none

/-- The option with a letter. -/
def Sign.lettered? : Char → Option Sign
  | 'c' => some .command
  | 'h' => some .help
  | 'V' => some .version
  | _ => none

/-- Whether an option takes a value. -/
def Sign.takesValue : Sign → Bool
  | .command | .settingsFile | .dataDirectory | .level => true
  | .ephemeral | .reset | .help | .version => false

/-- An option as it is asked for, with what its value stands for. -/
def Sign.usage : Sign → String
  | .command => "-c <COMMAND>"
  | .settingsFile => "--config <CONFIG>"
  | .dataDirectory => "--data-dir <DATA_DIR>"
  | .level => "--log-level <LOG_LEVEL>"
  | .ephemeral => "--ephemeral"
  | .reset => "--reset"
  | .help => "--help"
  | .version => "--version"

/-! ## Requests -/

/-- Why arguments are no options of the program. -/
inductive Misuse where
  | unknown (argument : String)
  | repeated (sign : Sign)
  /-- An option lacks its value. -/
  | valueless (sign : Sign)
  /-- An option has a value attached that takes none. -/
  | surplus (sign : Sign) (value : String)
deriving DecidableEq, Repr

/-- The text for arguments that are no options. -/
def Misuse.message (m : Misuse) : String :=
  let why := match m with
    | .unknown argument => "unexpected argument '" ++ argument ++ "' found"
    | .repeated s => "the argument '" ++ s.usage ++ "' cannot be used multiple times"
    | .valueless s => "a value is required for '" ++ s.usage ++ "' but none was supplied"
    | .surplus s value =>
      "unexpected value '" ++ value ++ "' for '" ++ s.usage
        ++ "' found; no more were expected"
  "error: " ++ why ++ "\n\nUsage: blogshell [OPTIONS]\n\n"
    ++ "For more information, try '--help'.\n"

/-- How the arguments of a run are understood. -/
inductive Request where
  | run (options : Options)
  | help
  | version
  | misuse (why : Misuse)
deriving DecidableEq, Repr

namespace Options

/-- Sets a text that is not set yet. -/
def setOnce (old : Option String) (value : String) : Option (Option String) :=
  if old.isSome then none else some (some value)

/-- Sets a path that is not set yet; a path is not empty. -/
def setPathOnce (old : Option String) (value : String) : Option (Option String) :=
  if value = "" then none else setOnce old value

/-- The options with the value of one that takes a value. -/
def give (o : Options) (value : String) : Sign → Option Options
  | .command => do some { o with command := ← setOnce o.command value }
  | .settingsFile => do some { o with settingsFile := ← setPathOnce o.settingsFile value }
  | .dataDirectory => do some { o with dataDirectory := ← setPathOnce o.dataDirectory value }
  | .level => do some { o with level := ← setOnce o.level value }
  | _ => none

/-- The options with a switch set that is not set yet. -/
def switch (o : Options) : Sign → Option Options
  | .ephemeral => if o.ephemeral then none else some { o with ephemeral := true }
  | .reset => if o.reset then none else some { o with reset := true }
  | _ => none

/-- Whether an option was given. -/
def has (o : Options) : Sign → Bool
  | .command => o.command.isSome
  | .settingsFile => o.settingsFile.isSome
  | .dataDirectory => o.dataDirectory.isSome
  | .level => o.level.isSome
  | .ephemeral => o.ephemeral
  | .reset => o.reset
  | .help | .version => false

/-- Why an option cannot be given: for the second time, or else without a value. -/
def refusal (o : Options) (s : Sign) : Misuse :=
  if o.has s then .repeated s else .valueless s

end Options

/-! ## Arguments -/

/-- What one argument comes to. -/
inductive Step where
  /-- Go on with these options. -/
  | next (options : Options)
  /-- The next argument is the value of the option. -/
  | await (options : Options) (sign : Sign)
  | stop (request : Request)

/-- Goes on, or stops when there are no options to go on with. -/
def Step.ofOptions (why : Misuse) : Option Options → Step
  | some o => .next o
  | none => .stop (.misuse why)

/-- An argument that names an option, with the value attached to it. -/
def longStep (o : Options) (name : String) (attached : Option String) : Step :=
  match Sign.named? name, attached with
  | none, _ => .stop (.misuse (.unknown ("--" ++ name)))
  | some s, some value =>
    if s.takesValue then .ofOptions (o.refusal s) (o.give value s)
    else .stop (.misuse (.surplus s value))
  | some .help, none => .stop .help
  | some .version, none => .stop .version
  | some s, none =>
    if s.takesValue then .await o s else .ofOptions (o.refusal s) (o.switch s)

/-- Drops an equals sign in front. -/
def dropEquals : List Char → List Char
  | '=' :: cs => cs
  | cs => cs

/-- An argument of letters.  What follows a letter that takes a value is its value. -/
def shortStep (o : Options) : List Char → Step
  | [] => .next o
  | c :: cs =>
    match Sign.lettered? c with
    | none => .stop (.misuse (.unknown (String.ofList ['-', c])))
    | some .help => .stop .help
    | some .version => .stop .version
    | some s =>
      if cs.isEmpty then .await o s
      else .ofOptions (o.refusal s) (o.give (String.ofList (dropEquals cs)) s)

/-- The step of an argument where an option may stand. -/
def argumentStep (o : Options) (arg : String) : Step :=
  match arg.toList with
  | '-' :: '-' :: cs =>
    longStep o (String.ofList (cs.takeWhile (· ≠ '=')))
      (match cs.dropWhile (· ≠ '=') with
        | [] => none
        | _ :: value => some (String.ofList value))
  | '-' :: c :: cs => shortStep o (c :: cs)
  | _ => .stop (.misuse (.unknown arg))

/-- Whether an argument may be the value of the option before it. -/
def isValue (arg : String) : Bool :=
  match arg.toList with
  | '-' :: _ :: _ => false
  | _ => true

/-- Reads arguments, given the options so far and the option that waits for its value. -/
def readArguments (o : Options) : Option Sign → List String → Request
  | none, [] => .run o
  | some s, [] => .misuse (.valueless s)
  | some s, arg :: args =>
    if isValue arg then
      match o.give arg s with
      | some o => readArguments o none args
      | none => .misuse (o.refusal s)
    else .misuse (.valueless s)
  | none, arg :: args =>
    if arg = "--" then
      match args with
      | [] => .run o
      | other :: _ => .misuse (.unknown other)
    else
      match argumentStep o arg with
      | .next o => readArguments o none args
      | .await o s => readArguments o (some s) args
      | .stop r => r

/-- The request that a list of arguments makes. -/
def Request.ofArguments (args : List String) : Request :=
  readArguments {} none args

/-! ## Help -/

/-- What the program says about its options. -/
def helpText : String :=
  String.join
    ["A tiny terminal over a persistent virtual file system\n",
     "\n",
     "Usage: blogshell [OPTIONS]\n",
     "\n",
     "Options:\n",
     "  -c <COMMAND>                 Run a single command line and exit\n",
     "      --config <CONFIG>        Path to a TOML config file\n",
     "      --data-dir <DATA_DIR>    Directory holding the persistent state\n",
     "      --ephemeral              Keep everything in memory for this session\n",
     "      --log-level <LOG_LEVEL>  Log filter, e.g. `info` or `blogshell=debug`\n",
     "      --reset                  Start from an empty file system\n",
     "  -h, --help                   Print help\n",
     "  -V, --version                Print version\n"]

/-- The name and version of the program. -/
def versionText : String := "blogshell 0.1.0\n"

end TreeShell.Launch
