set_option autoImplicit false

/-! # The command line

The arguments of a run are read from left to right into items: files, flags and options with their
values. A word that starts with two dashes names one option; one that starts with a single dash is a
row of letters that each name one, the last of which may be followed by its value. Two dashes alone
say that all other words are files. The items are then gathered into `Arguments`, up to the first
fault. -/

namespace FormatBridge

/-! ## Options -/

/-- An option without a value. -/
inductive Flag where
  | write
  | verbose
  /-- Show how the command line is written. -/
  | help
  deriving DecidableEq, Repr

/-- An option with a value. -/
inductive Parameter where
  | config
  | backend
  | backendArg
  deriving DecidableEq, Repr

/-- An option. -/
inductive CommandOption where
  | flag (f : Flag)
  | parameter (p : Parameter)
  deriving DecidableEq, Repr

namespace CommandOption

/-- The option of a full name. -/
def named? : String → Option CommandOption
  | "write" => some (.flag .write)
  | "verbose" => some (.flag .verbose)
  | "help" => some (.flag .help)
  | "config" => some (.parameter .config)
  | "backend" => some (.parameter .backend)
  | "backend-arg" => some (.parameter .backendArg)
  | _ => none

/-- The option of a letter. -/
def lettered? : Char → Option CommandOption
  | 'w' => some (.flag .write)
  | 'v' => some (.flag .verbose)
  | 'h' => some (.flag .help)
  | 'c' => some (.parameter .config)
  | 'b' => some (.parameter .backend)
  | _ => none

/-- The full name of an option as it is written. -/
def text : CommandOption → String
  | .flag .write => "--write"
  | .flag .verbose => "--verbose"
  | .flag .help => "--help"
  | .parameter .config => "--config"
  | .parameter .backend => "--backend"
  | .parameter .backendArg => "--backend-arg"

end CommandOption

/-- Whether a word can be the value of an option that stands before it. Any word can be an argument
    of the backend; other values do not look like options. -/
def Parameter.takes (p : Parameter) (word : String) : Bool :=
  p = .backendArg || word = "-" || word.toList.head? ≠ some '-'

/-! ## Faults -/

/-- Why a command line is rejected. -/
inductive ArgumentError where
  | unknownOption (word : String)
  /-- An option stands without its value. -/
  | valueMissing (p : Parameter)
  /-- A value was given to an option that has none. -/
  | valueUnexpected (f : Flag)
  /-- An option that may be given once was given again. -/
  | repeated (o : CommandOption)
  | emptyPath
  | noFiles
  deriving DecidableEq, Repr

/-- The wording of a fault. -/
def ArgumentError.message : ArgumentError → String
  | .unknownOption word => "unexpected argument '" ++ word ++ "' found"
  | .valueMissing p => "a value is required for '" ++ (CommandOption.parameter p).text ++ "'"
  | .valueUnexpected f => "no value is allowed for '" ++ (CommandOption.flag f).text ++ "'"
  | .repeated o => "the argument '" ++ o.text ++ "' cannot be used multiple times"
  | .emptyPath => "a path must not be empty"
  | .noFiles => "the following required arguments were not provided: <FILE>..."

/-! ## Items -/

/-- What a word on the command line means. -/
inductive Item where
  | file (path : String)
  | flag (f : Flag)
  | value (p : Parameter) (text : String)
  /-- Nothing: here is a fault. -/
  | fault (e : ArgumentError)
  deriving DecidableEq, Repr

namespace Item

/-- The items in a row of letters, and the option that still waits for its value. -/
def ofLetters : List Char → List Item × Option Parameter
  | [] => ([], none)
  | c :: rest =>
    match CommandOption.lettered? c with
    | some (.flag f) =>
      let (items, waiting) := ofLetters rest
      (.flag f :: items, waiting)
    | some (.parameter p) =>
      match rest with
      | [] => ([], some p)
      | '=' :: text | text => ([.value p (String.ofList text)], none)
    | none => ([.fault (.unknownOption (String.ofList ['-', c]))], none)

/-- The item of a full name with or without a value, or the option that waits for its value. -/
def ofName (name : String) (text : Option String) : List Item × Option Parameter :=
  match CommandOption.named? name, text with
  | some (.flag f), none => ([.flag f], none)
  | some (.flag f), some _ => ([.fault (.valueUnexpected f)], none)
  | some (.parameter p), none => ([], some p)
  | some (.parameter p), some text => ([.value p text], none)
  | none, _ => ([.fault (.unknownOption ("--" ++ name))], none)

/-- The items in what follows two dashes. -/
def ofLong (cs : List Char) : List Item × Option Parameter :=
  let name := String.ofList (cs.takeWhile (· ≠ '='))
  match cs.dropWhile (· ≠ '=') with
  | [] => ofName name none
  | _ :: text => ofName name (some (String.ofList text))

/-- The items on a command line; `waiting` is an option that waits for its value. -/
def ofWords (waiting : Option Parameter) : List String → List Item
  | [] => (waiting.map fun p => .fault (.valueMissing p)).toList
  | word :: rest =>
    match waiting with
    | some p =>
      if p.takes word then .value p word :: ofWords none rest else [.fault (.valueMissing p)]
    | none =>
      match word.toList with
      | ['-', '-'] => rest.map .file
      | '-' :: '-' :: cs =>
        let (items, waiting) := ofLong cs
        items ++ ofWords waiting rest
      | '-' :: c :: cs =>
        let (items, waiting) := ofLetters (c :: cs)
        items ++ ofWords waiting rest
      | _ => .file word :: ofWords none rest

end Item

/-! ## Arguments -/

/-- What a run is asked to do. -/
structure Arguments where
  /-- The files to be formatted, at least one. -/
  files : List String
  config : Option String
  backend : Option String
  backendArgs : List String
  write : Bool
  verbose : Bool
  deriving DecidableEq, Repr

/-- What a command line asks for. -/
inductive Invocation where
  | format (a : Arguments)
  | help
  /-- Nothing that can be done. -/
  | rejected (e : ArgumentError)
  deriving DecidableEq, Repr

namespace Arguments

/-- No arguments. -/
def empty : Arguments := ⟨[], none, none, [], false, false⟩

/-- Adds items to arguments. A call for help and a fault end the reading. -/
def gather (a : Arguments) : List Item → Invocation
  | [] => if a.files.isEmpty then .rejected .noFiles else .format a
  | .file path :: rest =>
    if path.isEmpty then .rejected .emptyPath
    else gather { a with files := a.files ++ [path] } rest
  | .flag .write :: rest =>
    if a.write then .rejected (.repeated (.flag .write)) else gather { a with write := true } rest
  | .flag .verbose :: rest =>
    if a.verbose then .rejected (.repeated (.flag .verbose))
    else gather { a with verbose := true } rest
  | .flag .help :: _ => .help
  | .value .config path :: rest =>
    if a.config.isSome then .rejected (.repeated (.parameter .config))
    else if path.isEmpty then .rejected .emptyPath
    else gather { a with config := some path } rest
  | .value .backend command :: rest =>
    if a.backend.isSome then .rejected (.repeated (.parameter .backend))
    else gather { a with backend := some command } rest
  | .value .backendArg arg :: rest =>
    gather { a with backendArgs := a.backendArgs ++ [arg] } rest
  | .fault e :: _ => .rejected e

end Arguments

/-- What the words on a command line ask for. -/
def Invocation.ofWords (words : List String) : Invocation :=
  Arguments.empty.gather (Item.ofWords none words)

/-- How the command line is written. -/
def helpText : String :=
  "Format source files through a formatting backend\n\n" ++
  "Usage: cellfmt [OPTIONS] <FILE>...\n\n" ++
  "Arguments:\n" ++
  "  <FILE>...  Files to format\n\n" ++
  "Options:\n" ++
  "  -c, --config <PATH>      Configuration file (defaults to the user config directory)\n" ++
  "  -b, --backend <CMD>      Backend command, overriding the configuration\n" ++
  "      --backend-arg <ARG>  Argument passed to the backend command (repeatable)\n" ++
  "  -w, --write              Write formatted text back to the files instead of printing it\n" ++
  "  -v, --verbose            Verbose logging\n" ++
  "  -h, --help               Print help\n"

end FormatBridge
