import FormatBridge.CommandLine
import FormatBridge.Host.Command
import FormatBridge.Settings.Location

set_option autoImplicit false

/-! # A run of the program

A run prepares a job, has its files formatted over one connection, and writes back or prints what
came of it. Preparing a job settles everything that can go wrong before the backend is at work: the
settings are read, every file is opened, and the backend is started. The job's host then sends each
file's text once and goes on until the connection has ended; no handle outlives the sending, so the
connection ends by itself once every reply is in. -/

namespace FormatBridge

/-! ## What can go wrong -/

/-- Why a run ends before its work is done. -/
inductive RunError where
  | settings (error : SettingsError)
  | defaultSettings (error : SettingsError)
  | unreadable (path error : String)
  /-- No command is known that starts the backend. -/
  | noBackend
  | notStarted (command : String) (obstacle : Obstacle)
  | unwritable (path : String) (obstacle : Obstacle)
  | unprintable (error : String)
  deriving DecidableEq, Repr

namespace RunError

/-- The wording of an error. -/
def message : RunError → String
  | settings error => error.message
  | defaultSettings _ => "failed to load default configuration"
  | unreadable path _ => "failed to read " ++ path
  | noBackend => "no formatter backend configured; pass --backend or set backend.command"
  | notStarted command _ => "failed to spawn formatter backend `" ++ command ++ "`"
  | unwritable path _ => "failed to write " ++ path
  | unprintable error => error

/-- The wording of what is behind an error. -/
def cause : RunError → Option String
  | settings _ | noBackend | unprintable _ => none
  | defaultSettings error => some error.message
  | unreadable _ error => some error
  | notStarted _ obstacle | unwritable _ obstacle => some obstacle.text

/-- An error as it is shown: its wording, and below it, indented, what is behind it. -/
def report (e : RunError) : List String :=
  ("Error: " ++ e.message) ::
    match e.cause with
    | none => []
    | some cause => "" :: "Caused by:" :: (Text.cut '\n' cause).map ("    " ++ ·)

end RunError

/-! ## Preparing a job -/

/-- What a run finds around it. -/
structure Surroundings where
  find : String → Found
  /-- Whether a command can be started. -/
  start : String → Except Obstacle Unit
  defaultPath : String

/-- How many bytes a word of a command line that starts a program may have. -/
def maxWordBytes : Nat := 131071

/-- How many bytes such a command line may have. -/
def maxLaunchBytes : Nat := 2097152

/-- How many bytes a command line takes: each word has an end and an address of eight bytes. -/
def launchBytes (words : List String) : Nat :=
  words.foldl (fun n word => n + word.utf8ByteSize + 9) 0

/-- Whether a command can be started with arguments. -/
def Surroundings.launch (around : Surroundings) (command : String) (args : List String) :
    Except Obstacle Unit := do
  let words := command :: args
  if words.any Text.hasNul then throw .nulInWord
  around.start command
  if words.any (maxWordBytes < ·.utf8ByteSize) || maxLaunchBytes < launchBytes words then
    throw .wordsTooLong

/-- Settings with the backend of the command line. A command replaces the configured one together
    with its arguments; arguments without a command replace only the configured arguments. -/
def Arguments.override (a : Arguments) (s : Settings) : Settings :=
  match a.backend with
  | some command => { s with backend := ⟨some command, a.backendArgs⟩ }
  | none => if a.backendArgs.isEmpty then s else { s with backend.args := a.backendArgs }

/-- The settings of a run: those of the named or the default file with the backend of the command
    line. They can be used before and after it is put in. -/
def Arguments.settings (a : Arguments) (around : Surroundings) : Except RunError Settings := do
  let configured ←
    match a.config with
    | some path => (Settings.load path (around.find path)).mapError .settings
    | none =>
      (Settings.loadDefault around.defaultPath (around.find around.defaultPath)).mapError
        .defaultSettings
  (a.override configured).validate.mapError .settings

/-- A file that was opened. -/
structure SourceFile where
  path : String
  text : String
  deriving DecidableEq, Repr

namespace SourceFile

/-- Opens the file at a path. -/
def open? (around : Surroundings) (path : String) : Except RunError SourceFile :=
  match (around.find path).readText with
  | .ok text => .ok ⟨path, text⟩
  | .error error => .error (.unreadable path error)

/-- The buffer in which the file is formatted. -/
def buffer (f : SourceFile) : Buffer := .ofText (some f.path) f.text

end SourceFile

/-- A job whose backend is at work. -/
structure Job where
  settings : Settings
  /-- The files in the order in which they were named. -/
  files : List SourceFile
  /-- Whether the formatted texts are written back. -/
  write : Bool
  /-- Whether more of the log is shown. -/
  verbose : Bool
  deriving DecidableEq, Repr

namespace Job

/-- Prepares a job: reads the settings, opens every file in order, and starts the backend. -/
def prepare (a : Arguments) (around : Surroundings) : Except RunError Job := do
  let settings ← a.settings around
  let files ← a.files.mapM (SourceFile.open? around)
  match settings.backend.command with
  | none => .error .noBackend
  | some command =>
    match around.launch command settings.backend.args with
    | .error obstacle => .error (.notStarted command obstacle)
    | .ok () => .ok ⟨settings, files, a.write, a.verbose⟩

/-! ## Formatting -/

/-- A host with the job's files, all selected. -/
def host (j : Job) (session : String) (outlet : Outlet) : Host :=
  .start session outlet (j.files.map (·.buffer)) true

/-- What the host is told at first: to bind a dispatcher to the format action, to invoke the action
    once, and to let go of everything that could send another request. -/
def opening (j : Job) : List Command :=
  [.dispatcher (.handle 0) (some j.settings.channel.requestKind) false, .drop 0,
    .plugin 0 (some j.settings.action), .load 0, .invoke j.settings.action.fullName,
    .dropPlugin 0, .dropDispatcher 0, .dropTable]

/-- Sends every file's text and lets the connection go on until it has to wait. -/
def begin (j : Job) (session : String) : Did Unit :=
  let (seen, (), h) := (j.host session .unlimited).obeyAll j.opening
  let (later, _, h) := h.step .poll false
  (seen ++ later, (), h)

/-! ## What came of it -/

/-- How the connection ended. -/
def transport (h : Host) : Except TransportError Unit :=
  match h.connection.phase with
  | .ended result => result
  | .running | .draining | .aborted => .error .stopped

/-- Whether every file was formatted. -/
def succeeded (h : Host) : Bool :=
  h.failures.isEmpty && match transport h with | .ok () => true | .error _ => false

/-- The files with their texts as they are now. -/
def results (j : Job) (h : Host) : List (SourceFile × String) :=
  j.files.zip (h.buffers.map (·.text))

/-- Texts as they are printed; with more than one of them, each under its file's path. -/
def printed (results : List (SourceFile × String)) : String :=
  String.join (results.map fun (file, text) =>
    (if results.length > 1 then "==> " ++ file.path ++ " <==\n" else "") ++ text)

/-- Writes back the texts that have changed, in order, up to the first that cannot be written;
    gives the paths of those that were written, and the error. -/
def save {m : Type → Type} [Monad m] (write : String → Bytes → m (Except Obstacle Unit)) :
    List (SourceFile × String) → m (List String × Option RunError)
  | [] => pure ([], none)
  | (file, text) :: rest =>
    if text = file.text then save write rest
    else do
      match ← write file.path (Utf8.encode text) with
      | .error obstacle => pure ([], some (.unwritable file.path obstacle))
      | .ok () =>
        let (written, error) ← save write rest
        pure (file.path :: written, error)

end Job

/-! ## Reports -/

/-- What a run shows beside its output. -/
inductive Notice where
  | logged (event : LogEvent)
  /-- A line of text. -/
  | said (line : String)
  deriving DecidableEq, Repr

/-- What a run gives. -/
structure Report where
  /-- The exit status: 0 when every file was formatted, and written back or printed. -/
  exit : Nat
  /-- What was printed. When printing met an error nothing is noted here, though a part of the texts
      may have come out. -/
  output : String
  /-- What is shown beside it, in order. Showing it is taken to succeed. -/
  notices : List Notice
  deriving Repr

/-- The report of a run that ended with an error. -/
def RunError.failed (e : RunError) (notices : List Notice) : Report :=
  ⟨1, "", notices ++ e.report.map .said⟩

/-- A failure as it is shown. -/
def Failure.line (f : Failure) : String := "cellfmt: " ++ f.buffer ++ ": " ++ f.error.message

namespace Job

/-- Whether an event is shown. -/
def shows (j : Job) (e : LogEvent) : Bool :=
  (if j.verbose then Level.debug.rank else Level.info.rank) ≤ e.level.rank

/-- The events among what was seen that are shown. -/
def shown (j : Job) (seen : List Happening) : List Notice :=
  seen.filterMap fun
    | .log e => if j.shows e then some (.logged e) else none
    | _ => none

/-- What is shown once the backend has come to its end: how the connection failed, if it did, and
    every file that was not formatted. -/
def conclusion (j : Job) (h : Host) : List Notice :=
  let failed : List Happening :=
    match transport h with
    | .ok () => []
    | .error error => [.log (.connectionFailed error)]
  j.shown (.log .backendExited :: failed) ++ h.failures.map fun f => .said f.line

/-- Writes back or prints what came of a job, and reports. `seen` is what was seen while the backend
    was at work, and `h` the job's host at the end of it. -/
def finish {m : Type → Type} [Monad m] (j : Job) (seen : List Happening) (h : Host)
    (write : String → Bytes → m (Except Obstacle Unit)) (print : String → m (Except String Unit)) :
    m Report := do
  let notices := j.shown (.log .backendSpawned :: seen) ++ j.conclusion h
  let exit := if succeeded h then 0 else 1
  if j.write then
    let (written, error) ← save write (j.results h)
    let notices := notices ++ j.shown (written.map fun path => .log (.fileFormatted path))
    match error with
    | some error => pure (error.failed notices)
    | none => pure ⟨exit, "", notices⟩
  else
    let output := printed (j.results h)
    match ← print output with
    | .error error => pure ((RunError.unprintable error).failed notices)
    | .ok () => pure ⟨exit, output, notices⟩

end Job

/-! ## Reports as lines -/

/-- A notice as a text. -/
def Notice.text : Notice → String
  | .logged e => e.text
  | .said line => line

/-- A line of what a run shows beside its output. -/
inductive ReportLine where
  /-- The first line of an event. -/
  | event (e : LogEvent)
  /-- Any other line. -/
  | plain (line : String)
  deriving DecidableEq, Repr

/-- The lines of a notice. An event with a line break in a field goes on over plain lines. -/
def Notice.lines (n : Notice) : List ReportLine :=
  match n with
  | .logged e => .event e :: ((Text.lines n.text).drop 1).map .plain
  | .said _ => (Text.lines n.text).map .plain

/-- The lines of a report, in order. -/
def Report.lines (r : Report) : List ReportLine := r.notices.flatMap (·.lines)

namespace ReportLine

/-- The events among lines. -/
def events (lines : List ReportLine) : List LogEvent :=
  lines.filterMap fun
    | event e => some e
    | plain _ => none

/-- The plain ones among lines. Files that got no reply all at once are listed in order. -/
def complaints (lines : List ReportLine) : List String :=
  let absent : List Char := (": " ++ ReplyError.absent.message).toList
  Text.sortRuns (fun line => absent.isSuffixOf line.toList) id <|
    lines.filterMap fun
      | event _ => none
      | plain line => some line

end ReportLine

end FormatBridge
