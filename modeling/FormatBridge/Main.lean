import FormatBridge.Run

set_option autoImplicit false

/-! # The program

Reads and writes files, environment and streams for a run, which decides everything else. The
backend is started by whoever starts the program: its output is read from descriptor 3 and its input
is written to descriptor 4. -/

namespace FormatBridge.Main

/-- The obstacle that an error of the system stands for. -/
def obstacle : IO.Error → Obstacle
  | .noFileOrDirectory .. | .noSuchThing .. => .missing
  | .invalidArgument _ code _ => if code = 22 then .nulInPath else .tooLong
  | .inappropriateType _ code _ => if code = 21 || code = -21 then .directory else .notDirectory
  | _ => .denied

/-- What is found at a path. -/
def find (path : String) : IO Found := do
  try
    return .ok (← IO.FS.readBinFile path).toList
  catch error => return .error (obstacle error)

/-- Writes the file at a path. -/
def write (path : String) (bytes : Bytes) : IO (Except Obstacle Unit) := do
  try
    IO.FS.writeBinFile path ⟨bytes.toArray⟩
    return .ok ()
  catch error => return .error (obstacle error)

/-- Prints a text. -/
def print (text : String) : IO (Except String Unit) := do
  try
    IO.print text
    (← IO.getStdout).flush
    return .ok ()
  catch error => return .error (toString error)

/-- The backend's streams: its output and its input. -/
structure Streams where
  output : IO.FS.Handle
  input : IO.FS.Handle

/-- The backend's streams, if there is a backend. -/
def streams : IO (Except Obstacle Streams) := do
  try
    return .ok ⟨← IO.FS.Handle.mk "/dev/fd/3" .read, ← IO.FS.Handle.mk "/dev/fd/4" .write⟩
  catch error => return .error (obstacle error)

/-- Reads a line, or what there is before the end. -/
partial def readLine (output : IO.FS.Handle) (line : ByteArray) : IO ByteArray := do
  let byte ← output.read 1
  if byte.isEmpty || byte.toList = [10] then return line ++ byte
  else readLine output (line ++ byte)

/-- Writes to the backend what was seen to be written, and lets go of its input once it is shut
    down. -/
def deliver (input : Option IO.FS.Handle) (seen : List Happening) :
    IO (Option IO.FS.Handle) := do
  let mut input := input
  for happening in seen do
    match happening, input with
    | .wrote bytes, some handle =>
      handle.write ⟨bytes.toArray⟩
      handle.flush
    | .shutDown, _ => input := none
    | _, _ => pure ()
  return input

/-- Lets the host and the backend go on until the connection has ended. -/
partial def converse (output : IO.FS.Handle) (input : Option IO.FS.Handle)
    (done : List Happening) (did : Did Unit) : IO (List Happening × Host) := do
  let (seen, (), host) := did
  let done := done ++ seen
  let command : Command × Option IO.FS.Handle ←
    try
      let input ← deliver input seen
      if host.connection.isClosed then
        pure (.poll, input)
      else
        let line ← readLine output .empty
        pure (if line.isEmpty then .endInput else .feed line.toList, input)
    catch error => pure (.failInput (toString error), none)
  if host.connection.isClosed then return (done, host)
  let (seen, _, host) := host.step command.1 false
  converse output command.2 done (seen, (), host)

/-- Shows the notices of a report, whose output is printed already, and gives its exit status. -/
def present (r : Report) : IO UInt32 := do
  for notice in r.notices do
    IO.eprintln notice.text
  return r.exit.toUInt32

/-- Formats the files of a command line. -/
def format (a : Arguments) : IO UInt32 := do
  let home := (← IO.getEnv "HOME").getD ""
  let defaultPath := Settings.defaultPath (← IO.getEnv "XDG_CONFIG_HOME") home
  let paths := defaultPath :: a.config.toList ++ a.files
  let found ← paths.mapM fun path => return (path, ← find path)
  let streams ← streams
  let around : Surroundings :=
    { find := fun path => (found.lookup path).getD (.error .missing)
      start := fun _ => streams.map fun _ => ()
      defaultPath := defaultPath }
  match Job.prepare a around, streams with
  | .ok job, .ok streams =>
    let session := randomSession (← IO.getRandomBytes 16).toList
    let (seen, host) ← converse streams.output (some streams.input) [] (job.begin session)
    present (← job.finish seen host write print)
  | .error error, _ => present (error.failed [])
  -- a job is prepared only when there are streams
  | .ok _, .error _ => return 1

end FormatBridge.Main

/-- Runs the program with the words of its command line. -/
def main (words : List String) : IO UInt32 :=
  match FormatBridge.Invocation.ofWords words with
  | .format a => FormatBridge.Main.format a
  | .help => do
    IO.print FormatBridge.helpText
    return 0
  | .rejected error => do
    IO.eprintln ("error: " ++ error.message)
    return 2
