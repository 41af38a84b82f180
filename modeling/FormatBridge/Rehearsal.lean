import FormatBridge.Run

set_option autoImplicit false

/-! # Rehearsals

A rehearsal runs the whole program on a disk against a backend that follows a script. The backend
reads request lines, writes bytes in which it can name the requests it has read, removes
directories, and exits. Whenever it is its turn the program has gone on until it has to wait, so it
finds all request lines that it can find. -/

namespace FormatBridge

/-! ## Scripts -/

/-- What a scripted backend does. -/
inductive Cue where
  /-- It reads this many request lines, or as many as there are. -/
  | read (n : Nat)
  /-- It writes bytes, with ids put in. -/
  | write (bytes : Bytes)
  | removeDirectory (path : String)
  | exit
  deriving DecidableEq, Repr

/-- `s` behind `done` (last first) with `new` in place of `old` wherever that stands; the first
    `skip` bytes are passed over. -/
def Bytes.replaceOnto (old new done : Bytes) (skip : Nat) : Bytes → Bytes
  | [] => done.reverse
  | a :: rest =>
    match skip with
    | skip + 1 => replaceOnto old new done skip rest
    | 0 =>
      if old.isPrefixOf (a :: rest) then
        replaceOnto old new (new.reverse ++ done) (old.length - 1) rest
      else replaceOnto old new (a :: done) 0 rest

/-- Bytes with `new` in place of `old` wherever that stands. -/
def Bytes.replace (s old new : Bytes) : Bytes := replaceOnto old new [] 0 s

/-- What stands in a script for the id of the `k`th request that was read. -/
def Cue.placeholder (k : Nat) : Bytes := Utf8.encode ("%ID" ++ toString k ++ "%")

/-- Bytes with the ids of the requests in `taken` in place of their placeholders. -/
def Cue.fill (taken : List Bytes) (bytes : Bytes) : Bytes :=
  let fillOne (s : Bytes) (line : Bytes × Nat) : Bytes :=
    match Message.decode? line.1 with
    | some m => s.replace (placeholder line.2) (Utf8.encode m.header.id)
    | none => s
  taken.zipIdx.foldl fillOne bytes

/-! ## Acting -/

/-- A rehearsal that is going on. -/
structure Stage where
  disk : Disk
  host : Host
  /-- What was seen of it. -/
  seen : List Happening
  /-- The bytes that the backend has not read yet. -/
  unread : Bytes
  /-- The request lines that it has read. -/
  taken : List Bytes

namespace Stage

/-- The program has done something. -/
def follow (s : Stage) {α : Type} (did : Did α) : Stage :=
  let written := did.1.flatMap fun
    | .wrote bytes => bytes
    | _ => []
  { s with host := did.2.2, seen := s.seen ++ did.1, unread := s.unread ++ written }

/-- The backend reads a line, if there is one. -/
def readLine (s : Stage) : Stage :=
  match s.unread.dropWhile (· ≠ 10) with
  | [] => s
  | ending :: rest =>
    { s with unread := rest, taken := s.taken ++ [s.unread.takeWhile (· ≠ 10) ++ [ending]] }

/-- The backend comes to its end, and with it its output. -/
def close (s : Stage) : Stage := s.follow (s.host.step .endInput false)

/-- The backend follows a script to its end. -/
def act (here : Place) (s : Stage) : List Cue → Stage
  | [] | .exit :: _ => s.close
  | .read n :: rest => act here (n.repeat readLine s) rest
  | .write bytes :: rest =>
    act here (s.follow (s.host.step (.feed (Cue.fill s.taken bytes)) false)) rest
  | .removeDirectory path :: rest =>
    match s.disk.resolve here path with
    | .ok place => act here { s with disk := s.disk.remove place } rest
    | .error _ => act here s rest

end Stage

/-! ## The whole program -/

/-- What a rehearsed program finds around it. -/
structure Scene where
  disk : Disk
  here : Place
  /-- The directories in which commands are searched for. -/
  searchPath : List Place
  defaultPath : String

/-- A scene as a run finds it. -/
def Scene.surroundings (s : Scene) : Surroundings where
  find := s.disk.find s.here
  start := s.disk.startCommand s.here s.searchPath
  defaultPath := s.defaultPath

/-- What a rehearsal gives. -/
structure Rehearsal where
  report : Report
  /-- The disk afterwards. -/
  disk : Disk
  /-- The places that were written to, in order. -/
  written : List Place
  /-- The backend's arguments and the request lines that it read, if it was started. -/
  backend : Option (List String × List Bytes)

namespace Rehearsal

/-- Writes to the file at a path and keeps account of it. -/
def write (here : Place) (path : String) (bytes : Bytes) :
    StateM (Disk × List Place) (Except Obstacle Unit) := do
  let (disk, written) ← get
  match disk.resolve here path, disk.write here path bytes with
  | .ok place, .ok disk =>
    set (disk, written ++ [place])
    return .ok ()
  | .error obstacle, _ | _, .error obstacle => return .error obstacle

/-- Prints a text. Whoever watches a rehearsal takes all of it. -/
def print (_ : String) : StateM (Disk × List Place) (Except String Unit) := return .ok ()

/-- Formats files with a scripted backend. -/
def ofArguments (a : Arguments) (scene : Scene) (session : String) (script : List Cue) :
    Rehearsal :=
  match Job.prepare a scene.surroundings with
  | .error error => ⟨error.failed [], scene.disk, [], none⟩
  | .ok job =>
    let opened : Stage := ⟨scene.disk, job.host session .unlimited, [], [], []⟩
    let s := (opened.follow (job.begin session)).act scene.here script
    let (report, disk, written) :=
      (job.finish s.seen s.host (write scene.here) print).run (s.disk, [])
    ⟨report, disk, written, some (job.settings.backend.args, s.taken)⟩

/-- Runs the program with the words of a command line and a scripted backend. -/
def ofWords (words : List String) (scene : Scene) (session : String) (script : List Cue) :
    Rehearsal :=
  match Invocation.ofWords words with
  | .format a => ofArguments a scene session script
  | .help => ⟨⟨0, helpText, []⟩, scene.disk, [], none⟩
  | .rejected error => ⟨⟨2, "", [.said ("error: " ++ error.message)]⟩, scene.disk, [], none⟩

end Rehearsal

end FormatBridge
