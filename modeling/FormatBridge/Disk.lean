import FormatBridge.Text.Cut
import FormatBridge.Text.Utf8

set_option autoImplicit false

/-! # Files and directories

A `Disk` says for every place whether a directory or a file lies there. A place is the list of names
on the way from the root; a path is a text that leads from one place to another, name by name, and
every name but the last has to be a directory's. Names and paths have a greatest length, and no path
holds a NUL. Reading, writing and starting what a path leads to either succeed or meet an
obstacle. -/

namespace FormatBridge

/-! ## What a path leads to -/

/-- What stands in the way of using what a path leads to. -/
inductive Obstacle where
  /-- Nothing lies there. -/
  | missing
  /-- A directory lies there and not a file. -/
  | directory
  /-- The way leads through something that is no directory. -/
  | notDirectory
  | denied
  | tooLong
  | nulInPath
  /-- A word of the command line that should start a program holds a NUL. -/
  | nulInWord
  /-- That command line, or a word of it, is too long. -/
  | wordsTooLong
  deriving DecidableEq, Repr

/-- The wording of an obstacle. -/
def Obstacle.text : Obstacle → String
  | .missing => "No such file or directory (os error 2)"
  | .directory => "Is a directory (os error 21)"
  | .notDirectory => "Not a directory (os error 20)"
  | .denied => "Permission denied (os error 13)"
  | .tooLong => "File name too long (os error 36)"
  | .nulInPath => "file name contained an unexpected NUL byte"
  | .nulInWord => "nul byte found in provided data"
  | .wordsTooLong => "Argument list too long (os error 7)"

/-- What is found at a path: the bytes of a file, or an obstacle. -/
abbrev Found := Except Obstacle Bytes

namespace Found

/-- Whether a file lies there, readable or not. -/
def isFile : Found → Bool
  | .ok _ | .error .denied => true
  | .error _ => false

/-- The wording of the error when a file that should be a text is none. -/
def notTextText : String := "stream did not contain valid UTF-8"

/-- The text of a file, or the wording of the error that reading it meets. -/
def readText : Found → Except String String
  | .error obstacle => .error obstacle.text
  | .ok bytes =>
    match Utf8.decode? bytes with
    | some text => .ok text
    | none => .error notTextText

end Found

/-! ## Disks -/

/-- A place on a disk: the names on the way from the root. -/
abbrev Place := List String

/-- What lies at a place. -/
inductive Node where
  | directory
  /-- A file, and whether it can be started as a program. -/
  | file (bytes : Bytes) (program : Bool)
  deriving DecidableEq, Repr

/-- A disk. -/
@[ext]
structure Disk where
  /-- What lies at each place. -/
  node : Place → Option Node

namespace Disk

/-- A disk with nothing but its root. -/
def empty : Disk := ⟨fun place => if place = [] then some .directory else none⟩

/-- Puts something at a place. -/
def put (d : Disk) (place : Place) (node : Node) : Disk :=
  ⟨fun other => if other = place then some node else d.node other⟩

/-- Puts something at a place, and directories on the way to it where nothing is. -/
def deepPut (d : Disk) (place : Place) (node : Node) : Disk :=
  let clear (d : Disk) (k : Nat) : Disk :=
    if d.node (place.take k) = none then d.put (place.take k) .directory else d
  ((List.range place.length).foldl clear d).put place node

/-- Removes what lies at a place and everything below it. -/
def remove (d : Disk) (place : Place) : Disk :=
  ⟨fun other => if place.isPrefixOf other then none else d.node other⟩

/-! ### Following a path -/

/-- The place that a name leads to from a place: a dot stays there, two dots go up. -/
def follow (here : Place) (name : String) : Place :=
  if name = "" || name = "." then here
  else if name = ".." then here.dropLast
  else here ++ [name]

/-- How many bytes a name may have. -/
def maxNameBytes : Nat := 255

/-- How many bytes a path may have. -/
def maxPathBytes : Nat := 4095

/-- The place that names lead to one after the other. A name leads on from directories only. -/
def walk (d : Disk) (here : Place) : List String → Except Obstacle Place
  | [] => .ok here
  | name :: rest =>
    match d.node here with
    | some .directory =>
      if name.utf8ByteSize ≤ maxNameBytes then d.walk (follow here name) rest else .error .tooLong
    | some (.file ..) => .error .notDirectory
    | none => .error .missing

/-- Whether a path starts at the root. -/
def isAbsolute (path : String) : Bool := path.toList.head? = some '/'

/-- The place that a path leads to from `here`. The empty path leads nowhere. -/
def resolve (d : Disk) (here : Place) (path : String) : Except Obstacle Place :=
  if Text.hasNul path then .error .nulInPath
  else if path.isEmpty then .error .missing
  else if maxPathBytes < path.utf8ByteSize then .error .tooLong
  else d.walk (if isAbsolute path then [] else here) (Text.cut '/' path)

/-! ### Using what lies there -/

/-- What is found at a path. -/
def find (d : Disk) (here : Place) (path : String) : Found := do
  let place ← d.resolve here path
  match d.node place with
  | some (.file bytes _) => .ok bytes
  | some .directory => .error .directory
  | none => .error .missing

/-- Replaces the bytes of the file at a path. -/
def write (d : Disk) (here : Place) (path : String) (bytes : Bytes) : Except Obstacle Disk := do
  let place ← d.resolve here path
  match d.node place with
  | some (.file _ program) => .ok (d.put place (.file bytes program))
  | some .directory => .error .directory
  | none => .ok (d.put place (.file bytes false))

/-- Whether a path leads to a program. -/
def start (d : Disk) (here : Place) (path : String) : Except Obstacle Unit := do
  let place ← d.resolve here path
  match d.node place with
  | some (.file _ true) => .ok ()
  | some (.file _ false) | some .directory => .error .denied
  | none => .error .missing

/-- Whether a command is a program in one of some directories. What is found but is no program
    counts only if no program is found. -/
def search (d : Disk) (command : String) : List Place → Except Obstacle Unit
  | [] => .error .missing
  | dir :: rest =>
    match d.start dir command with
    | .ok () => .ok ()
    | .error .denied => (d.search command rest).mapError fun _ => .denied
    | .error _ => d.search command rest

/-- Whether a command can be started: one with a slash in it is a path, any other is searched
    for. -/
def startCommand (d : Disk) (here : Place) (searchPath : List Place) (command : String) :
    Except Obstacle Unit :=
  if command.toList.contains '/' then d.start here command
  else if maxNameBytes < command.utf8ByteSize then .error .tooLong
  else d.search command searchPath

end Disk

end FormatBridge
