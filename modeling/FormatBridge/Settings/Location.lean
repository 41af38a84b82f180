import FormatBridge.Disk
import FormatBridge.Settings.Text

set_option autoImplicit false

/-! # Where settings are kept

Settings are read from a file that is named, or from the default file, which lies in the user's
configuration directory and may be missing. -/

namespace FormatBridge

namespace Settings

/-- The settings in the file at a path. -/
def load (path : String) (found : Found) : Except SettingsError Settings :=
  match found.readText with
  | .error error => .error (.unreadable path error)
  | .ok text => parse text

/-- The settings in the default file; the default ones when there is no file there. -/
def loadDefault (path : String) (found : Found) : Except SettingsError Settings :=
  if found.isFile then load path found else .ok .default

/-! ## The default file -/

/-- The user's configuration directory: the one that is named, if its path is absolute, and else
    the one in the home directory. -/
def directory (named : Option String) (home : String) : String :=
  match named with
  | some path => if Disk.isAbsolute path then path else home ++ "/.config"
  | none => home ++ "/.config"

/-- A name within a directory. -/
def join (dir name : String) : String :=
  if dir.toList.getLast? = some '/' then dir ++ name else dir ++ "/" ++ name

/-- The path of the default file. -/
def defaultPath (named : Option String) (home : String) : String :=
  join (join (directory named home) "cellfmt") "config.toml"

end Settings

end FormatBridge
