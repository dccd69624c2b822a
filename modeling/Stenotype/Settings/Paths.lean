import Stenotype.Text.Basic

/-!
# Where the settings are

The settings file lies in a directory that the environment may name; otherwise it is the
program's own directory among the user's configuration files.
-/

set_option autoImplicit false

namespace Stenotype

/-- `name` in a directory; an absolute name stands by itself. -/
def joinPath (directory name : Text) : Text :=
  if name.head? = some '/' then name
  else if directory.isEmpty || directory.getLast? = some '/' then directory ++ name
  else directory ++ ['/'] ++ name

structure SettingsPaths where
  directory : Text
  file : Text
  deriving DecidableEq, Repr

namespace SettingsPaths

def inDirectory (directory : Text) : SettingsPaths :=
  ⟨directory, joinPath directory "settings.toml".toList⟩

/-- The user's configuration files: where the environment says, if that is an absolute path, else
below the home directory, else here. -/
def userDirectory (configHome home : Option Text) : Text :=
  match configHome, home with
  | some ('/' :: r), _ => '/' :: r
  | _, some home => joinPath home ".config".toList
  | _, none => ['.']

def ofEnvironment (chosen configHome home : Option Text) : SettingsPaths :=
  match chosen with
  | some (c :: r) => inDirectory (c :: r)
  | _ => inDirectory (joinPath (userDirectory configHome home) "steno-format".toList)

end SettingsPaths
end Stenotype
