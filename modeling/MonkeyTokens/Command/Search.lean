/-
# Where settings come from

One file gives the settings, and no other is looked into.  A file that is named explicitly has to be
there; otherwise the first of the usual places that has something in it counts, even if that cannot
be read, and where there is nothing at all the defaults hold.
-/
import MonkeyTokens.Command.Request
import MonkeyTokens.Settings

namespace MonkeyTokens

/-- A path below a directory. -/
def below (directory path : String) : String :=
  if directory.toList.getLast? = some '/' then directory ++ path else directory ++ "/" ++ path

/-- The user's own directory: what the environment says, and that of the account where it says
nothing. -/
def homeDirectory? (env : Environment) (account : Option String) : Option String :=
  match env "HOME" with
  | none | some "" => account
  | some home => some home

/-- The directory for settings: what the environment says, if that is an absolute path, and else a
fixed place in the user's own directory. -/
def settingsDirectory? (env : Environment) (account : Option String) : Option String :=
  match env "XDG_CONFIG_HOME" with
  | some directory =>
    if directory.toList.head? = some '/' then some directory
    else (homeDirectory? env account).map (below · ".config")
  | none => (homeDirectory? env account).map (below · ".config")

namespace Settings

/-- The name of a settings file. -/
def fileName : String := "monkey.toml"

/-- The usual places, in the order in which they are looked at. -/
def places (env : Environment) (account : Option String) : List String :=
  fileName :: ((homeDirectory? env account).map (below · (".config/monkey/" ++ fileName))).toList ++
    ((settingsDirectory? env account).map (below · ("monkey/" ++ fileName))).toList

/-- The file that counts, if there is one. -/
def source? (files : FileSystem) (explicit : Option String) (places : List String) :
    Option String :=
  explicit.or (places.find? fun path => (files path).isPresent)

/-- The settings that hold, and the file they were read from. -/
def find (files : FileSystem) (explicit : Option String) (places : List String) :
    Except Error (Settings × Option String) :=
  match source? files explicit places with
  | none => .ok ({}, none)
  | some path => (load files path).map (·, some path)

end Settings

end MonkeyTokens
