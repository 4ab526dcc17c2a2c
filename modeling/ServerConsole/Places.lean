/-!
# Places of files

Where the settings and the program's own log are kept. Two variables name the base directories; they
count only when they are absolute paths. Otherwise the bases lie in the home directory.

* `join`       a path below another;
* `settingsFolder`, `settingsFile`, `stateFolder`, `logFolder`  the places.
-/

namespace ServerConsole.Places

/-- the variables of an environment -/
abbrev Environment := String → Option String

def isAbsolute (path : String) : Bool := path.toList.head? = some '/'

/-- one slash between the two; an absolute path stands for itself -/
def join (base part : String) : String :=
  if isAbsolute part || base.isEmpty then part
  else if base.toList.getLast? = some '/' then base ++ part
  else base ++ "/" ++ part

def programFolder : String := "birdactyl"

/-- the home directory: as the environment says, else that of the account, else a fixed one -/
def home (env : Environment) (account : Option String) : String :=
  ((env "HOME").filter (!·.isEmpty)).getD (account.getD "/tmp")

/-- a base directory and the program's own folder in it -/
def below (env : Environment) (account : Option String) (variableName : String)
    (parts : List String) : String :=
  let base := match (env variableName).filter isAbsolute with
    | some path => path
    | none => parts.foldl join (home env account)
  join base programFolder

def settingsFolder (env : Environment) (account : Option String) : String :=
  below env account "XDG_CONFIG_HOME" [".config"]

def settingsFile (env : Environment) (account : Option String) : String :=
  join (settingsFolder env account) "console.toml"

def stateFolder (env : Environment) (account : Option String) : String :=
  below env account "XDG_STATE_HOME" [".local", "state"]

def logFolder (env : Environment) (account : Option String) : String :=
  join (stateFolder env account) "log"

end ServerConsole.Places
