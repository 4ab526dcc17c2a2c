import ServerConsole.Settings.File

/-!
# The command line

The server to attach to, and flags that override the settings file.

* `Flag`             the flags that take a value, each at most once;
* `Refusal`          why no arguments come out, asking for help or the version included, with its
                     wording;
* `Arguments.parse`  the arguments of a command line and an environment;
* `Arguments.apply`  the settings with the flags laid over them;
* `Arguments.load`   the settings to run with.

A value is looked at when the next word is understood, so that an unknown word is reported before a
bad value in front of it.
-/

namespace ServerConsole

/-! ## flags -/

inductive Flag
  | panelUrl
  | token
  | config
  | scrollback
  deriving DecidableEq

inductive Refusal
  | noServer
  | unknown (word : String)
  /-- a flag that ends without its value -/
  | noValue (flag : Flag)
  | badValue (text : String)
  | repeated (flag : Flag)
  /-- a value for a word that takes none -/
  | extraValue (word : String)
  | help
  | version
  deriving DecidableEq

namespace Flag

def name : Flag → String
  | panelUrl => "--panel-url"
  | token => "--token"
  | config => "--config"
  | scrollback => "--scrollback"

end Flag

namespace Refusal

def usage : String := "Usage: bconsole [OPTIONS] <SERVER_ID>"

def helpText : String := usage ++ "

Arguments:
  <SERVER_ID>  Server to attach to

Options:
      --panel-url <PANEL_URL>    Panel base URL, e.g. https://panel.example.com
      --token <TOKEN>            API token
  -c, --config <CONFIG>          Config file to use instead of the default location
      --scrollback <SCROLLBACK>  Console lines to keep in memory
  -h, --help                     Print help
  -V, --version                  Print version"

def versionText : String := "bconsole 0.1.0"

def message : Refusal → String
  | noServer => "error: the following required arguments were not provided: <SERVER_ID>"
  | unknown word => "error: unexpected argument '" ++ word ++ "' found"
  | noValue flag => "error: a value is required for '" ++ flag.name ++ "' but none was supplied"
  | badValue text => "error: invalid value '" ++ text ++ "'"
  | repeated flag => "error: the argument '" ++ flag.name ++ "' cannot be used multiple times"
  | extraValue word => "error: unexpected value for '--" ++ word ++ "'"
  | help => helpText
  | version => versionText

/-- asking for help or the version is no mistake -/
def isRequested : Refusal → Bool
  | help | version => true
  | _ => false

end Refusal

/-- the words understood after two hyphens -/
inductive LongName
  | flag (flag : Flag)
  | help
  | version

def LongName.ofText? : String → Option LongName
  | "panel-url" => some (.flag .panelUrl)
  | "token" => some (.flag .token)
  | "config" => some (.flag .config)
  | "scrollback" => some (.flag .scrollback)
  | "help" => some .help
  | "version" => some .version
  | _ => none

/-! ## words -/

inductive Word
  /-- two hyphens alone: only plain words follow -/
  | separator
  | long (name : String) (value : Option String)
  | short (letter : Char) (rest : List Char)
  | plain (text : String)

def Word.ofText (s : String) : Word :=
  match s.toList with
  | ['-', '-'] => .separator
  | '-' :: '-' :: cs =>
    let (name, value) := Text.cut '=' cs
    .long (String.ofList name) (value.map String.ofList)
  | '-' :: c :: cs => .short c cs
  | _ => .plain s

/-! ## arguments -/

structure Arguments where
  server : ServerId
  panelUrl : Option String
  token : Option String
  /-- the settings file to read instead of the default one -/
  config : Option String
  scrollback : Option UInt64
  deriving DecidableEq

namespace Arguments

/-- what was read last and is not looked at yet -/
inductive Pending
  | nothing
  | awaiting (flag : Flag)
  | value (flag : Flag) (text : String)
  | server (text : String)

structure Draft where
  server : Option ServerId
  panelUrl : Option String
  token : Option String
  config : Option String
  scrollback : Option UInt64
  pending : Pending
  /-- whether a server has been named -/
  named : Bool

namespace Draft

def empty : Draft := ⟨none, none, none, none, none, .nothing, false⟩

def has (d : Draft) : Flag → Bool
  | .panelUrl => d.panelUrl.isSome
  | .token => d.token.isSome
  | .config => d.config.isSome
  | .scrollback => d.scrollback.isSome

def readCount? (s : String) : Option UInt64 :=
  (Text.unsigned? (UInt64.size - 1) s.toList).map Nat.toUInt64

def give (d : Draft) (flag : Flag) (s : String) : Except Refusal Draft :=
  if d.has flag then .error (.repeated flag)
  else match flag with
    | .panelUrl => .ok { d with panelUrl := some s }
    | .token => .ok { d with token := some s }
    | .config => if s.isEmpty then .error (.noValue flag) else .ok { d with config := some s }
    | .scrollback =>
      match readCount? s with
      | some n => .ok { d with scrollback := some n }
      | none => .error (.badValue s)

/-- looks at what is pending -/
def settle (d : Draft) : Except Refusal Draft :=
  let rest := { d with pending := .nothing }
  match d.pending with
  | .nothing => .ok rest
  | .awaiting flag => .error (.noValue flag)
  | .value flag s => rest.give flag s
  | .server s =>
    match ServerId.ofText? s with
    | some id => .ok { rest with server := some id }
    | none => .error (.badValue s)

/-- a flag with its value, or with the value still to come -/
def takeFlag (d : Draft) (flag : Flag) (value : Option String) : Except Refusal Draft := do
  let d ← d.settle
  match value with
  | some s => d.give flag s
  | none => return { d with pending := .awaiting flag }

def takeLong (d : Draft) (name : String) (value : Option String) : Except Refusal Draft :=
  match LongName.ofText? name, value with
  | none, _ => .error (.unknown name)
  | some (.flag flag), _ => d.takeFlag flag value
  | some _, some _ => .error (.extraValue name)
  | some .help, none => do
    let _ ← d.settle
    throw .help
  | some .version, none => do
    let _ ← d.settle
    throw .version

/-- the rest of a short word, with or without an equals sign, is the value of its flag -/
def takeShort (d : Draft) (letter : Char) (rest : List Char) : Except Refusal Draft :=
  match letter, rest with
  | 'c', [] => d.takeFlag .config none
  | 'c', '=' :: cs => d.takeFlag .config (some (String.ofList cs))
  | 'c', cs => d.takeFlag .config (some (String.ofList cs))
  | 'h', _ => do
    let _ ← d.settle
    throw .help
  | 'V', _ => do
    let _ ← d.settle
    throw .version
  | _, _ => .error (.unknown (String.singleton letter))

def takeServer (d : Draft) (s : String) : Except Refusal Draft := do
  if d.named then throw (.unknown s)
  let d ← d.settle
  return { d with pending := .server s, named := true }

def takePlain (d : Draft) (s : String) : Except Refusal Draft :=
  match d.pending with
  | .awaiting flag => .ok { d with pending := .value flag s }
  | _ => d.takeServer s

/-- all words; after a separator they name servers only -/
def takeAll (d : Draft) : List String → Except Refusal Draft
  | [] => d.settle
  | s :: more =>
    match Word.ofText s with
    | .separator => do (← more.foldlM takeServer d).settle
    | .long name value => do (← d.takeLong name value).takeAll more
    | .short letter rest => do (← d.takeShort letter rest).takeAll more
    | .plain text => do (← d.takePlain text).takeAll more

end Draft

/-- the variables of an environment -/
abbrev Environment := String → Option String

def panelUrlVariable : String := "BIRDACTYL_PANEL_URL"
def tokenVariable : String := "BIRDACTYL_TOKEN"

/-- the words after the program's name; the environment stands in for flags that are not given -/
def parse (words : List String) (env : Environment) : Except Refusal Arguments := do
  let d ← Draft.empty.takeAll words
  match d.server with
  | none => throw .noServer
  | some id => return {
      server := id
      panelUrl := d.panelUrl.or (env panelUrlVariable)
      token := d.token.or (env tokenVariable)
      config := d.config
      scrollback := d.scrollback }

/-! ## layering -/

def apply (a : Arguments) (s : Settings) : Settings :=
  { s with
    panel := ⟨a.panelUrl.or s.panel.url, a.token.or s.panel.token⟩
    console := { s.console with scrollback := a.scrollback.getD s.console.scrollback } }

/-- the settings of the file named, or of the default one if there is one -/
def base (a : Arguments) (files : Settings.Files) (defaultPath : String)
    (isThere : Bool := (files defaultPath).isSome) : Except Failure Settings :=
  match a.config with
  | some path => Settings.ofFile files path
  | none => Settings.ofDefaultFile files defaultPath isThere

def load (a : Arguments) (files : Settings.Files) (defaultPath : String)
    (isThere : Bool := (files defaultPath).isSome) : Except Failure Settings := do
  let s := a.apply (← a.base files defaultPath isThere)
  s.check
  return s

end Arguments

end ServerConsole
