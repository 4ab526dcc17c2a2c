import ServerConsole.Session.Start

/-!
# Settings

What the operator may set: where the panel is and how to sign in, how much of the log to keep, how
long to wait for a power call, and how to reconnect. Everything has a default.

* `Settings.check`     the bounds that a session relies on;
* `Settings.panelUrl`, `Settings.accessToken`  the two settings that a session cannot do without;
* `Settings.options`   what a session is started with.
-/

namespace ServerConsole

/-! ## parts -/

structure PanelSettings where
  url : Option String
  token : Option String
  deriving DecidableEq

structure ConsoleSettings where
  /-- lines of the log that are kept -/
  scrollback : UInt64
  /-- the longest time a power call may take, in seconds -/
  patience : UInt64
  deriving DecidableEq

/-- delays in milliseconds -/
structure ReconnectSettings where
  initial : UInt64
  maximum : UInt64
  maxAttempts : UInt32
  deriving DecidableEq

structure Settings where
  panel : PanelSettings
  console : ConsoleSettings
  reconnect : ReconnectSettings
  deriving DecidableEq

/-! ## defaults -/

namespace PanelSettings

def standard : PanelSettings := ⟨none, none⟩

end PanelSettings

namespace ConsoleSettings

def standard : ConsoleSettings := ⟨1000, 30⟩

end ConsoleSettings

namespace ReconnectSettings

def standard : ReconnectSettings := ⟨500, 15000, 10⟩

def policy (r : ReconnectSettings) : Link.Policy :=
  ⟨Link.Nanos.ofMillis r.initial.toNat, Link.Nanos.ofMillis r.maximum.toNat, r.maxAttempts⟩

end ReconnectSettings

namespace Settings

def standard : Settings := ⟨.standard, .standard, .standard⟩

/-! ## bounds -/

/-- the first bound that is broken -/
def check (s : Settings) : Except Failure Unit :=
  if s.console.scrollback = 0 then .error (.config "scrollback_lines must be at least 1")
  else if s.console.patience = 0 then .error (.config "power_timeout_secs must be at least 1")
  else if s.reconnect.initial = 0 then .error (.config "initial_delay_ms must be at least 1")
  else if s.reconnect.maximum < s.reconnect.initial then
    .error (.config "max_delay_ms must not be below initial_delay_ms")
  else .ok ()

/-! ## a session's options -/

/-- a blank address is none -/
def panelUrl (s : Settings) : Except Failure Url :=
  match (s.panel.url.map Text.trim).filter (!·.isEmpty) with
  | none => .error (.config "panel URL not set (use --panel-url or [panel] url)")
  | some raw =>
    match Url.ofText raw with
    | .ok url => .ok url
    | .error fault => .error (.config ("invalid panel URL '" ++ raw ++ "': " ++ fault.message))

/-- an empty token is none; a blank one is one -/
def accessToken (s : Settings) : Except Failure String :=
  match s.panel.token.filter (!·.isEmpty) with
  | none => .error (.config "API token not set (use --token or [panel] token)")
  | some token => .ok token

def options (s : Settings) : Except Failure Session.Options := do
  let panel ← s.panelUrl
  let token ← s.accessToken
  return {
    panel := panel
    token := token
    scrollback := s.console.scrollback.toNat
    patience := s.console.patience.toNat
    reconnect := s.reconnect.policy }

end Settings

end ServerConsole
