import ServerConsole.Failure
import ServerConsole.Power.Action
import ServerConsole.Server.Id
import ServerConsole.Text.Blank
import ServerConsole.Url.Change

/-!
# Addresses at the panel

Everything about a server lives under `/api/v1/servers/{id}`, below the path of the panel's own URL.

* `socketUrl`     the address of the console channel, which carries the token in its query;
* `Endpoint`      what the panel is asked over HTTP;
* `restAddress`   the address of an endpoint.
-/

namespace ServerConsole.Panel

open Text

/-! ## paths -/

def apiPath : List Char := "/api/v1".toList

def serverPath (id : ServerId) : List Char := apiPath ++ "/servers/".toList ++ id.chars

/-- a path without its trailing slashes -/
def basePath (cs : List Char) : List Char := dropTail (· == '/') cs

/-! ## the channel -/

/-- the socket scheme of a panel scheme -/
def socketScheme? (scheme : List Char) : Option (List Char) :=
  if scheme = "http".toList ∨ scheme = "ws".toList then some "ws".toList
  else if scheme = "https".toList ∨ scheme = "wss".toList then some "wss".toList
  else none

/-- the path of the channel, below the path of the panel's URL -/
def socketPath (path : List Char) (id : ServerId) : List Char :=
  basePath path ++ serverPath id ++ "/logs".toList

/-- host, port and credentials stay, a query and a fragment of the panel's URL do not -/
def socketUrl (panel : Url) (id : ServerId) (token : String) : Except Failure Url :=
  match socketScheme? panel.scheme with
  | none => .error (.config
      ("unsupported panel URL scheme '" ++ String.ofList panel.scheme ++ "'"))
  | some scheme =>
    match panel.withScheme? scheme with
    | none => .error (.config ("cannot use '" ++ panel.text ++ "' as a socket URL"))
    | some u => .ok <|
        ((u.withPath (socketPath panel.path id)).withoutFragment).withPairs
          [("token".toList, token.toList)]

/-! ## endpoints -/

inductive Endpoint
  | record
  | permissions
  | status
  | power (action : PowerAction)
  deriving DecidableEq

namespace Endpoint

/-- what follows the server's path -/
def suffix : Endpoint → String
  | record => ""
  | permissions => "/permissions"
  | status => "/status"
  | power action => "/" ++ action.name

/-- asking for an action changes the server, the others only read -/
def method : Endpoint → String
  | power _ => "POST"
  | _ => "GET"

end Endpoint

def restAddress (panel : Url) (id : ServerId) (endpoint : Endpoint) : List Char :=
  basePath panel.chars ++ serverPath id ++ endpoint.suffix.toList

end ServerConsole.Panel
