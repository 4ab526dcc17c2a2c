import ServerConsole.Text.Blank
import ServerConsole.Text.Decimal
import ServerConsole.Text.Utf8

/-!
# How a socket ends

* `SocketError`  a failed connection attempt or read, with its wording;
* `CloseFrame`   the code and reason the panel closes with;
* `Disconnect`   the verdict: refused for good, or lost and worth another try.
-/

namespace ServerConsole.Link

open Text

/-! ## causes -/

inductive SocketError
  /-- the upgrade was answered with this HTTP status -/
  | http (status : UInt16) (body : Option (List UInt8))
  | io (detail : String)
  | connectionClosed
  | alreadyClosed
  | reset
  | unfinishedHandshake
  /-- any other failure, by its wording -/
  | other (text : String)
  deriving DecidableEq

def SocketError.message : SocketError → String
  | http status _ => "HTTP error: " ++ decimal status.toNat
  | io detail => "IO error: " ++ detail
  | connectionClosed => "Connection closed normally"
  | alreadyClosed => "Trying to work with closed connection"
  | reset => "WebSocket protocol error: Connection reset without closing handshake"
  | unfinishedHandshake => "WebSocket protocol error: Handshake not finished"
  | other text => text

structure CloseFrame where
  code : UInt16
  reason : String
  deriving DecidableEq

/-! ## verdicts -/

inductive Disconnect
  | rejected (reason : String)
  | lost (reason : String)
  deriving DecidableEq

namespace Disconnect

def reason : Disconnect → String
  | rejected r | lost r => r

def isRejection : Disconnect → Bool
  | rejected _ => true
  | lost _ => false

def insufficient : String := "insufficient permission"

/-- the text without surrounding blanks, or a default when nothing is left -/
def trimmedOr (default : String) (s : String) : String :=
  let t := trim s
  if t.isEmpty then default else t

/-- a refused upgrade: unauthorised and forbidden are final -/
def ofHttp (status : UInt16) (body : Option (List UInt8)) : Disconnect :=
  if status = 401 ∨ status = 403 then
    let default := if status = 401 then "authentication failed" else insufficient
    rejected (trimmedOr default (String.ofList (decodeLossy (body.getD []))))
  else lost ("handshake failed with HTTP " ++ decimal status.toNat)

def ofError : SocketError → Disconnect
  | .http status body => ofHttp status body
  | e => lost e.message

/-- the close codes that refuse a session -/
def rejectionCodes : List UInt16 := [1008, 4001, 4003]

def ofClose : Option CloseFrame → Disconnect
  | none => lost "closed by panel"
  | some f =>
    if rejectionCodes.contains f.code then rejected (trimmedOr insufficient f.reason)
    else lost ("closed by panel (" ++ decimal f.code.toNat ++ ")")

end Disconnect

end ServerConsole.Link
