import ServerConsole.Text.Decimal

/-!
# Failures

Every way an operation of the console can fail.

* `message`      the full wording;
* `reason`       the wording for log lines, without the category in front where there is one;
* `isRetryable`  trying again may help; refusals of access never are.
-/

namespace ServerConsole

inductive Failure
  | io (detail : String)
  | fileRead (path detail : String)
  | fileWrite (path detail : String)
  | connection (detail : String)
  | connectionRejected (detail : String)
  | connectionClosed
  | notConnected
  | timeout (seconds : UInt64)
  | protocol (detail : String)
  | api (status : UInt16) (detail : String)
  | http (detail : String)
  | config (detail : String)
  | configInvalid (path detail : String)
  | sessionClosed
  | permissionDenied (detail : String)
  | internal (detail : String)
  deriving DecidableEq

namespace Failure

def message : Failure → String
  | io detail => "IO error: " ++ detail
  | fileRead path detail => "Failed to read file " ++ path ++ ": " ++ detail
  | fileWrite path detail => "Failed to write file " ++ path ++ ": " ++ detail
  | connection detail => "Connection failed: " ++ detail
  | connectionRejected detail => "Connection rejected: " ++ detail
  | connectionClosed => "Connection closed unexpectedly"
  | notConnected => "Not connected to the console"
  | timeout seconds => "Request timed out after " ++ Text.decimal seconds.toNat ++ "s"
  | protocol detail => "Protocol error: " ++ detail
  | api status detail =>
    "Panel returned status " ++ Text.decimal status.toNat ++ ": " ++ detail
  | http detail => "HTTP error: " ++ detail
  | config detail => "Configuration error: " ++ detail
  | configInvalid path detail => "Invalid configuration at " ++ path ++ ": " ++ detail
  | sessionClosed => "Session closed"
  | permissionDenied detail => "Permission denied: " ++ detail
  | internal detail => "Internal error: " ++ detail

def reason : Failure → String
  | connection detail | connectionRejected detail | protocol detail | http detail
  | permissionDenied detail | api _ detail => detail
  | other => other.message

def isRetryable : Failure → Bool
  | timeout _ | connection _ | connectionClosed | http _ => true
  | _ => false

end Failure

end ServerConsole
