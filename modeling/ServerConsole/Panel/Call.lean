import ServerConsole.Json.Bytes
import ServerConsole.Panel.Address
import ServerConsole.Panel.Envelope
import ServerConsole.Panel.Status
import ServerConsole.Server.Record

/-!
# Calls of the panel

A call is one HTTP request with the token in its header, and one response with an envelope in its body.

* `Request`, `Request.prepare`   what is sent, unless the token cannot stand in a header;
* `Response.envelope?`  what the bytes of a body hold;
* `Response.payload`   what the envelope carries, or why the call failed: a body that is no envelope
                       means a broken panel on a success status and that status on any other;
* `powerResult`, `serverResult`, `permissionsResult`, `statusResult`  the results of the calls.
-/

namespace ServerConsole.Panel

open Json

/-! ## requests -/

structure Request where
  method : String
  /-- path and query -/
  target : List Char
  authorization : String
  deriving DecidableEq

def isHeaderChar (c : Char) : Bool := c == '\t' || (0x20 ≤ c.val && c.val != 0x7f)

def unsendable : Failure := .http "builder error"

def Request.line (r : Request) : String := r.method ++ " " ++ String.ofList r.target ++ " HTTP/1.1"

def Request.prepare (panel : Url) (id : ServerId) (endpoint : Endpoint) (token : String) :
    Except Failure Request :=
  if token.toList.all isHeaderChar then
    match Url.parse (restAddress panel id endpoint) with
    | .ok url => .ok
        ⟨endpoint.method, url.path ++ url.query.elim [] ('?' :: ·), "Bearer " ++ token⟩
    | .error _ => .error unsendable
  else .error unsendable

/-! ## responses -/

structure Response where
  status : UInt16
  body : List UInt8
  deriving DecidableEq

namespace Response

def envelope? {α : Type} (r : Response) (payload : Shape α) : Option (Envelope α) :=
  ofBytes? (Envelope.shape payload).read r.body

def undecodable : Failure :=
  .protocol "malformed panel response: error decoding response body"

def payload {α : Type} (r : Response) (shape : Shape α) : Except Failure (Option α) :=
  match r.envelope? shape with
  | some e => e.result.mapError (.api r.status)
  | none =>
    .error <| if isSuccess r.status then undecodable
      else .api r.status ((reasonPhrase? r.status).getD Envelope.defaultReason)

def empty : Failure := .protocol "panel response carried no data"

def required {α : Type} (r : Response) (shape : Shape α) : Except Failure α := do
  match ← r.payload shape with
  | some x => return x
  | none => throw empty

end Response

/-! ## results -/

def powerResult (r : Response) : Except Failure Unit := (r.payload .any).map fun _ => ()

def serverResult (r : Response) : Except Failure Server := r.required Server.shape

def permissionsResult (r : Response) : Except Failure (List String) := r.required (.list .string)

def statusResult (r : Response) : Except Failure StatusReport := r.required StatusReport.shape

end ServerConsole.Panel
