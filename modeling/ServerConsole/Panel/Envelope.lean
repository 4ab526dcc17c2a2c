import ServerConsole.Json.Shape
import ServerConsole.Text.Blank

/-!
# Response envelopes

Every answer of the panel is wrapped: a success flag, the payload, and on failure a reason.

* `Envelope.shape`   envelopes read, over the shape of the payload;
* `Envelope.result`  the payload of a success, or the reason of a failure.
-/

namespace ServerConsole.Panel

open Json

structure Envelope (α : Type) where
  success : Bool
  payload : Option α
  error : Option String

namespace Envelope

structure Draft (α : Type) where
  success : Option Bool
  payload : Option α
  error : Option String

def record {α : Type} (payload : Shape α) : Record (Draft α) (Envelope α) where
  fields := [
    .of ["success"] .bool fun x d => { d with success := some x },
    .of ["data"] (.optional payload) fun x d => { d with payload := x },
    .of ["error"] (.optional .string) fun x d => { d with error := x }]
  required := 2
  blank := ⟨none, none, none⟩
  finish? := fun d => d.success.map fun success => ⟨success, d.payload, d.error⟩

def shape {α : Type} (payload : Shape α) : Shape (Envelope α) := (record payload).shape

def defaultReason : String := "request failed"

/-- the reason of a failure; a blank one is no reason -/
def reason {α : Type} (e : Envelope α) : String :=
  match e.error with
  | some text => if Text.isBlankText text then defaultReason else text
  | none => defaultReason

def result {α : Type} (e : Envelope α) : Except String (Option α) :=
  if e.success then .ok e.payload else .error e.reason

end Envelope

end ServerConsole.Panel
