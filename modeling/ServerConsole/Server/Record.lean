import ServerConsole.Server.Id
import ServerConsole.Server.Status
import ServerConsole.Server.Telemetry
import ServerConsole.Json.Writer

/-!
# Server records

* `Server`        a hosted server as the panel describes it; its limits are in MiB and percent;
* `Server.shape`  the records read: the description may be left out and so may the suspension flag;
* `Server.toJson` the written record;
* `StatusReport`  a status with the telemetry that may come with it.
-/

namespace ServerConsole

open Json

structure Server where
  id : ServerId
  name : String
  description : String
  status : Status
  /-- the panel's own flag; a server may be suspended without it -/
  suspendedFlag : Bool
  memory : UInt64
  cpu : UInt64
  disk : UInt64
  deriving DecidableEq

namespace Server

/-! ## limits -/

/-- mebibytes as bytes, the largest number when they do not fit -/
def mebibytes (n : UInt64) : UInt64 := (min (n.toNat * 1048576) (UInt64.size - 1)).toUInt64

def memoryLimit (s : Server) : UInt64 := mebibytes s.memory
def diskLimit (s : Server) : UInt64 := mebibytes s.disk

def isRunning (s : Server) : Bool := s.status == .running

/-- suspended by the flag or by the status -/
def isSuspended (s : Server) : Bool := s.suspendedFlag || s.status == .suspended

/-! ## reading -/

/-- the members met so far -/
structure Draft where
  id : Option ServerId := none
  name : Option String := none
  description : String := ""
  status : Option Status := none
  suspendedFlag : Bool := false
  memory : Option UInt64 := none
  cpu : Option UInt64 := none
  disk : Option UInt64 := none

def Draft.finish? (d : Draft) : Option Server := do
  pure ⟨← d.id, ← d.name, d.description, ← d.status, d.suspendedFlag, ← d.memory, ← d.cpu, ← d.disk⟩

def record : Record Draft Server where
  fields := [
    .of ["id"] ServerId.shape fun x d => { d with id := some x },
    .of ["name"] .string fun x d => { d with name := some x },
    .of ["description"] .string fun x d => { d with description := x },
    .of ["status"] Status.shape fun x d => { d with status := some x },
    .of ["is_suspended"] .bool fun x d => { d with suspendedFlag := x },
    .of ["memory"] .natural fun x d => { d with memory := some x },
    .of ["cpu"] .natural fun x d => { d with cpu := some x },
    .of ["disk"] .natural fun x d => { d with disk := some x }]
  required := 8
  blank := {}
  finish? := Draft.finish?

def shape : Shape Server := record.shape

/-! ## writing -/

def members (s : Server) : List Member := [
  ("id", quote s.id.text), ("name", quote s.name), ("description", quote s.description),
  ("status", s.status.toJson), ("is_suspended", writeBool s.suspendedFlag),
  ("memory", writeNatural s.memory), ("cpu", writeNatural s.cpu),
  ("disk", writeNatural s.disk)]

def toJson (s : Server) : List Char := writeObject s.members

end Server

/-! ## status reports -/

structure StatusReport where
  status : Status
  sample : Option Sample

namespace StatusReport

def record : Record (Option Status × Option Sample) StatusReport where
  fields := [
    .of ["status"] Status.shape fun x d => (some x, d.2),
    .of ["stats"] (.optional Sample.shape) fun x d => (d.1, x)]
  required := 1
  blank := (none, none)
  finish? := fun d => d.1.map fun status => ⟨status, d.2⟩

def shape : Shape StatusReport := record.shape

end StatusReport

end ServerConsole
