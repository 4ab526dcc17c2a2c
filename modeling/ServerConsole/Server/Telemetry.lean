import ServerConsole.Json.Shape

/-!
# Telemetry samples

One sample of resource use as the panel sends it. A member that is left out counts as zero.

* `Sample.empty`      nothing used; stands for a server without a live run;
* `Sample.isEmpty`    equal to it, a negative zero of the processor load included;
* `Sample.sanitized`  a load that is negative or no finite number becomes zero.
-/

namespace ServerConsole

structure Sample where
  memory : UInt64
  memoryLimit : UInt64
  /-- processor load in percent of one core -/
  cpu : Float
  disk : UInt64
  received : UInt64
  sent : UInt64
  deriving DecidableEq

namespace Sample

def empty : Sample := ⟨0, 0, 0, 0, 0, 0⟩

def isEmpty (s : Sample) : Bool :=
  s.memory == 0 && s.memoryLimit == 0 && s.cpu == 0 && s.disk == 0 && s.received == 0 && s.sent == 0

def sanitized (s : Sample) : Sample :=
  if !s.cpu.isFinite || s.cpu < 0 then { s with cpu := 0 } else s

def record : Json.Record Sample Sample where
  fields := [
    .of ["memory"] .natural fun x s => { s with memory := x },
    .of ["memory_limit"] .natural fun x s => { s with memoryLimit := x },
    .of ["cpu"] .double fun x s => { s with cpu := x },
    .of ["disk"] .natural fun x s => { s with disk := x },
    .of ["network_rx"] .natural fun x s => { s with received := x },
    .of ["network_tx"] .natural fun x s => { s with sent := x }]
  required := 0
  blank := empty
  finish? := some

def shape : Json.Shape Sample := record.shape

end Sample

end ServerConsole
