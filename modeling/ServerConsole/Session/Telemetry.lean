import ServerConsole.Server.Record

/-!
# Telemetry

The latest sample, with three states told apart: nothing known, the empty sample after a reset, and
a live sample. A sample held over an outage is stale.

* `update`, `reset`, `forget`, `markStale`  the four changes;
* `memoryPercent`, `cpuPercent`, `diskPercent`  use against the limits, in doubles.
-/

namespace ServerConsole

structure Telemetry where
  sample : Option Sample
  stale : Bool
  /-- a sample has come in at some time; a reset does not take this back -/
  dated : Bool

namespace Telemetry

def unknown : Telemetry := ⟨none, false, false⟩

def update (_ : Telemetry) (s : Sample) : Telemetry := ⟨some s.sanitized, false, true⟩

def reset (t : Telemetry) : Telemetry := { t with sample := some .empty, stale := false }

def forget (t : Telemetry) : Telemetry := { t with sample := none, stale := false }

def markStale (t : Telemetry) : Telemetry := { t with stale := t.stale || t.sample.isSome }

def display (t : Telemetry) : Sample := t.sample.getD .empty

/-! ## percentages -/

def percent (usage limit : Float) : Float := if limit ≤ 0 then 0 else usage / limit * 100

/-- the limit a sample reports, else the one of the server record -/
def memoryLimit (s : Sample) (server : Server) : UInt64 :=
  if 0 < s.memoryLimit then s.memoryLimit else server.memoryLimit

def memoryPercent (t : Telemetry) (server : Server) : Float :=
  percent t.display.memory.toFloat (memoryLimit t.display server).toFloat

def cpuPercent (t : Telemetry) (server : Server) : Float :=
  percent t.display.cpu server.cpu.toFloat

def diskPercent (t : Telemetry) (server : Server) : Float :=
  percent t.display.disk.toFloat server.diskLimit.toFloat

theorem sample_update (t : Telemetry) (s : Sample) : (t.update s).sample = some s.sanitized := rfl
theorem sample_reset (t : Telemetry) : t.reset.sample = some .empty := rfl
theorem sample_forget (t : Telemetry) : t.forget.sample = none := rfl
theorem sample_markStale (t : Telemetry) : t.markStale.sample = t.sample := rfl

end Telemetry

end ServerConsole
