import ServerConsole.Server.Status

/-!
# The status shown

The panel's status is authoritative. A power call that succeeds sets a guess, shown until the panel
confirms a status; suspension overrides both.

* `confirm`  takes the panel's status and drops the guess;
* `assume`   takes a guess;
* both also tell whether the status shown has changed.
-/

namespace ServerConsole

structure StatusView where
  confirmed : Status
  guess : Option Status
  suspended : Bool
  deriving DecidableEq

namespace StatusView

def new (confirmed : Status) (suspended : Bool) : StatusView := ⟨confirmed, none, suspended⟩

def effective (v : StatusView) : Status :=
  if v.suspended then .suspended else v.guess.getD v.confirmed

/-- a guess is what is shown -/
def isOptimistic (v : StatusView) : Bool := v.guess.isSome && !v.suspended

def ofConfirmed (status : Status) : StatusView := ⟨status, none, status == .suspended⟩

def confirm (v : StatusView) (status : Status) : StatusView × Bool :=
  let next := ofConfirmed status
  (next, v.effective != next.effective)

def assume (v : StatusView) (status : Status) : StatusView × Bool :=
  let next := { v with guess := some status }
  (next, v.effective != next.effective)

theorem effective_new (s : Status) : (new s false).effective = s := rfl
theorem effective_confirm (v : StatusView) (s : Status) : (v.confirm s).1.effective = s := by
  cases s <;> rfl

end StatusView

end ServerConsole
