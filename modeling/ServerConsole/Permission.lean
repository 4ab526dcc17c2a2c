/-!
# Permissions

A grant is a list of names; the wildcard grants everything.
-/

namespace ServerConsole

structure Grant where
  names : List String
  deriving DecidableEq

namespace Grant

def wildcard : String := "*"
def consoleRead : String := "console.read"
def consoleWrite : String := "console.write"

def allows (g : Grant) (name : String) : Bool :=
  g.names.any fun granted => granted == wildcard || granted == name

def everything : Grant := ⟨[wildcard]⟩
def nothing : Grant := ⟨[]⟩

theorem allows_everything (name : String) : everything.allows name = true := rfl
theorem allows_nothing (name : String) : nothing.allows name = false := rfl

theorem allows_iff (g : Grant) (name : String) :
    g.allows name = true ↔ wildcard ∈ g.names ∨ name ∈ g.names := by
  simp only [allows, List.any_eq_true, Bool.or_eq_true, beq_iff_eq]
  constructor
  · rintro ⟨x, hx, rfl | rfl⟩
    · exact .inl hx
    · exact .inr hx
  · rintro (h | h)
    · exact ⟨_, h, .inl rfl⟩
    · exact ⟨_, h, .inr rfl⟩

end Grant

end ServerConsole
