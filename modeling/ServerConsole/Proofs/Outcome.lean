/-!
# Outcomes one after the other

What a step that goes on with the outcome of another one tells about both.
-/

namespace ServerConsole

theorem toOption_bind {ε α β : Type} (x : Except ε α) (f : α → Except ε β) :
    (x >>= f).toOption = x.toOption.bind fun a => (f a).toOption := by
  cases x <;> rfl

theorem eq_ok_of_toOption {ε α : Type} {x : Except ε α} {a : α} (h : x.toOption = some a) :
    x = .ok a := by
  cases x with
  | error e => cases h
  | ok b => rw [Option.some.inj h]

theorem bind_eq_ok {ε α β : Type} {x : Except ε α} {f : α → Except ε β} {b : β}
    (h : x >>= f = .ok b) : ∃ a, x = .ok a ∧ f a = .ok b := by
  cases x with
  | error e => cases h
  | ok a => exact ⟨a, rfl, h⟩

theorem mapM_eq_some_map {α β : Type} {f : α → Option β} {g : α → β} {as : List α}
    (h : ∀ a ∈ as, f a = some (g a)) : as.mapM f = some (as.map g) := by
  induction as with
  | nil => rfl
  | cons a as ih =>
    rw [List.forall_mem_cons] at h
    rw [List.mapM_cons, h.1, ih h.2]
    rfl

/-- options that all give something are what they give -/
theorem eq_map_some_of_mapM {α : Type} {ps : List (Option α)} {as : List α} (h : ps.mapM id = some as) :
    ps = as.map some := by
  induction ps generalizing as with
  | nil =>
    rw [List.mapM_nil] at h
    obtain rfl := Option.some.inj h
    rfl
  | cons p ps ih =>
    rw [List.mapM_cons] at h
    obtain ⟨a, ha, h⟩ := Option.bind_eq_some_iff.mp h
    obtain ⟨rest, hr, h⟩ := Option.bind_eq_some_iff.mp h
    rw [← Option.some.inj h, List.map_cons, ← ih hr, ← show p = some a from ha]

theorem forall_of_mapM {α β : Type} {f : α → Option β} {p : β → Prop} (h : ∀ a b, f a = some b → p b)
    {as : List α} {bs : List β} (hm : as.mapM f = some bs) : ∀ b ∈ bs, p b := by
  induction as generalizing bs with
  | nil =>
    rw [List.mapM_nil] at hm
    obtain rfl := Option.some.inj hm
    exact nofun
  | cons a as ih =>
    rw [List.mapM_cons] at hm
    obtain ⟨b, hb, hm⟩ := Option.bind_eq_some_iff.mp hm
    obtain ⟨rest, hr, hm⟩ := Option.bind_eq_some_iff.mp hm
    rw [← Option.some.inj hm]
    exact List.forall_mem_cons.mpr ⟨h a b hb, ih hr⟩

end ServerConsole
