import Mathlib.Order.MinMax
import ServerConsole.Proofs.App.View

/-!
# When the console pane is empty

The offset of a view is within the log, its end included, and at the end no line is left below it.

* `App.PastTop`, `App.Leads`   a view scrolled up by the whole log, and what leads there;
* `visible_lt_iff`     any other view has a line in a pane of any height;
* `pastTop_step_iff`   what one step does to a view that has one;
* `pane_empty_iff`     what that makes of any run.
-/

namespace ServerConsole

/-! ## counts -/

/-- the count of all lines goes back to zero, and nothing seems to have come in -/
theorem Log.added_of_wrapped {log : Log} (h : log.appended + 1 = 0) (l : Option LogLine) :
    added log (log.appendAll l.toList) = 0 := by
  cases l with
  | none => exact Nat.sub_self _
  | some l =>
    show (log.appended + 1).toNat - log.appended.toNat = 0
    rw [h]
    exact Nat.zero_sub _

namespace App

/-! ## definitions -/

/-- scrolled up by the whole log -/
def PastTop (a : App) : Prop := a.scroll = a.session.log.size

/-- a page up from near the first line; a line that comes in when the log is full and only the first line is
not below the view, as long as the lines can be counted -/
def Leads (a : App) : Step → Prop
  | .terminal (.key key) => key.meaning = .scrollUp ∧ a.session.log.size ≤ a.scroll + scrollStep
  | .event e => (a.session.line? (a.input (.event e))).isSome = true ∧ a.session.log.appended + 1 ≠ 0 ∧
      0 < a.scroll ∧ a.scroll + 1 = a.session.log.size ∧ a.session.log.size = a.session.log.capacity
  | _ => False

/-! ## one state -/

theorem visible_lt_iff {a : App} (hs : a.scroll ≤ a.session.log.size) {height : Nat} (hh : 0 < height) :
    (a.visible height).1 < (a.visible height).2 ↔ ¬ a.PastTop := by
  show a.session.log.size - a.scroll - height < a.session.log.size - a.scroll ↔
    ¬ a.scroll = a.session.log.size
  omega

/-! ## one step -/

/-- a page up alone moves the view up -/
theorem scroll_act_le_of_ne (a : App) {k : KeyAction} (hu : k ≠ .scrollUp) :
    (a.act k).1.scroll ≤ a.scroll := by
  by_cases hd : k = .scrollDown
  · rw [hd]
    exact Nat.sub_le _ _
  by_cases hn : k = .submit ∧ (a.session.submit a.editor.text).result = .ok ()
  · rw [hn.1]
    show a.submit.1.scroll ≤ _
    rw [submit_of_ok hn.2]
    exact Nat.zero_le _
  · exact Nat.le_of_eq (scroll_act hu hd hn)

namespace Stands

variable {a : App} {c : Nat} {lines : List LogLine}

theorem capacity (h : Stands a c lines) : a.session.log.capacity = max c 1 := by
  rw [h.log]
  exact Log.capacity_appendAll _ _

/-- no step makes room -/
theorem size_le_step (h : Stands a c lines) (x : Step) :
    a.session.log.size ≤ (a.step x).session.log.size := by
  have hb := (h.step x).size
  rw [h.size, hb, List.length_append]
  omega

theorem scroll_received_of_wrapped (h : Stands a c lines) (hc : a.session.log.appended + 1 = 0)
    (e : Session.Event) : (a.received e).1.scroll = a.scroll := by
  have hs := Nat.le_trans h.scroll (h.size_le_step (.event e))
  have hl : (a.received e).1.session.log = _ := log_step h.opened (.event e)
  by_cases ha : a.session.awaits e = true
  · have hr : (a.received e).1.scroll = anchored a.scroll
        (Log.added a.session.log (a.received e).1.session.log) (a.received e).1.session.log.size := by
      rw [received_of_awaits ha]
      rfl
    rw [hr, hl, Log.added_of_wrapped hc, ← hl, anchored]
    split
    · next h0 => exact h0.symm
    · exact Nat.min_eq_left hs
  · rw [received_of_not_awaits ha]

theorem pastTop_received_iff (h : Stands a c lines) (hs : ¬ a.PastTop) (e : Session.Event) :
    (a.received e).1.PastTop ↔ a.Leads (.event e) := by
  have hsize := h.size
  have hscroll := h.scroll
  have hcap := h.capacity
  have hle := h.size_le_step (.event e)
  have hb : (a.received e).1.session.log.size = _ := (h.step (.event e)).size
  change ¬ a.scroll = a.session.log.size at hs
  show (a.received e).1.scroll = (a.received e).1.session.log.size ↔ _
  by_cases hc : a.session.log.appended + 1 = 0
  · have hr : (a.received e).1.scroll ≠ (a.received e).1.session.log.size := by
      rw [h.scroll_received_of_wrapped hc]
      exact Nat.ne_of_lt (Nat.lt_of_lt_of_le (by omega) hle)
    exact iff_of_false hr fun hl => hl.2.1 hc
  have hl : a.Leads (.event e) ↔ (a.session.line? (a.input (.event e))).isSome = true ∧ 0 < a.scroll ∧
      a.scroll + 1 = a.session.log.size ∧ a.session.log.size = a.session.log.capacity :=
    and_congr_right fun _ => and_iff_right hc
  rw [scroll_received h.opened h.scroll hc e, hb, hl, anchored]
  cases a.session.line? (a.input (.event e)) with
  | none =>
    refine iff_of_false ?_ fun hl => Bool.false_ne_true hl.1
    simp only [Option.toList_none, List.append_nil, List.length_nil]
    split <;> omega
  | some l =>
    simp only [Option.toList_some, List.length_append, List.length_singleton, Option.isSome_some, true_and]
    split <;> omega

/-- keys that leave the offset alone leave a line in the pane -/
theorem pastTop_pressed_iff (h : Stands a c lines) (hs : ¬ a.PastTop) (key : Key) :
    (a.pressed key).1.PastTop ↔ key.meaning = .scrollUp ∧ a.session.log.size ≤ a.scroll + scrollStep := by
  have hscroll := h.scroll
  have hle : a.session.log.size ≤ (a.pressed key).1.session.log.size := h.size_le_step (.terminal (.key key))
  obtain ⟨message, hp⟩ := a.exists_pressed key
  change ¬ a.scroll = a.session.log.size at hs
  show (a.pressed key).1.scroll = (a.pressed key).1.session.log.size ↔ _
  rw [hp] at hle ⊢
  by_cases hu : key.meaning = .scrollUp
  · rw [hu]
    rw [eq_self, true_and]
    exact min_eq_right_iff
  have hsc : ({ a with message := message }.act key.meaning).1.scroll ≤ a.scroll :=
    scroll_act_le_of_ne { a with message := message } hu
  exact iff_of_false (by omega) fun hl => hu hl.1

/-- a page down, and a command that is accepted, which is a line of the log itself -/
theorem not_pastTop_pressed (h : Stands a c lines) (hl : 0 < a.session.log.size) {key : Key}
    (hk : key.meaning = .scrollDown ∨
      (key.meaning = .submit ∧ (a.session.submit a.editor.text).result = .ok ())) :
    ¬ (a.pressed key).1.PastTop := by
  have hscroll := h.scroll
  have hle : a.session.log.size ≤ (a.pressed key).1.session.log.size := h.size_le_step (.terminal (.key key))
  obtain ⟨message, hp⟩ := a.exists_pressed key
  show ¬ (a.pressed key).1.scroll = (a.pressed key).1.session.log.size
  rw [hp] at hle ⊢
  have hs : ({ a with message := message }.act key.meaning).1.scroll < a.session.log.size := by
    rcases hk with hk | ⟨hk, hr⟩
    · rw [hk]
      show a.scroll - 10 < a.session.log.size
      omega
    · rw [hk]
      show ({ a with message := message }.submit).1.scroll < _
      rw [submit_of_ok (a := { a with message := message }) hr]
      exact hl
  exact Nat.ne_of_lt (Nat.lt_of_lt_of_le hs hle)

theorem pastTop_step_iff (h : Stands a c lines) (hs : ¬ a.PastTop) (x : Step) :
    (a.step x).PastTop ↔ a.Leads x := by
  cases x with
  | terminal e =>
    cases e with
    | key key => exact h.pastTop_pressed_iff hs key
    | paste _ | resize | tick => exact iff_of_false hs id
  | event e => exact h.pastTop_received_iff hs e
  | detach | relabel _ => exact iff_of_false hs id

end Stands

/-- **When a pane is empty.** Whatever was done before: the offset is within the log, and a log that holds
lines has one of them in a pane of any height exactly if the view is not scrolled up by the whole log. A view
gets there with a page up from near the first line, or when all lines but the first one are below it and that
line is dropped for another one, and in no other way; a page down and a command that is accepted
bring lines back. -/
theorem pane_empty_iff (o : Session.Opening) (xs : List Step) :
    let a := (App.new o.session).run xs
    a.scroll ≤ a.session.log.size ∧
    (0 < a.session.log.size →
      (∀ height, 0 < height → ((a.visible height).1 < (a.visible height).2 ↔ ¬ a.PastTop)) ∧
      (¬ a.PastTop → ∀ x, (a.step x).PastTop ↔ a.Leads x) ∧
      ∀ key, key.meaning = .scrollDown ∨
          (key.meaning = .submit ∧ (a.session.submit a.editor.text).result = .ok ()) →
        ¬ (a.pressed key).1.PastTop) := by
  intro a
  have ha : Stands a o.scrollback ((App.new o.session).gained xs) := (Stands.new o).run xs
  refine ⟨ha.scroll, fun hl => ⟨fun height => visible_lt_iff ha.scroll, ?_, ?_⟩⟩
  · exact fun hs => ha.pastTop_step_iff hs
  · exact fun key => ha.not_pastTop_pressed hl

/-- room for twelve lines, after twelve came in and the page key was pressed so many times -/
def leafed (pages : Nat) : App :=
  (App.new { Session.Opening.plain .running .everything with scrollback := 12 }.session).run
    (printed.map .event ++ List.replicate pages (.terminal (.key ⟨.pageUp, false⟩)))

/-- after one page up the first two lines are in the pane; another one empties it, and a page down then
brings lines back -/
theorem pane_empty_iff_leafed :
    0 < (leafed 1).session.log.size ∧ ((leafed 1).visible 2).1 < ((leafed 1).visible 2).2 ∧
    ((leafed 1).step (.terminal (.key ⟨.pageUp, false⟩))).PastTop ∧
    0 < (leafed 2).session.log.size ∧ ¬ ((leafed 2).visible 2).1 < ((leafed 2).visible 2).2 ∧
    ¬ ((leafed 2).pressed ⟨.pageDown, false⟩).1.PastTop := by
  have hl₁ : 0 < (leafed 1).session.log.size := by decide +kernel
  have hl₂ : 0 < (leafed 2).session.log.size := by decide +kernel
  have hs₁ : (leafed 1).scroll ≠ (leafed 1).session.log.size := by decide +kernel
  have hs₂ : (leafed 2).scroll = (leafed 2).session.log.size := by decide +kernel
  have hnear : (leafed 1).session.log.size ≤ (leafed 1).scroll + scrollStep := by decide +kernel
  have h₁ := (pane_empty_iff _ _).2 hl₁
  have h₂ := (pane_empty_iff _ _).2 hl₂
  refine ⟨hl₁, (h₁.1 2 Nat.two_pos).mpr hs₁, (h₁.2.1 hs₁ _).mpr ⟨rfl, hnear⟩, hl₂, ?_, ?_⟩
  · exact fun h => (h₂.1 2 Nat.two_pos).mp h hs₂
  · exact h₂.2.2 ⟨.pageDown, false⟩ (.inl rfl)

/-- after two pages up the log holds twelve lines, and none of them is in a pane of two rows -/
theorem pages_empty_pane : (leafed 2).session.log.size = 12 ∧ (leafed 2).scroll = 12 ∧
    (leafed 2).visible 2 = (0, 0) ∧ Screen.consoleLines (leafed 2) 2 = [] := by
  decide +kernel

end App

end ServerConsole
