import ServerConsole.Link.State
import ServerConsole.Proofs.Link.Words

/-!
# The events of a task as its owner sees them

The owner takes the events one by one, at any time after the task reported them. What it knows of the
task is the state of the channel by then.

* `State.observe`       the state after an event, on its own;
* `State.admits`        the events that may come in a state;
* `Orderly`             lists of events each of which may come; every first part of one is one;
* `Word.orderly`        the words of a task are orderly;
* `OpenSince`, `connected_iff`  when the channel is up, in terms of the events taken.
-/

namespace ServerConsole.Link

/-! ## definitions -/

def State.observe : State → Event → State
  | _, .opened _ => .connected
  | s, .frame _ => s
  | _, .rejected _ | _, .gaveUp _ => .failed
  | _, .lost _ | _, .reconnecting _ _ => .reconnecting
  | _, .closed => .closed

/-- nothing comes once the channel has failed or is closed -/
def State.admits : State → Event → Bool
  | .connecting, .opened _ | .connecting, .rejected _ | .connecting, .lost _
  | .connecting, .closed => true
  | .connected, .frame _ | .connected, .rejected _ | .connected, .lost _ | .connected, .closed => true
  | .reconnecting, .opened _ | .reconnecting, .rejected _ | .reconnecting, .lost _
  | .reconnecting, .reconnecting _ _ | .reconnecting, .gaveUp _ | .reconnecting, .closed => true
  | _, _ => false

def Orderly : State → List Event → Prop
  | _, [] => True
  | s, e :: es => s.admits e = true ∧ Orderly (s.observe e) es

/-- the socket is gone -/
def Event.isLoss : Event → Bool
  | .lost _ | .rejected _ => true
  | _ => false

/-- what the owner may see while the task is in a phase and all its events are taken -/
def Phase.Seen : Phase → State → Prop
  | .connecting, s => s = .connecting ∨ s = .reconnecting
  | .pumping, s => s = .connected
  | .waiting, s => s = .reconnecting
  | .finished, _ => True

/-! ## single states -/

theorem State.eq_connected_of_admits {s : State} {f : Frame} (h : s.admits (.frame f) = true) :
    s = .connected := by
  cases s with
  | connected => rfl
  | connecting | reconnecting | failed | closed => cases h

theorem State.eq_reconnecting_of_admits {s : State} {k : UInt32} {d : Nanos}
    (h : s.admits (.reconnecting k d) = true) : s = .reconnecting := by
  cases s with
  | reconnecting => rfl
  | connecting | connected | failed | closed => cases h

theorem State.ne_of_admits {s : State} {e : Event} (h : s.admits e = true) :
    s ≠ .failed ∧ s ≠ .closed := by
  constructor <;> rintro rfl <;> cases e <;> cases h

/-! ## orderly lists -/

theorem state_observe (l : Link) (e : Event) : (l.observe e).state = l.state.observe e := by
  cases e <;> rfl

theorem orderly_append (s : State) (a b : List Event) :
    Orderly s (a ++ b) ↔ Orderly s a ∧ Orderly (a.foldl State.observe s) b := by
  induction a generalizing s with
  | nil => simp [Orderly]
  | cons e a ih => simp [Orderly, ih, and_assoc]

theorem Orderly.first_part {s : State} {a w : List Event} (h : Orderly s w) (ha : a <+: w) :
    Orderly s a := by
  obtain ⟨b, rfl⟩ := ha
  exact ((orderly_append s a b).mp h).1

/-- once the channel has failed or is closed no further event comes -/
theorem Orderly.eq_nil {s : State} {es : List Event} (h : Orderly s es)
    (hs : s = .failed ∨ s = .closed) : es = [] := by
  cases es with
  | nil => rfl
  | cons e es =>
    obtain ⟨hf, hc⟩ := State.ne_of_admits h.1
    rcases hs with hs | hs
    · exact absurd hs hf
    · exact absurd hs hc

/-- the words of a task are orderly, and end in a state that fits the phase -/
theorem Word.orderly {p : Policy} {phase : Phase} {w : List Event} (h : Word p phase w) :
    Orderly .connecting w ∧ phase.Seen (w.foldl State.observe .connecting) := by
  -- an attempt or a socket is under way, and the owner knows of no more than that
  have live : ∀ {phase : Phase} {s : State}, phase = .pumping ∨ phase = .connecting →
      phase.Seen s → s = .connected ∨ s = .connecting ∨ s = .reconnecting := by
    rintro phase s (rfl | rfl) hs
    · exact .inl hs
    · exact .inr hs
  induction h with
  | start => exact ⟨trivial, .inl rfl⟩
  | opened h ih =>
    obtain ⟨ho, hs⟩ := ih
    rw [orderly_append, List.foldl_append]
    refine ⟨⟨ho, ?_, trivial⟩, rfl⟩
    rcases hs with hs | hs <;> rw [hs] <;> rfl
  | frame h f hf ih =>
    obtain ⟨ho, hs⟩ := ih
    rw [orderly_append, List.foldl_append, show _ = State.connected from hs]
    exact ⟨⟨ho, rfl, trivial⟩, rfl⟩
  | rejected h hp reason ih =>
    obtain ⟨ho, hs⟩ := ih
    rw [orderly_append]
    refine ⟨⟨ho, ?_, trivial⟩, trivial⟩
    rcases live hp hs with hs | hs | hs <;> rw [hs] <;> rfl
  | refused h message ih =>
    obtain ⟨ho, hs⟩ := ih
    rw [orderly_append, show _ = State.connected from hs]
    exact ⟨⟨ho, rfl, rfl, trivial⟩, trivial⟩
  | retried h hp reason k hk hm ih =>
    obtain ⟨ho, hs⟩ := ih
    rw [orderly_append, List.foldl_append]
    refine ⟨⟨ho, ?_, rfl, trivial⟩, rfl⟩
    rcases live hp hs with hs | hs | hs <;> rw [hs] <;> rfl
  | resumed h ih => exact ⟨ih.1, .inr ih.2⟩
  | gaveUp h hp reason hk ih =>
    obtain ⟨ho, hs⟩ := ih
    rw [orderly_append]
    refine ⟨⟨ho, ?_, rfl, trivial⟩, trivial⟩
    rcases live hp hs with hs | hs | hs <;> rw [hs] <;> rfl
  | @closed phase w h hp ih =>
    obtain ⟨ho, hs⟩ := ih
    rw [orderly_append]
    refine ⟨⟨ho, ?_, trivial⟩, trivial⟩
    have hs' : w.foldl State.observe .connecting = .connected ∨
        w.foldl State.observe .connecting = .connecting ∨
        w.foldl State.observe .connecting = .reconnecting := by
      cases phase with
      | connecting => exact live (.inr rfl) hs
      | pumping => exact live (.inl rfl) hs
      | waiting => exact .inr (.inr hs)
      | finished => exact absurd rfl hp
    rcases hs' with hs | hs | hs <;> rw [hs] <;> rfl

theorem orderly_reports (p : Policy) (hs : List Happening) :
    Orderly .connecting (Task.reports p hs) :=
  (Task.tells_after p hs).word.orderly.1

/-! ## when the channel is up -/

/-- a channel that is up stays so until a loss, or until it is closed -/
theorem observe_eq_connected_iff {s : State} {e : Event} (h : s.admits e = true) :
    s.observe e = .connected ↔
      e.isOpened = true ∨ (s = .connected ∧ e.isLoss = false ∧ e ≠ .closed) := by
  cases e <;> cases s <;>
    first
    | exact (Bool.false_ne_true h).elim
    | simp [State.observe, Event.isOpened, Event.isLoss]

/-- a socket is opened, and no loss comes after it -/
def OpenSince (w : List Event) : Prop :=
  ∃ pre r post, w = pre ++ .opened r :: post ∧ ∀ e ∈ post, e.isLoss = false

theorem openSince_cons (e : Event) (w : List Event) :
    OpenSince (e :: w) ↔ (e.isOpened = true ∧ ∀ x ∈ w, x.isLoss = false) ∨ OpenSince w := by
  constructor
  · rintro ⟨pre, r, post, hw, hp⟩
    cases pre with
    | nil =>
      obtain ⟨rfl, rfl⟩ := List.cons.inj hw
      exact .inl ⟨rfl, hp⟩
    | cons x pre => exact .inr ⟨pre, r, post, (List.cons.inj hw).2, hp⟩
  · rintro (⟨he, hp⟩ | ⟨pre, r, post, rfl, hp⟩)
    · cases e with
      | opened r => exact ⟨[], r, w, rfl, hp⟩
      | frame _ | rejected _ | lost _ | reconnecting _ _ | gaveUp _ | closed => cases he
    · exact ⟨e :: pre, r, post, rfl, hp⟩

/-- the channel is up exactly from an opened socket to the next loss, until the task is stopped -/
theorem connected_iff {s : State} {w : List Event} (h : Orderly s w) :
    w.foldl State.observe s = .connected ↔
      .closed ∉ w ∧ ((s = .connected ∧ ∀ e ∈ w, e.isLoss = false) ∨ OpenSince w) := by
  induction w generalizing s with
  | nil => simp [OpenSince]
  | cons e w ih =>
    obtain ⟨ha, ho⟩ := h
    by_cases he : e = .closed
    · subst he
      rw [ho.eq_nil (.inr rfl)]
      exact ⟨nofun, fun h => absurd List.mem_cons_self h.1⟩
    · have he' : .closed ≠ e := fun h => he h.symm
      rw [List.foldl_cons, ih ho, observe_eq_connected_iff ha, openSince_cons,
        List.forall_mem_cons, List.mem_cons]
      grind

end ServerConsole.Link
