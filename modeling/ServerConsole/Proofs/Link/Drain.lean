import ServerConsole.Proofs.Link.Queue

/-!
# The task taken apart

Opening a socket takes the old commands out of the queue one by one, and a command is taken out before
it is written. Here these are moves of their own, with commands queued between any two of them.

* `Worker`, `Worker.step`   the task move by move;
* `Worker.happenings`       what the moves amount to for the task as a whole;
* `Worker.trace_eq`         nothing more comes of it than of the task;
* `no_stale_command`        commands go to the socket they were queued for, in their order.
-/

namespace ServerConsole.Link

/-! ## moves -/

inductive Stage
  | free
  /-- a socket is there, and the old commands are on their way out -/
  | draining
  /-- a command is out of the queue and not yet written -/
  | holding (command : Command)

structure Worker where
  task : Task
  stage : Stage

inductive Move
  | queued (command : Command)
  | connected
  /-- the queue is asked for one more old command -/
  | drained
  /-- the queue is asked for a command to write -/
  | taken
  | sent
  | unsent (error : SocketError)
  /-- anything that has nothing to do with the queue -/
  | meets (happening : Happening)

/-- what is made up of several moves, or is a move of its own -/
def Happening.isQueue : Happening → Bool
  | connected | queued _ | writable | unwritable _ => true
  | _ => false

namespace Worker

def new (p : Policy) : Worker := ⟨.new p, .free⟩

/-- moves that do not fit the stage change nothing -/
def step (w : Worker) (m : Move) : Worker × List Output :=
  match m, w.stage with
  | .queued c, stage => (⟨(w.task.step (.queued c)).1, stage⟩, [])
  | .connected, .free =>
    if w.task.phase = .connecting then (⟨w.task, .draining⟩, []) else (w, [])
  | .drained, .draining =>
    match w.task.queue with
    | [] => (⟨w.task.opened.1, .free⟩, w.task.opened.2)
    | _ :: queue => (⟨{ w.task with queue := queue }, .draining⟩, [])
  | .taken, .free =>
    match w.task.phase, w.task.queue with
    | .pumping, c :: queue => (⟨{ w.task with queue := queue }, .holding c⟩, [])
    | _, _ => (w, [])
  | .sent, .holding c => (⟨w.task, .free⟩, [.write c])
  | .unsent e, .holding _ =>
    (⟨(w.task.disconnect (.ofError e)).1, .free⟩, (w.task.disconnect (.ofError e)).2)
  | .meets h, .free =>
    if h.isQueue then (w, []) else (⟨(w.task.step h).1, .free⟩, (w.task.step h).2)
  | _, _ => (w, [])

def marks (w : Worker) (m : Move) : List Mark :=
  (match m with
    | .queued c => w.task.admitted (.queued c)
    | _ => []) ++ marked (w.step m).2

def trace (w : Worker) : List Move → List Mark
  | [] => []
  | m :: ms => w.marks m ++ (w.step m).1.trace ms

/-! ## moves and happenings -/

/-- the socket is open when the last old command is out, and a command is written when it is sent -/
def happening (w : Worker) (m : Move) : List Happening :=
  match m, w.stage with
  | .queued c, _ => [.queued c]
  | .drained, .draining => if w.task.queue.isEmpty then [.connected] else []
  | .sent, .holding _ => [.writable]
  | .unsent e, .holding _ => [.unwritable e]
  | .meets h, .free => if h.isQueue then [] else [h]
  | _, _ => []

def happenings (w : Worker) : List Move → List Happening
  | [] => []
  | m :: ms => w.happening m ++ (w.step m).1.happenings ms

/-- what the task has in its queue: also the old commands that are out already, and the one not yet
written -/
inductive Covers : Worker → Task → Prop
  | free (t : Task) : Covers ⟨t, .free⟩ t
  | draining (t : Task) (old : List Command) (hp : t.phase = .connecting) :
      Covers ⟨t, .draining⟩ { t with queue := old ++ t.queue }
  | holding (t : Task) (c : Command) (hp : t.phase = .pumping) :
      Covers ⟨t, .holding c⟩ { t with queue := c :: t.queue }

theorem out_of_queued (t : Task) (c : Command) : (t.step (.queued c)).2 = [] := by
  obtain ⟨phase, backoff, reconnected, queue⟩ := t
  cases phase <;> rfl

section
variable {t : Task} (m : Move)

theorem covers_free :
    Covers (step ⟨t, .free⟩ m).1 (t.run (happening ⟨t, .free⟩ m)).1 ∧
      marks ⟨t, .free⟩ m = t.trace (happening ⟨t, .free⟩ m) := by
  have hn : Covers ⟨t, .free⟩ (t.run []).1 ∧ marked [] = t.trace [] := ⟨.free t, rfl⟩
  cases m with
  | queued c =>
    refine ⟨.free _, ?_⟩
    show t.admitted (.queued c) ++ [] = t.marks (.queued c) ++ []
    rw [Task.marks, out_of_queued]
    exact (List.append_nil _).symm
  | connected =>
    simp only [step, marks, happening]
    split
    · next hp => exact ⟨.draining t [] hp, rfl⟩
    · exact hn
  | taken =>
    obtain ⟨phase, backoff, reconnected, queue⟩ := t
    cases phase with
    | pumping =>
      cases queue with
      | nil => exact hn
      | cons c queue => exact ⟨.holding ⟨.pumping, backoff, reconnected, queue⟩ c rfl, rfl⟩
    | connecting | waiting | finished => exact hn
  | meets h =>
    simp only [step, marks, happening]
    split
    · exact hn
    · next hq =>
      have ha : t.admitted h = [] := by
        cases h with
        | queued c => exact absurd rfl hq
        | _ => rfl
      refine ⟨.free _, ?_⟩
      show [] ++ marked (t.step h).2 = t.marks h ++ []
      rw [Task.marks, ha, List.append_nil]
  | drained | sent | unsent => exact hn

theorem covers_draining (old : List Command) (hp : t.phase = .connecting) :
    let u : Task := { t with queue := old ++ t.queue }
    Covers (step ⟨t, .draining⟩ m).1 (u.run (happening ⟨t, .draining⟩ m)).1 ∧
      marks ⟨t, .draining⟩ m = u.trace (happening ⟨t, .draining⟩ m) := by
  obtain ⟨phase, backoff, reconnected, queue⟩ := t
  cases hp
  cases m with
  | queued c =>
    have hc := Covers.draining ⟨.connecting, backoff, reconnected, queue ++ [c]⟩ old rfl
    rw [← List.append_assoc] at hc
    exact ⟨hc, rfl⟩
  | drained =>
    -- the queue found empty is the moment the task as a whole opens the socket
    cases queue with
    | nil => exact ⟨.free _, rfl⟩
    | cons c queue =>
      have hc := Covers.draining ⟨.connecting, backoff, reconnected, queue⟩ (old ++ [c]) rfl
      rw [List.append_assoc] at hc
      exact ⟨hc, rfl⟩
  | connected | taken | sent | unsent | meets => exact ⟨.draining _ old rfl, rfl⟩

theorem covers_holding (c : Command) (hp : t.phase = .pumping) :
    let u : Task := { t with queue := c :: t.queue }
    Covers (step ⟨t, .holding c⟩ m).1 (u.run (happening ⟨t, .holding c⟩ m)).1 ∧
      marks ⟨t, .holding c⟩ m = u.trace (happening ⟨t, .holding c⟩ m) := by
  obtain ⟨phase, backoff, reconnected, queue⟩ := t
  cases hp
  cases m with
  | queued c' => exact ⟨.holding ⟨.pumping, backoff, reconnected, queue ++ [c']⟩ c rfl, rfl⟩
  | sent => exact ⟨.free _, rfl⟩
  | unsent e => exact ⟨.free _, (List.append_nil _).symm⟩
  | connected | drained | taken | meets => exact ⟨.holding _ c rfl, rfl⟩

end

theorem Covers.step {w : Worker} {t : Task} (h : Covers w t) (m : Move) :
    Covers (w.step m).1 (t.run (w.happening m)).1 ∧ w.marks m = t.trace (w.happening m) := by
  cases h with
  | free t => exact covers_free m
  | draining t old hp => exact covers_draining m old hp
  | holding t c hp => exact covers_holding m c hp

theorem trace_eq_of_covers {w : Worker} {t : Task} (h : Covers w t) (ms : List Move) :
    w.trace ms = t.trace (w.happenings ms) := by
  induction ms generalizing w t with
  | nil => rfl
  | cons m ms ih =>
    obtain ⟨hc, hm⟩ := h.step m
    rw [trace, happenings, Task.trace_append, hm, ih hc]

theorem trace_eq (p : Policy) (ms : List Move) :
    (new p).trace ms = (Task.new p).trace ((new p).happenings ms) :=
  trace_eq_of_covers (.free _) ms

end Worker

/-! ## commands and their sockets -/

/-- commands go out in the order they came in, at most once, and to no socket but the one that was
the latest to be opened when they were queued -/
structure Fresh (w : List Mark) : Prop where
  in_order : (writtenOf w).Sublist (queuedOf w)
  since_opening : ∀ before after, w = before ++ .opened :: after →
    (writtenOf after).Sublist (queuedOf after)
  of_socket : ∀ before on after, w = before ++ .opened :: (on ++ after) → .opened ∉ on →
    writtenOf on <+: queuedOf on
  without_socket : ∀ on after, w = on ++ after → .opened ∉ on → writtenOf on = []

theorem fresh_trace (p : Policy) (hs : List Happening) : Fresh ((Task.new p).trace hs) where
  in_order := (Task.new p).written_of_trace hs
  since_opening before after h := by
    obtain ⟨u, hs', -, hq, rfl⟩ := (Task.new p).exists_of_opened hs before after h
    have hw := u.written_of_trace hs'
    rw [hq] at hw
    exact hw
  of_socket := (Task.new p).written_of_socket hs
  without_socket on after h ho :=
    List.prefix_nil.mp ((Task.new p).written_before_opening hs on after h ho)

/-- **No stale command reaches a new socket.** However queueing is mixed with the moves of the task,
commands are written in the order they were queued, at most once, and on one socket only those
queued since the drain at its opening, without a gap. What is left in the queue when a socket ends
has no bearing on anything the task puts out later. -/
theorem no_stale_command (p : Policy) :
    (∀ ms : List Move, Fresh ((Worker.new p).trace ms)) ∧
    (∀ hs : List Happening, Fresh ((Task.new p).trace hs) ∧
      writtenOf ((Task.new p).trace hs) = ((Task.new p).run hs).2.filterMap Output.write?) ∧
    ∀ (t : Task) (queue : List Command) (hs : List Happening), t.phase ≠ .pumping →
      ({ t with queue := queue }.run hs).2 = (t.run hs).2 := by
  refine ⟨fun ms => ?_, fun hs => ⟨fresh_trace p hs, (Task.new p).writtenOf_trace hs⟩, ?_⟩
  · rw [Worker.trace_eq]
    exact fresh_trace p _
  · intro t queue hs h
    exact t.run_of_leftover h queue hs

/-- one command is left when the first socket ends, one comes during the outage and one during the
drain: only the one queued after it goes to the second socket -/
theorem no_stale_command_reconnected :
    let ms : List Move := [.connected, .drained, .queued ⟨"a"⟩, .taken, .sent, .queued ⟨"b"⟩,
      .meets .ended, .queued ⟨"c"⟩, .meets .elapsed, .connected, .drained, .queued ⟨"d"⟩, .drained,
      .drained, .drained, .queued ⟨"e"⟩, .taken, .sent]
    let before : List Mark := [.opened, .queued ⟨"a"⟩, .written ⟨"a"⟩, .queued ⟨"b"⟩,
      .queued ⟨"c"⟩, .queued ⟨"d"⟩]
    let on : List Mark := [.queued ⟨"e"⟩, .written ⟨"e"⟩]
    (Worker.new .standard).trace ms = before ++ .opened :: on ∧ writtenOf on <+: queuedOf on ∧
      (Task.new .standard).phase ≠ .pumping ∧
      ({ Task.new .standard with queue := [⟨"b"⟩] }.run [.connected, .writable]).2 =
        ((Task.new .standard).run [.connected, .writable]).2 := by
  intro ms before on
  have ht : (Worker.new .standard).trace ms = before ++ .opened :: on := by decide
  have hp : (Task.new .standard).phase ≠ .pumping := nofun
  obtain ⟨hw, -, hl⟩ := no_stale_command .standard
  exact ⟨ht, (hw ms).of_socket before on [] (by rw [ht, List.append_nil]) (by decide), hp,
    hl _ [⟨"b"⟩] _ hp⟩

end ServerConsole.Link
