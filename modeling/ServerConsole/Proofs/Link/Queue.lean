import ServerConsole.Link.Task

/-!
# What becomes of the commands in the queue

* `Mark`, `Task.trace`     a run as it concerns commands: queued, written, and sockets opened;
* `Task.Shifts`, `shifts`  everything a step can do to the queue;
* `Task.written_of_trace`  what a run writes comes from its queue and from what is queued meanwhile;
* `Task.written_of_socket` on one socket it is the front of what is queued since the opening;
* `Task.run_of_leftover`   without a socket, what is in the queue has no bearing on anything later.
-/

namespace ServerConsole.Link

/-! ## marks -/

inductive Mark
  | queued (command : Command)
  | written (command : Command)
  /-- a socket is open, and the commands queued before it have been dropped -/
  | opened
  deriving DecidableEq

namespace Mark

def queued? : Mark → Option Command
  | queued c => some c
  | written _ | opened => none

def written? : Mark → Option Command
  | written c => some c
  | queued _ | opened => none

def ofOutput? : Output → Option Mark
  | .event (.opened _) => some opened
  | .event _ => none
  | .write c => some (written c)

end Mark

def queuedOf (w : List Mark) : List Command := w.filterMap Mark.queued?

def writtenOf (w : List Mark) : List Command := w.filterMap Mark.written?

def marked (out : List Output) : List Mark := out.filterMap Mark.ofOutput?

namespace Task

/-- a task that has finished takes no commands -/
def admitted (t : Task) : Happening → List Mark
  | .queued c => if t.phase = .finished then [] else [.queued c]
  | _ => []

def marks (t : Task) (h : Happening) : List Mark := t.admitted h ++ marked (t.step h).2

def trace (t : Task) : List Happening → List Mark
  | [] => []
  | h :: hs => t.marks h ++ (t.step h).1.trace hs

/-! ## one step -/

/-- everything a step can do to the queue -/
inductive Shifts (t u : Task) : List Mark → Prop
  | rests (hq : u.queue.Sublist t.queue)
      (hp : u.phase = .pumping → t.phase = .pumping ∧ u.queue = t.queue) : Shifts t u []
  | queues (c : Command) (hq : u.queue = t.queue ++ [c]) (hp : u.phase = t.phase) :
      Shifts t u [.queued c]
  | opens (hp : u.phase = .pumping) (hq : u.queue = []) : Shifts t u [.opened]
  | writes (c : Command) (ht : t.phase = .pumping) (hp : u.phase = .pumping)
      (hq : t.queue = c :: u.queue) : Shifts t u [.written c]

/-- an end says nothing of commands and leaves the queue as it is -/
theorem disconnect_queue (t : Task) (d : Disconnect) :
    marked (t.disconnect d).2 = [] ∧ (t.disconnect d).1.queue = t.queue ∧
      (t.disconnect d).1.phase ≠ .pumping := by
  cases d with
  | rejected reason => exact ⟨rfl, rfl, nofun⟩
  | lost reason =>
    simp only [disconnect, retry]
    cases t.backoff.next? with
    | none => exact ⟨rfl, rfl, nofun⟩
    | some p => exact ⟨rfl, rfl, nofun⟩

theorem shifts_disconnect {t : Task} {queue : List Command} (hq : queue.Sublist t.queue)
    (d : Disconnect) :
    Shifts t ({ t with queue := queue }.disconnect d).1
      (marked ({ t with queue := queue }.disconnect d).2) := by
  obtain ⟨hm, hu, hp⟩ := disconnect_queue { t with queue := queue } d
  rw [hm]
  exact .rests (hu ▸ hq) fun h => absurd h hp

theorem shifts_same (t : Task) : Shifts t t [] := .rests (.refl _) fun h => ⟨h, rfl⟩

theorem shifts_message (t : Task) (m : Message) :
    Shifts t (t.message m).1 (marked (t.message m).2) := by
  cases m with
  | other => exact shifts_same t
  | text text =>
    cases hd : Frame.decode text with
    | error e =>
      simp only [message, hd]
      exact shifts_same t
    | ok f =>
      simp only [message, hd]
      cases f with
      | console _ _ _ | stats _ | status _ => exact shifts_same t
      | error message => exact shifts_disconnect (.refl _) (.rejected message)

theorem shifts (t : Task) (h : Happening) : Shifts t (t.step h).1 (t.marks h) := by
  obtain ⟨phase, backoff, reconnected, queue⟩ := t
  cases phase with
  | connecting =>
    cases h with
    | connected => exact .opens rfl rfl
    | refused e => exact shifts_disconnect (.refl _) (.ofError e)
    | queued c => exact .queues c rfl rfl
    | cancelled => exact .rests (.refl _) nofun
    | received _ | closed _ | broken _ | ended | writable | unwritable _ | elapsed =>
      exact shifts_same _
  | pumping =>
    cases h with
    | received m => exact shifts_message _ m
    | closed f => exact shifts_disconnect (.refl _) (.ofClose f)
    | broken e => exact shifts_disconnect (.refl _) (.ofError e)
    | ended => exact shifts_disconnect (.refl _) streamEnded
    | queued c => exact .queues c rfl rfl
    | writable =>
      cases queue with
      | nil => exact shifts_same _
      | cons c queue => exact .writes c rfl rfl rfl
    | unwritable e =>
      cases queue with
      | nil => exact shifts_same _
      | cons c queue => exact shifts_disconnect (List.sublist_cons_self c queue) (.ofError e)
    | cancelled => exact .rests (.refl _) nofun
    | connected | refused _ | elapsed => exact shifts_same _
  | waiting =>
    cases h with
    | queued c => exact .queues c rfl rfl
    | elapsed | cancelled => exact .rests (.refl _) nofun
    | connected | refused _ | received _ | closed _ | broken _ | ended | writable | unwritable _ =>
      exact shifts_same _
  | finished => cases h <;> exact shifts_same _

/-! ## runs -/

theorem trace_append (t : Task) (a b : List Happening) :
    t.trace (a ++ b) = t.trace a ++ (t.run a).1.trace b := by
  induction a generalizing t with
  | nil => rfl
  | cons h a ih => rw [List.cons_append, trace, ih, trace, List.append_assoc, run_cons]

theorem writtenOf_marked (out : List Output) :
    writtenOf (marked out) = out.filterMap Output.write? := by
  have he : (fun o => (Mark.ofOutput? o).bind Mark.written?) = Output.write? := by
    funext o
    rcases o with e | c
    · cases e <;> rfl
    · rfl
  rw [writtenOf, marked, List.filterMap_filterMap, he]

/-- the commands a trace has as written are the writes of the run -/
theorem writtenOf_trace (t : Task) (hs : List Happening) :
    writtenOf (t.trace hs) = (t.run hs).2.filterMap Output.write? := by
  have ha : ∀ (t : Task) h, writtenOf (t.admitted h) = [] := by
    intro t h
    cases h with
    | queued c =>
      rw [admitted]
      split <;> rfl
    | _ => rfl
  induction hs generalizing t with
  | nil => rfl
  | cons h hs ih =>
    rw [trace, run_cons, List.filterMap_append, ← ih, ← writtenOf_marked]
    show writtenOf (t.admitted h ++ _ ++ _) = _
    simp only [writtenOf, List.filterMap_append] at ha ⊢
    rw [ha, List.nil_append]

/-- what is written comes out of the queue in its order, each command at most once -/
theorem written_of_trace (t : Task) (hs : List Happening) :
    (writtenOf (t.trace hs)).Sublist (t.queue ++ queuedOf (t.trace hs)) := by
  induction hs generalizing t with
  | nil => exact List.nil_sublist _
  | cons h hs ih =>
    have ih := ih (t.step h).1
    have hsh := shifts t h
    rw [trace]
    generalize (t.step h).1 = u, t.marks h = w at hsh ih
    cases hsh with
    | rests hq => exact ih.trans (hq.append_right _)
    | queues c hq =>
      rw [hq, List.append_assoc] at ih
      exact ih
    | opens _ hq =>
      rw [hq] at ih
      exact ih.trans (List.sublist_append_right ..)
    | writes c _ _ hq =>
      rw [hq]
      exact ih.cons_cons c

/-- up to the next opening, nothing is written without a socket, and with one only the front of what
is queued -/
theorem written_before_opening (t : Task) (hs : List Happening) (on after : List Mark)
    (h : t.trace hs = on ++ after) (ho : .opened ∉ on) :
    writtenOf on <+: if t.phase = .pumping then t.queue ++ queuedOf on else [] := by
  induction hs generalizing t on with
  | nil =>
    obtain ⟨rfl, -⟩ := List.append_eq_nil_iff.mp h.symm
    exact List.nil_prefix
  | cons x hs ih =>
    have ih := ih (t.step x).1
    have hsh := shifts t x
    rw [trace] at h
    generalize (t.step x).1 = u, t.marks x = w at hsh ih h
    cases on with
    | nil => exact List.nil_prefix
    | cons m on =>
      -- a step leaves one mark at most, so a mark it leaves is the first one of the part
      have ho' : .opened ∉ on := fun hm => ho (List.mem_cons_of_mem m hm)
      cases hsh with
      | rests hq hp =>
        have ih := ih (m :: on) h ho
        by_cases hu : u.phase = .pumping
        · obtain ⟨ht, hq⟩ := hp hu
          rw [if_pos hu, hq] at ih
          rw [if_pos ht]
          exact ih
        · rw [if_neg hu] at ih
          exact ih.trans List.nil_prefix
      | queues c hq hp =>
        obtain ⟨rfl, htr⟩ := List.cons.inj h
        have ih := ih on htr ho'
        rw [hp, hq, List.append_assoc] at ih
        exact ih
      | opens =>
        obtain ⟨rfl, -⟩ := List.cons.inj h
        exact absurd (List.mem_cons_self ..) ho
      | writes c ht hu hq =>
        obtain ⟨rfl, htr⟩ := List.cons.inj h
        have ih := ih on htr ho'
        rw [if_pos hu] at ih
        rw [if_pos ht, hq]
        exact List.cons_prefix_cons.mpr ⟨rfl, ih⟩

/-- behind an opening stands a task with a socket and an empty queue -/
theorem exists_of_opened (t : Task) (hs : List Happening) (before after : List Mark)
    (h : t.trace hs = before ++ .opened :: after) :
    ∃ u hs', Task.phase u = .pumping ∧ u.queue = [] ∧ u.trace hs' = after := by
  induction hs generalizing t before with
  | nil => exact absurd h (by simp [trace])
  | cons x hs ih =>
    have ih := ih (t.step x).1
    have hsh := shifts t x
    rw [trace] at h
    generalize (t.step x).1 = u, t.marks x = w at hsh ih h
    cases before with
    | nil =>
      cases hsh with
      | rests => exact ih [] h
      | queues | writes => cases (List.cons.inj h).1
      | opens hp hq => exact ⟨u, hs, hp, hq, (List.cons.inj h).2⟩
    | cons m before =>
      cases hsh with
      | rests => exact ih (m :: before) h
      | queues | writes | opens => exact ih before (List.cons.inj h).2

/-- what is written on a socket is the front of what is queued since its opening -/
theorem written_of_socket (t : Task) (hs : List Happening) (before on after : List Mark)
    (h : t.trace hs = before ++ .opened :: (on ++ after)) (ho : .opened ∉ on) :
    writtenOf on <+: queuedOf on := by
  obtain ⟨u, hs', hp, hq, hu⟩ := exists_of_opened t hs before _ h
  have hw := written_before_opening u hs' on after hu ho
  rw [if_pos hp, hq] at hw
  exact hw

/-! ## leftovers -/

/-- tasks that differ in their queues at most, and not even there while a socket is open -/
def Alike (t u : Task) : Prop :=
  ∃ queue, u = { t with queue := queue } ∧ (t.phase = .pumping → u = t)

theorem alike_disconnect (t : Task) (queue : List Command) (d : Disconnect) :
    Alike (t.disconnect d).1 ({ t with queue := queue }.disconnect d).1 ∧
      ({ t with queue := queue }.disconnect d).2 = (t.disconnect d).2 := by
  cases d with
  | rejected reason => exact ⟨⟨queue, rfl, nofun⟩, rfl⟩
  | lost reason =>
    simp only [disconnect, retry]
    cases t.backoff.next? with
    | none => exact ⟨⟨queue, rfl, nofun⟩, rfl⟩
    | some p => exact ⟨⟨queue, rfl, nofun⟩, rfl⟩

theorem Alike.step {t u : Task} (h : Alike t u) (x : Happening) :
    Alike (t.step x).1 (u.step x).1 ∧ (u.step x).2 = (t.step x).2 := by
  obtain ⟨queue, rfl, hp⟩ := h
  obtain ⟨phase, backoff, reconnected, old⟩ := t
  cases phase with
  | connecting =>
    cases x with
    | connected => exact ⟨⟨[], rfl, fun _ => rfl⟩, rfl⟩
    | refused e => exact alike_disconnect _ queue (.ofError e)
    | queued c => exact ⟨⟨queue ++ [c], rfl, nofun⟩, rfl⟩
    | received _ | closed _ | broken _ | ended | writable | unwritable _ | elapsed | cancelled =>
      exact ⟨⟨queue, rfl, nofun⟩, rfl⟩
  | pumping =>
    rw [hp rfl]
    exact ⟨⟨_, rfl, fun _ => rfl⟩, rfl⟩
  | waiting =>
    cases x with
    | queued c => exact ⟨⟨queue ++ [c], rfl, nofun⟩, rfl⟩
    | connected | refused _ | received _ | closed _ | broken _ | ended | writable | unwritable _
    | elapsed | cancelled => exact ⟨⟨queue, rfl, nofun⟩, rfl⟩
  | finished =>
    rw [step_of_finished _ rfl, step_of_finished _ rfl]
    exact ⟨⟨queue, rfl, nofun⟩, rfl⟩

theorem Alike.run {t u : Task} (h : Alike t u) (hs : List Happening) :
    (u.run hs).2 = (t.run hs).2 := by
  induction hs generalizing t u with
  | nil => rfl
  | cons x hs ih =>
    obtain ⟨ha, ho⟩ := h.step x
    rw [run_cons, run_cons, ho, ih ha]

/-- commands that are left when a socket ends might as well not be there -/
theorem run_of_leftover (t : Task) (h : t.phase ≠ .pumping) (queue : List Command)
    (hs : List Happening) : ({ t with queue := queue }.run hs).2 = (t.run hs).2 :=
  Alike.run ⟨queue, rfl, fun hp => absurd hp h⟩ hs

end Task

end ServerConsole.Link
