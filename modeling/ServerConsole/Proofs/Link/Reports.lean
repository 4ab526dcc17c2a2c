import ServerConsole.Link.Task

/-!
# What one step of the task can report

* `Cause`, `Cause.isFinal`  why an attempt or a socket comes to its end, and the causes that refuse
                            for good;
* `Sense`, `Task.sense`     what a happening means to a task;
* `Task.after`, `Task.reports`  the task after a list of happenings, and its events by then;
* `Task.Takes`, `takes`     everything a step can do to a task, with the events it reports.

Later proofs go by these cases and do not open `step` again.
-/

namespace ServerConsole.Link

/-! ## causes -/

inductive Cause
  /-- the attempt fails, or reading from the socket or writing to it -/
  | failed (error : SocketError)
  | closed (frame : Option CloseFrame)
  /-- a frame of kind error comes in -/
  | refused (message : String)
  | ended

namespace Cause

def isFinal : Cause → Bool
  | failed (.http status _) => status == 401 || status == 403
  | closed (some f) => f.code == 1008 || f.code == 4001 || f.code == 4003
  | refused _ => true
  | _ => false

def verdict : Cause → Disconnect
  | failed e => .ofError e
  | closed f => .ofClose f
  | refused message => .rejected message
  | ended => Task.streamEnded

/-- the frame that tells the cause is passed on ahead of the end -/
def frames : Cause → List Event
  | refused message => [.frame (.error message)]
  | failed _ | closed _ | ended => []

theorem isRejection_verdict (c : Cause) : c.verdict.isRejection = c.isFinal := by
  cases c with
  | failed e =>
    cases e with
    | http status body =>
      show (Disconnect.ofHttp status body).isRejection = (status == 401 || status == 403)
      unfold Disconnect.ofHttp
      by_cases h : status = 401 ∨ status = 403
      · rw [if_pos h]
        rcases h with rfl | rfl <;> rfl
      · rw [if_neg h]
        obtain ⟨h1, h2⟩ := not_or.mp h
        simp [Disconnect.isRejection, h1, h2]
    | io _ | connectionClosed | alreadyClosed | reset | unfinishedHandshake | other _ => rfl
  | closed f =>
    cases f with
    | none => rfl
    | some f =>
      show (if Disconnect.rejectionCodes.contains f.code then _ else _ : Disconnect).isRejection =
        (f.code == 1008 || f.code == 4001 || f.code == 4003)
      by_cases h : Disconnect.rejectionCodes.contains f.code = true
      · rw [if_pos h]
        have h' : f.code = 1008 ∨ f.code = 4001 ∨ f.code = 4003 := by
          simpa [Disconnect.rejectionCodes] using h
        rcases h' with h' | h' | h' <;> rw [h'] <;> rfl
      · rw [if_neg h]
        have h' : f.code ≠ 1008 ∧ f.code ≠ 4001 ∧ f.code ≠ 4003 := by
          simpa [Disconnect.rejectionCodes] using h
        simp [Disconnect.isRejection, h'.1, h'.2.1, h'.2.2]
  | refused message => rfl
  | ended => rfl

end Cause

/-! ## what a happening means -/

inductive Sense
  /-- at most a command comes or goes, or a delay is over -/
  | nothing
  | opens
  | brings (frame : Frame)
  | ends (cause : Cause)
  | stops

/-- only a command that is queued can fail to be written -/
def Task.sense (t : Task) (h : Happening) : Sense :=
  match t.phase, h with
  | .finished, _ => .nothing
  | _, .cancelled => .stops
  | .connecting, .connected => .opens
  | .connecting, .refused e => .ends (.failed e)
  | .pumping, .received (.text text) =>
    match Frame.decode text with
    | .ok (.error message) => .ends (.refused message)
    | .ok f => .brings f
    | .error _ => .nothing
  | .pumping, .closed f => .ends (.closed f)
  | .pumping, .broken e => .ends (.failed e)
  | .pumping, .unwritable e => if t.queue.isEmpty then .nothing else .ends (.failed e)
  | .pumping, .ended => .ends .ended
  | _, _ => .nothing

/-! ## reports -/

def reported (out : List Output) : List Event := out.filterMap Output.event?

theorem reported_append (a b : List Output) : reported (a ++ b) = reported a ++ reported b :=
  List.filterMap_append

namespace Task

def after (p : Policy) (hs : List Happening) : Task := ((new p).run hs).1

def reports (p : Policy) (hs : List Happening) : List Event := reported ((new p).run hs).2

theorem after_append (p : Policy) (a b : List Happening) :
    after p (a ++ b) = ((after p a).run b).1 := by
  unfold after
  rw [run_append]

theorem reports_append (p : Policy) (a b : List Happening) :
    reports p (a ++ b) = reports p a ++ reported ((after p a).run b).2 := by
  unfold reports after
  rw [run_append, reported_append]

theorem run_singleton (t : Task) (h : Happening) : t.run [h] = t.step h := by
  rw [run_cons, run_nil, List.append_nil]

/-! ## ends -/

theorem toNat_succ {a b : UInt32} (h : a < b) : (a + 1).toNat = a.toNat + 1 := by
  have h' : a.toNat < b.toNat := UInt32.lt_iff_toNat_lt.mp h
  have hb : b.toNat < 2 ^ 32 := b.toNat_lt
  rw [UInt32.toNat_add]
  show (a.toNat + 1) % 2 ^ 32 = _
  rw [Nat.mod_eq_of_lt (by omega)]

/-- a final cause is the end; any other one is a loss, with a retry as long as the budget lasts -/
theorem disconnect_cases (t : Task) (c : Cause) :
    (c.isFinal = true ∧ t.disconnect c.verdict =
      ({ t with phase := .finished }, [.event (.rejected c.verdict.reason)])) ∨
    (c.isFinal = false ∧ t.backoff.attempt < t.backoff.policy.maxAttempts ∧
      t.disconnect c.verdict =
        ({ t with phase := .waiting, backoff := ⟨t.backoff.policy, t.backoff.attempt + 1⟩ },
          [.event (.lost c.verdict.reason),
            .event (.reconnecting (t.backoff.attempt + 1)
              (t.backoff.policy.delayFor (t.backoff.attempt + 1)))])) ∨
    (c.isFinal = false ∧ t.backoff.policy.maxAttempts ≤ t.backoff.attempt ∧
      t.disconnect c.verdict =
        ({ t with phase := .finished },
          [.event (.lost c.verdict.reason), .event (.gaveUp t.backoff.attempt)])) := by
  rw [← c.isRejection_verdict]
  cases c.verdict with
  | rejected reason => exact .inl ⟨rfl, rfl⟩
  | lost reason =>
    right
    by_cases h : t.backoff.policy.maxAttempts ≤ t.backoff.attempt
    · exact .inr ⟨rfl, h, by simp [disconnect, retry, Backoff.next?, h, Disconnect.reason]⟩
    · refine .inl ⟨rfl, UInt32.not_le.mp h, ?_⟩
      simp [disconnect, retry, Backoff.next?, h, Disconnect.reason]

/-! ## one step -/

/-- everything a step can do -/
inductive Takes (t : Task) (h : Happening) : Task → List Event → Prop
  | passes (u : Task) (hs : t.sense h = .nothing) (hb : u.backoff = t.backoff)
      (hr : u.reconnected = t.reconnected)
      (hp : u.phase = t.phase ∨ (t.phase = .waiting ∧ u.phase = .connecting)) : Takes t h u []
  | opens (hs : t.sense h = .opens) (hp : t.phase = .connecting) :
      Takes t h t.opened.1 [.opened t.reconnected]
  | brings (f : Frame) (hs : t.sense h = .brings f) (hp : t.phase = .pumping)
      (hf : f.kind ≠ .error) : Takes t h t [.frame f]
  | rejects (c : Cause) (queue : List Command) (hs : t.sense h = .ends c)
      (hp : t.phase = .pumping ∨ (t.phase = .connecting ∧ c.frames = [])) (hc : c.isFinal = true) :
      Takes t h { t with phase := .finished, queue := queue }
        (c.frames ++ [.rejected c.verdict.reason])
  | retries (c : Cause) (queue : List Command) (hs : t.sense h = .ends c)
      (hp : t.phase = .pumping ∨ t.phase = .connecting) (hc : c.isFinal = false)
      (ha : t.backoff.attempt < t.backoff.policy.maxAttempts) :
      Takes t h
        { t with
          phase := .waiting
          backoff := ⟨t.backoff.policy, t.backoff.attempt + 1⟩
          queue := queue }
        [.lost c.verdict.reason, .reconnecting (t.backoff.attempt + 1)
          (t.backoff.policy.delayFor (t.backoff.attempt + 1))]
  | givesUp (c : Cause) (queue : List Command) (hs : t.sense h = .ends c)
      (hp : t.phase = .pumping ∨ t.phase = .connecting) (hc : c.isFinal = false)
      (ha : t.backoff.policy.maxAttempts ≤ t.backoff.attempt) :
      Takes t h { t with phase := .finished, queue := queue }
        [.lost c.verdict.reason, .gaveUp t.backoff.attempt]
  | stops (hs : t.sense h = .stops) (hp : t.phase ≠ .finished) : Takes t h t.cancel.1 [.closed]

theorem frames_of_not_final {c : Cause} (h : c.isFinal = false) : c.frames = [] := by
  cases c with
  | refused message => cases h
  | failed _ | closed _ | ended => rfl

theorem takes_end {t : Task} {h : Happening} {c : Cause} (queue : List Command)
    (hs : t.sense h = .ends c) (hp : t.phase = .pumping ∨ (t.phase = .connecting ∧ c.frames = [])) :
    Takes t h ({ t with queue := queue }.disconnect c.verdict).1
      (c.frames ++ reported ({ t with queue := queue }.disconnect c.verdict).2) := by
  have hp' : t.phase = .pumping ∨ t.phase = .connecting := hp.imp_right And.left
  rcases disconnect_cases { t with queue := queue } c with ⟨hc, hd⟩ | ⟨hc, ha, hd⟩ | ⟨hc, ha, hd⟩
  · rw [hd]
    exact .rejects c queue hs hp hc
  · rw [hd, frames_of_not_final hc]
    exact .retries c queue hs hp' hc ha
  · rw [hd, frames_of_not_final hc]
    exact .givesUp c queue hs hp' hc ha

theorem takes_text {t : Task} (hp : t.phase = .pumping) (text : String) :
    Takes t (.received (.text text)) (t.message (.text text)).1
      (reported (t.message (.text text)).2) := by
  obtain ⟨phase, backoff, reconnected, queue⟩ := t
  cases hp
  cases hd : Frame.decode text with
  | error e =>
    simp only [message, hd]
    exact .passes _ (by simp [sense, hd]) rfl rfl (.inl rfl)
  | ok f =>
    simp only [message, hd]
    cases f with
    | console _ _ _ | stats _ | status _ => exact .brings _ (by simp [sense, hd]) rfl nofun
    | error message => exact takes_end queue (c := .refused message) (by simp [sense, hd]) (.inl rfl)

theorem takes (t : Task) (h : Happening) : Takes t h (t.step h).1 (reported (t.step h).2) := by
  obtain ⟨phase, backoff, reconnected, queue⟩ := t
  cases phase with
  | connecting =>
    cases h with
    | connected => exact .opens rfl rfl
    | refused e => exact takes_end queue (c := .failed e) rfl (.inr ⟨rfl, rfl⟩)
    | cancelled => exact .stops rfl nofun
    | received _ | closed _ | broken _ | ended | queued _ | writable | unwritable _ | elapsed =>
      exact .passes _ rfl rfl rfl (.inl rfl)
  | pumping =>
    cases h with
    | received m =>
      cases m with
      | text text => exact takes_text rfl text
      | other => exact .passes _ rfl rfl rfl (.inl rfl)
    | closed f => exact takes_end queue (c := .closed f) rfl (.inl rfl)
    | broken e => exact takes_end queue (c := .failed e) rfl (.inl rfl)
    | ended => exact takes_end queue (c := .ended) rfl (.inl rfl)
    | unwritable e =>
      cases queue with
      | nil => exact .passes _ rfl rfl rfl (.inl rfl)
      | cons command queue => exact takes_end queue (c := .failed e) rfl (.inl rfl)
    | writable => cases queue <;> exact .passes _ rfl rfl rfl (.inl rfl)
    | cancelled => exact .stops rfl nofun
    | connected | refused _ | queued _ | elapsed => exact .passes _ rfl rfl rfl (.inl rfl)
  | waiting =>
    cases h with
    | elapsed => exact .passes _ rfl rfl rfl (.inr ⟨rfl, rfl⟩)
    | cancelled => exact .stops rfl nofun
    | connected | refused _ | received _ | closed _ | broken _ | ended | queued _ | writable
    | unwritable _ => exact .passes _ rfl rfl rfl (.inl rfl)
  | finished =>
    rw [step_of_finished _ rfl]
    exact .passes _ rfl rfl rfl (.inl rfl)

theorem run_of_finished {t : Task} (h : t.phase = .finished) (hs : List Happening) :
    t.run hs = (t, []) := by
  induction hs with
  | nil => rfl
  | cons x hs ih => rw [run_cons, t.step_of_finished h, ih, List.append_nil]

end Task

end ServerConsole.Link
