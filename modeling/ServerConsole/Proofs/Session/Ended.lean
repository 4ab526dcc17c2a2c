import ServerConsole.Proofs.Session.Desk

/-!
# What is left of a session that is closed

To close a session takes the log, the telemetry and the history away, and nothing brings them back: each
call sees that the session is closed before it looks at anything else.

* `Session.Emptied`     log, telemetry and history are gone;
* `emptied_run`         so they are at all desks whose session is closed;
* `call_of_ended`       a call does nothing at such a desk;
* `closed_inert`        a session that is closed, and whatever is called afterwards.
-/

namespace ServerConsole

namespace Session

/-! ## the end -/

/-- nothing is left to read -/
structure Emptied (s : Session) : Prop where
  log : s.log.toList = [] ∧ s.log.appended = 0
  telemetry : s.telemetry = .unknown
  history : s.history = .new

theorem closed_close (s : Session) : s.close.closed = true := by
  unfold close
  split
  · assumption
  · rfl

theorem emptied_close {s : Session} (h : s.closed = false) : s.close.Emptied := by
  have hs : s.close = { s with
      closed := true, link := s.link.close, log := s.log.clear, telemetry := .unknown
      history := .new } := if_neg (ne_true_of_eq_false h)
  rw [hs]
  exact ⟨⟨s.log.toList_clear, rfl⟩, rfl, rfl⟩

/-- no move leaves the prompt of a history without commands -/
theorem revisit_of_new {s : Session} (h : s.history = .new) (direction : Direction) :
    s.revisit direction = (s, "") := by
  have hm : History.new.navigate direction = (.new, "") := by cases direction <;> rfl
  unfold revisit
  rw [h, hm, ← h]

end Session

namespace Desk

/-- the session is closed, and nothing is left of it -/
def Ended (d : Desk) : Prop := d.session.closed = true ∧ d.session.Emptied

/-! ## what is closed is empty -/

/-- no call does anything: moves in the history are the only ones that are still made, and there is
nowhere to move -/
theorem call_of_ended {d : Desk} (h : d.Ended) (c : Call) : d.call c = (d, []) := by
  by_cases hc : ∃ direction, c = .revisit direction
  · obtain ⟨direction, rfl⟩ := hc
    show d.carry ((d.session.revisit direction).1, []) = _
    rw [Session.revisit_of_new h.2.history]
    rfl
  · exact call_of_closed h.1 fun direction hd => hc ⟨direction, hd⟩

theorem ended_step {d : Desk} (h : d.Ended) (x : Step) : (d.step x).1.Ended := by
  cases x with
  | call c =>
    show (d.call c).1.Ended
    rw [call_of_ended h]
    exact h
  | finish c =>
    unfold Ended
    rw [session_finish]
    exact h
  | report _ | detach | relabel _ => exact ⟨h.1, h.2.log, h.2.telemetry, h.2.history⟩

/-- a session that is closed by a step is emptied by it -/
theorem emptied_step {d : Desk} (h : d.session.closed = true → d.session.Emptied) (x : Step)
    (hc : (d.step x).1.session.closed = true) : (d.step x).1.session.Emptied := by
  by_cases hb : d.session.closed = true
  · exact (ended_step ⟨hb, h hb⟩ x).2
  · have ho : d.session.closed = false := eq_false_of_ne_true hb
    rw [closed_step, ho, Bool.false_or] at hc
    have hx : x = .call .close := by
      cases x with
      | call c => cases c <;> first | rfl | cases hc
      | report _ | finish _ | detach | relabel _ => cases hc
    rw [hx]
    exact Session.emptied_close ho

/-- whenever a session is closed, nothing is left of it -/
theorem emptied_run (o : Session.Opening) (xs : List Step)
    (hc : ((new o.session).run xs).session.closed = true) :
    ((new o.session).run xs).session.Emptied := by
  refine keeps_run (P := fun d => d.session.closed = true → d.session.Emptied)
    (fun d x h => emptied_step h x) (fun h => ?_) xs hc
  obtain ⟨_, _, _, ho⟩ := o.session_frame
  have hn : o.session.closed = false := by rw [ho]; rfl
  exact absurd h (ne_true_of_eq_false hn)

/-! ## what comes after the end -/

theorem run_calls_of_ended {d : Desk} (h : d.Ended) (calls : List Call) :
    d.run (calls.map .call) = d := by
  induction calls with
  | nil => rfl
  | cons c calls ih =>
    rw [List.map_cons, run_cons]
    show (d.call c).1.run _ = d
    rw [call_of_ended h]
    exact ih

/-- whatever happens, the session stays as it is, and leaves nothing to do -/
theorem still_run {d : Desk} (h : d.Ended) (xs : List Step) :
    (d.run xs).Ended ∧ d.session.Still (d.run xs).session ∧ d.effects xs = [] := by
  refine keeps_collected (R := fun e l => e.Ended ∧ d.session.Still e.session ∧ l = []) (l := [])
    (fun e x l ⟨he, hs, hl⟩ => ?_) ⟨h, .refl d.session, rfl⟩ xs
  obtain ⟨hx, hn⟩ := step_of_closed he.1 x
  exact ⟨ended_step he x, hs.trans hx, by rw [hl, hn]; rfl⟩

/-- **A closed session is inert.** Wherever a session has got to, once it is closed its log, telemetry
and history are empty, and calls of any kind in any order leave it, and both queues, as they are. Nor do
the channel's task and the power calls still under way: between any calls they change what the session
holds of the task, and the label of the time, and nothing else. Meanwhile no call is made and no command
queued, commands and requests are answered that the session is closed, and there is no next event. -/
theorem closed_inert (o : Session.Opening) (xs : List Step) :
    let ended := (((new o.session).run xs).call .close).1
    ended.session.closed = true ∧
    (ended.session.log.toList = [] ∧ ended.session.log.appended = 0 ∧
      ended.session.telemetry = .unknown ∧ ended.session.history = .new) ∧
    (∀ calls : List Call, ended.run (calls.map .call) = ended) ∧
    ∀ more : List Step,
      let later := ended.run more
      (∃ accepting clock, later.session = { ended.session with
        link := { ended.session.link with accepting := accepting }, clock := clock }) ∧
      ended.effects more = [] ∧
      (∀ typed, later.session.submit typed = ⟨later.session, [], .error .sessionClosed⟩) ∧
      (∀ a, later.session.request a = ⟨later.session, [], .error .sessionClosed⟩) ∧
      (∀ direction, later.session.revisit direction = (later.session, "")) ∧
      ∀ first, later.next first = (later, .over) := by
  intro ended
  have he : ended.Ended := by
    have hc : ended.session.closed = true := Session.closed_close _
    refine ⟨hc, ?_⟩
    -- the end is one more step
    have hr : (new o.session).run (xs ++ [.call .close]) = ended := run_append _ _ _
    rw [← hr] at hc ⊢
    exact emptied_run o _ hc
  refine ⟨he.1, ⟨he.2.log.1, he.2.log.2, he.2.telemetry, he.2.history⟩,
    fun calls => run_calls_of_ended he calls, fun more => ?_⟩
  intro later
  obtain ⟨hl, hs, hn⟩ := still_run he more
  refine ⟨hs.of_history ?_, hn, fun typed => Session.submit_of_closed hl.1 typed,
    fun a => Session.request_of_closed hl.1 a, fun direction => Session.revisit_of_new hl.2.history _,
    fun first => next_of_closed hl.1 first⟩
  exact hl.2.history.trans he.2.history.symm

end Desk

end ServerConsole
