import ServerConsole.Proofs.Session.Run
import ServerConsole.Timeline

/-!
# A session and its power calls

A call that a session has begun is out until the panel answers it or its time is over. Then its
completion waits in a queue, in order of arrival, until the session takes it. Between two things
that happen the operator, the channel, the panel and the clock are free to act in any order.

* `Traffic`           session, clock, the calls out, and the completions that wait;
* `Move`, `step`, `run`  one thing that happens, and a list of them, with the calls begun;
* `unsettled`         the calls begun whose completion has not been taken;
* `Acts`, `acts`      everything a move can do; later proofs go by these cases;
* `unsettled_expire`, `out_step`  time moves calls from the calls out to the queue, and no call
                      comes to the calls out but those begun.
-/

namespace ServerConsole

/-! ## definitions -/

/-- a call as the power machine knows it -/
def PendingCall.key (c : PendingCall) : Power.Ticket × PowerAction := (c.ticket, c.action)

def Session.Completion.key (d : Session.Completion) : Power.Ticket × PowerAction :=
  (d.ticket, d.action)

def PendingCall.completed (c : PendingCall) (failure : Power.Outcome) : Session.Completion :=
  ⟨c.ticket, c.action, failure⟩

structure Traffic where
  session : Session
  now : Nat
  /-- the longest time a call may take -/
  patience : Nat
  /-- the calls begun that are neither answered nor out of time -/
  out : List PendingCall
  /-- the completions the session has not taken, oldest first -/
  ended : List Session.Completion

inductive Move
  /-- anything but a completion reaches the session -/
  | operate (operation : Session.Operation)
  /-- the panel answers a call that is out; nothing when it is not -/
  | answer (call : PendingCall) (failure : Power.Outcome)
  /-- the session takes the oldest completion -/
  | take
  | wait (ms : Nat)

namespace Traffic

def new (session : Session) (patience : Nat) : Traffic := ⟨session, 0, patience, [], []⟩

/-- the same calls on the app's timeline -/
def timeline (t : Traffic) : Timeline := ⟨.new t.session, t.now, t.patience, t.out⟩

/-- the calls whose completion the session has not taken -/
def unsettled (t : Traffic) : List (Power.Ticket × PowerAction) :=
  t.out.map PendingCall.key ++ t.ended.map Session.Completion.key

/-- takes over what the session left to do -/
def carry (t : Traffic) (r : Session × List Session.Effect) : Traffic × List PendingCall :=
  let begun := r.2.filterMap (Timeline.pending? t.now)
  ({ t with session := r.1, out := t.out ++ begun }, begun)

def act (t : Traffic) : Move → Traffic × List PendingCall
  | .operate op => t.carry (t.session.perform op)
  | .answer c failure =>
    if c ∈ t.out then
      ({ t with out := t.out.erase c, ended := t.ended ++ [c.completed failure] }, [])
    else (t, [])
  | .take =>
    match t.ended with
    | [] => (t, [])
    | d :: rest => { t with ended := rest }.carry (t.session.receive (.power d))
  | .wait ms => ({ t with now := t.now + ms }, [])

/-- ends the calls that have been out too long -/
def expire (t : Traffic) : Traffic :=
  { t with
    out := t.out.filter fun c => !t.timeline.overdue c
    ended := t.ended ++
      (t.out.filter t.timeline.overdue).map (·.completed (some t.timeline.timeoutText)) }

def step (t : Traffic) (m : Move) : Traffic × List PendingCall := ((t.act m).1.expire, (t.act m).2)

/-- a whole run: the traffic at its end, and all calls begun -/
def run (t : Traffic) : List Move → Traffic × List PendingCall
  | [] => (t, [])
  | m :: ms =>
    let (t, begun) := t.step m
    let (t, more) := t.run ms
    (t, begun ++ more)

theorem run_nil (t : Traffic) : t.run [] = (t, []) := rfl

theorem run_cons (t : Traffic) (m : Move) (ms : List Move) :
    t.run (m :: ms) = (((t.step m).1.run ms).1, (t.step m).2 ++ ((t.step m).1.run ms).2) := rfl

theorem run_append (t : Traffic) (a b : List Move) :
    t.run (a ++ b) = (((t.run a).1.run b).1, (t.run a).2 ++ ((t.run a).1.run b).2) := by
  induction a generalizing t with
  | nil => simp [run_nil]
  | cons m a ih => simp [run_cons, ih]

theorem run_concat (t : Traffic) (ms : List Move) (m : Move) :
    (t.run (ms ++ [m])).1 = ((t.run ms).1.step m).1 := by
  rw [run_append]
  rfl

/-- what each move keeps, a run keeps -/
theorem run_of_step {P : Traffic → Prop} (step : ∀ t m, P t → P (t.step m).1) {t : Traffic}
    (h : P t) (ms : List Move) : P (t.run ms).1 := by
  induction ms generalizing t with
  | nil => exact h
  | cons m ms ih => exact ih (step t m h)

/-! ## one move -/

theorem filterMap_pending_queue {now : Nat} {es : List Session.Effect}
    (h : ∀ e ∈ es, ∃ c, e = Session.Effect.queue c) : es.filterMap (Timeline.pending? now) = [] := by
  rw [List.filterMap_eq_nil_iff]
  intro e he
  obtain ⟨c, rfl⟩ := h e he
  rfl

theorem carry_eq (t : Traffic) {r : Session × List Session.Effect} {begun : List PendingCall}
    (h : r.2.filterMap (Timeline.pending? t.now) = begun) :
    t.carry r = ({ t with session := r.1, out := t.out ++ begun }, begun) := by
  unfold carry
  rw [h]

theorem act_answer {t : Traffic} {c : PendingCall} (h : c ∈ t.out) (f : Power.Outcome) :
    t.act (.answer c f) =
      ({ t with out := t.out.erase c, ended := t.ended ++ [c.completed f] }, []) :=
  if_pos h

theorem act_answer_of_notMem {t : Traffic} {c : PendingCall} (h : c ∉ t.out) (f : Power.Outcome) :
    t.act (.answer c f) = (t, []) :=
  if_neg h

theorem act_take_nil {t : Traffic} (h : t.ended = []) : t.act .take = (t, []) := by
  simp only [act, h]

/-- taking a completion begins no call -/
theorem act_take {t : Traffic} {d : Session.Completion} {rest : List Session.Completion}
    (h : t.ended = d :: rest) :
    t.act .take = ({ t with session := (t.session.receive (.power d)).1, ended := rest }, []) := by
  obtain ⟨_, _, _, _, hf⟩ := t.session.complete_frame d
  have hn : (t.session.receive (.power d)).2.filterMap (Timeline.pending? t.now) = [] := by
    rw [hf]
    rfl
  simp only [act, h]
  rw [carry_eq { t with ended := rest } hn, List.append_nil]

/-- everything a move can do -/
inductive Acts (t : Traffic) (m : Move) : Traffic × List PendingCall → Prop
  /-- a kill is dispatched -/
  | kills (s : Session) (c : PendingCall) (ho : t.session.closed = false)
      (hc : c = ⟨t.session.power.nextTicket, .kill, t.now⟩)
      (hs : s.power = t.session.power.issue (Power.Machine.afterKill t.session.power.phase)) :
      Acts t m ({ t with session := s, out := t.out ++ [c] }, [c])
  /-- a start, a stop or a restart is dispatched -/
  | launches (s : Session) (c : PendingCall) (ho : t.session.closed = false)
      (hn : c.since = t.now) (hk : c.action ≠ .kill) (hi : t.session.power.phase = .idle)
      (hs : s.power.phase = Power.launch c.action c.ticket) :
      Acts t m ({ t with session := s, out := t.out ++ [c] }, [c])
  /-- the panel answers a call -/
  | ends (c : PendingCall) (f : Power.Outcome) (hc : c ∈ t.out) :
      Acts t m ({ t with out := t.out.erase c, ended := t.ended ++ [c.completed f] }, [])
  /-- a completion is taken; a closed session drops it -/
  | takes (s : Session) (d : Session.Completion) (rest : List Session.Completion) (hm : m = .take)
      (he : t.ended = d :: rest)
      (hs : (t.session.closed = true ∧ s = t.session) ∨ (t.session.closed = false ∧
        s.power = (t.session.power.complete d.ticket d.action d.failure).1)) :
      Acts t m ({ t with session := s, ended := rest }, [])
  /-- the power machine and the calls are left alone -/
  | passes (s : Session) (now : Nat) (hs : s.power = t.session.power)
      (hc : s.closed = false → t.session.closed = false) :
      Acts t m ({ t with session := s, now := now }, [])

theorem acts (t : Traffic) (m : Move) : Acts t m (t.act m) := by
  cases m with
  | operate op =>
    show Acts t _ (t.carry (t.session.perform op))
    rcases t.session.perform_cases op with ⟨a, rfl, ho, _, hp, he⟩ | ⟨a, rfl, ho, hi, hl, hp, he⟩ |
      ⟨hp, he⟩
    · have hb : (t.session.perform (.request a)).2.filterMap (Timeline.pending? t.now) =
          [⟨t.session.power.nextTicket, .kill, t.now⟩] := by
        rw [he]
        rfl
      rw [t.carry_eq hb]
      exact .kills _ _ ho rfl hp
    · have hb : (t.session.perform (.request a)).2.filterMap (Timeline.pending? t.now) =
          [⟨t.session.power.nextTicket, a, t.now⟩] := by
        rw [he]
        rfl
      rw [t.carry_eq hb]
      exact .launches _ _ ho rfl (Power.ne_kill_of_launchable hl) hi (by rw [hp]; rfl)
    · rw [t.carry_eq (filterMap_pending_queue he), List.append_nil]
      refine .passes _ t.now hp fun hc => ?_
      have h : (t.session.perform op).1.closed = _ := t.session.closed_feed (.operation op)
      rw [hc] at h
      exact (Bool.or_eq_false_iff.mp h.symm).1
  | answer c failure =>
    by_cases hc : c ∈ t.out
    · rw [act_answer hc]
      exact .ends c failure hc
    · rw [act_answer_of_notMem hc]
      exact .passes t.session t.now rfl id
  | take =>
    cases he : t.ended with
    | nil =>
      rw [act_take_nil he]
      exact .passes t.session t.now rfl id
    | cons d rest =>
      rw [act_take he]
      refine .takes _ d rest rfl he ?_
      by_cases hc : t.session.closed = true
      · exact .inl ⟨hc, by rw [Session.receive_of_closed hc]⟩
      · have ho : t.session.closed = false := eq_false_of_ne_true hc
        refine .inr ⟨ho, ?_⟩
        rw [Session.receive_power_of_open ho, Session.stepPower_eq]
        rfl
  | wait ms => exact .passes t.session (t.now + ms) rfl id

/-! ## what time does -/

/-- a call whose time is over stays unsettled until its completion is taken -/
theorem unsettled_expire (t : Traffic) : t.expire.unsettled.Perm t.unsettled := by
  have hb : ∀ l : List PendingCall,
      (l.map (·.completed (some t.timeline.timeoutText))).map Session.Completion.key
        = l.map PendingCall.key := by
    intro l
    rw [List.map_map]
    rfl
  have hp : ((t.out.filter fun c => !t.timeline.overdue c).map PendingCall.key ++
      (t.out.filter t.timeline.overdue).map PendingCall.key).Perm (t.out.map PendingCall.key) := by
    rw [← List.map_append]
    exact (List.perm_append_comm.trans (List.filter_append_perm _ _)).map _
  show ((t.out.filter fun c => !t.timeline.overdue c).map PendingCall.key ++
    (t.ended ++ (t.out.filter t.timeline.overdue).map _).map Session.Completion.key).Perm _
  rw [List.map_append, hb]
  refine (List.perm_append_comm.append_left _).trans ?_
  rw [← List.append_assoc]
  exact hp.append_right _

theorem unsettled_begin (t : Traffic) (s : Session) (begun : List PendingCall) :
    ({ t with session := s, out := t.out ++ begun } : Traffic).unsettled.Perm
      (begun.map PendingCall.key ++ t.unsettled) := by
  unfold unsettled
  rw [List.map_append, ← List.append_assoc]
  exact List.perm_append_comm.append_right _

/-- an answered call stays unsettled until its completion is taken -/
theorem unsettled_answer {t : Traffic} {c : PendingCall} (hc : c ∈ t.out) (f : Power.Outcome) :
    ({ t with out := t.out.erase c, ended := t.ended ++ [c.completed f] } : Traffic).unsettled.Perm
      t.unsettled := by
  show ((t.out.erase c).map PendingCall.key ++
    (t.ended ++ [c.completed f]).map Session.Completion.key).Perm _
  rw [List.map_append, ← List.append_assoc]
  refine (List.perm_append_singleton c.key _).trans ?_
  exact (((List.perm_cons_erase hc).map PendingCall.key).append_right _).symm

theorem overdue_eq_false {t : Traffic} {c : PendingCall} :
    t.timeline.overdue c = false ↔ t.now - c.since < t.patience := by
  show decide (t.patience ≤ t.now - c.since) = false ↔ _
  rw [decide_eq_false_iff_not, Nat.not_le]

/-- after each move every call out has time left -/
theorem overdue_step {t : Traffic} {m : Move} {c : PendingCall} (h : c ∈ (t.step m).1.out) :
    (t.step m).1.timeline.overdue c = false := by
  have h' : (!(t.act m).1.timeline.overdue c) = true := (List.mem_filter.mp h).2
  exact Bool.not_eq_true' _ |>.mp h'

theorem overdue_run (s : Session) (patience : Nat) (ms : List Move) :
    ∀ c ∈ ((new s patience).run ms).1.out, ((new s patience).run ms).1.timeline.overdue c = false :=
  run_of_step (P := fun t => ∀ c ∈ t.out, t.timeline.overdue c = false)
    (fun _ _ _ _ hc => overdue_step hc) (fun _ hc => by cases hc) ms

theorem out_expire (t : Traffic) : t.expire.out.Sublist t.out := List.filter_sublist

/-- no call comes to the calls out but those begun -/
theorem out_step (t : Traffic) (m : Move) : (t.step m).1.out.Sublist (t.out ++ (t.step m).2) := by
  refine (out_expire _).trans ?_
  show (t.act m).1.out.Sublist (t.out ++ (t.act m).2)
  have ha := t.acts m
  generalize t.act m = r at ha ⊢
  cases ha with
  | kills s c => exact List.Sublist.refl _
  | launches s c => exact List.Sublist.refl _
  | ends c f => exact List.erase_sublist.trans (List.sublist_append_left _ _)
  | takes s d rest => exact List.sublist_append_left _ _
  | passes s now => exact List.sublist_append_left _ _

end Traffic

end ServerConsole
