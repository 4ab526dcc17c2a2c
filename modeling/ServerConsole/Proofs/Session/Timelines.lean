import ServerConsole.Proofs.App.Run
import ServerConsole.Proofs.Session.Traffic

/-!
# An app in time is a session with its power calls

A timeline has the session take each completion as soon as there is one. What is proved of all runs
of `Traffic` therefore holds of every timeline.

* `Timeline.traffic`       the session of a timeline, its clock and its calls;
* `traffic_deliverAll`, `traffic_expire`  events delivered one after the other are completions taken;
* `Reached`                the timelines that a session can come to; what comes from the terminal is an
                           operation on the session (`App.terminal_perform`);
* `exists_run_of_reached`  each of them is the end of a run.
-/

namespace ServerConsole

/-- the one element found is the one erased -/
theorem filter_not_eq_erase {l : List PendingCall} {p : PendingCall → Bool} {c : PendingCall}
    (hf : l.find? p = some c) (hone : (l.filter p).length ≤ 1) :
    (l.filter fun x => !p x) = l.erase c := by
  induction l with
  | nil => cases hf
  | cons x l ih =>
    by_cases hx : p x = true
    · rw [List.find?_cons_of_pos hx] at hf
      rw [List.filter_cons_of_pos hx, List.length_cons] at hone
      have hnone : l.filter p = [] := List.eq_nil_of_length_eq_zero (by omega)
      have hall : (l.filter fun y => !p y) = l := by
        rw [List.filter_eq_self]
        intro y hy
        rw [List.filter_eq_nil_iff] at hnone
        simpa using hnone y hy
      rw [← Option.some.inj hf, List.erase_cons_head, List.filter_cons_of_neg (by simp [hx]), hall]
    · rw [List.find?_cons_of_neg hx] at hf
      rw [List.filter_cons_of_neg hx] at hone
      have hne : x ≠ c := by
        rintro rfl
        exact hx (List.find?_some hf)
      rw [List.erase_cons_tail (by simpa using hne), List.filter_cons_of_pos (by simpa using hx),
        ih hf hone]

namespace Timeline

/-! ## events -/

def traffic (t : Timeline) : Traffic := ⟨t.app.session, t.now, t.patience, t.calls, []⟩

theorem traffic_deliver (t : Timeline) (e : Session.Event) :
    (t.deliver e).1.traffic = (t.traffic.carry (t.app.session.receive e)).1 := by
  obtain ⟨hs, he⟩ := t.app.session_received e
  unfold deliver
  split
  · show (⟨(t.app.received e).1.session, t.now, t.patience,
      t.calls ++ (t.app.received e).2.filterMap (pending? t.now), []⟩ : Traffic) = _
    rw [hs, he]
    rfl
  · next h =>
    have hr : t.app.session.receive e = (t.app.session, []) := by simp [Session.receive, h]
    rw [hr]
    simp [Traffic.carry, traffic]

theorem traffic_deliver_power (t : Timeline) (d : Session.Completion) :
    (t.deliver (.power d)).1.traffic =
      { t.traffic with session := (t.app.session.receive (.power d)).1 } := by
  obtain ⟨_, _, _, _, h⟩ := t.app.session.complete_frame d
  have hn : (t.app.session.receive (.power d)).2.filterMap (pending? t.traffic.now) = [] := by
    rw [h]
    rfl
  rw [traffic_deliver, Traffic.carry_eq t.traffic hn, List.append_nil]

/-- nothing expires while every call has time left -/
theorem expire_eq_self {t : Traffic} (h : ∀ c ∈ t.out, t.timeline.overdue c = false) :
    t.expire = t := by
  have hout : (t.out.filter fun c => !t.timeline.overdue c) = t.out := by
    rw [List.filter_eq_self]
    intro c hc
    rw [h c hc]
    rfl
  have hlate : t.out.filter t.timeline.overdue = [] := by
    rw [List.filter_eq_nil_iff]
    intro c hc
    rw [h c hc]
    exact Bool.false_ne_true
  unfold Traffic.expire
  rw [hout, hlate, List.map_nil, List.append_nil]

theorem step_take {t : Timeline} (h : ∀ c ∈ t.calls, t.overdue c = false) (d : Session.Completion)
    (rest : List Session.Completion) :
    ({ t.traffic with ended := d :: rest }.step .take).1 =
      { (t.deliver (.power d)).1.traffic with ended := rest } := by
  show ({ t.traffic with ended := d :: rest }.act .take).1.expire = _
  rw [Traffic.act_take rfl, traffic_deliver_power]
  exact expire_eq_self h

theorem traffic_deliverAll {t : Timeline} (h : ∀ c ∈ t.calls, t.overdue c = false)
    (ds : List Session.Completion) :
    (t.deliverAll (ds.map .power)).1.traffic =
      ({ t.traffic with ended := ds }.run (List.replicate ds.length .take)).1 := by
  induction ds generalizing t with
  | nil => rfl
  | cons d ds ih =>
    have ht : (t.deliver (.power d)).1.traffic.out = t.calls ∧
        (t.deliver (.power d)).1.traffic.now = t.now ∧
        (t.deliver (.power d)).1.traffic.patience = t.patience := by
      rw [traffic_deliver_power]
      exact ⟨rfl, rfl, rfl⟩
    have h' : ∀ c ∈ (t.deliver (.power d)).1.calls, (t.deliver (.power d)).1.overdue c = false := by
      intro c hc
      have hc' : c ∈ (t.deliver (.power d)).1.traffic.out := hc
      rw [ht.1] at hc'
      show (decide ((t.deliver (.power d)).1.traffic.patience ≤
        (t.deliver (.power d)).1.traffic.now - c.since)) = false
      rw [ht.2.1, ht.2.2]
      exact h c hc'
    rw [List.length_cons, List.replicate_succ, Traffic.run_cons, step_take h, ← ih h']
    rfl

/-- the calls that are over are taken in the order of the timeline -/
theorem traffic_expire (t : Timeline) :
    t.expire.1.traffic =
      (t.traffic.expire.run (List.replicate t.traffic.expire.ended.length .take)).1 := by
  let kept : Timeline := { t with calls := t.calls.filter fun c => !t.overdue c }
  let late : List Session.Completion :=
    (t.calls.filter t.overdue).map (·.completed (some t.timeoutText))
  have hk : ∀ c ∈ kept.calls, kept.overdue c = false := by
    intro c hc
    have hc' : (!t.overdue c) = true := (List.mem_filter.mp hc).2
    exact Bool.not_eq_true' _ |>.mp hc'
  have he : t.expire.1 = (kept.deliverAll (late.map .power)).1 := by
    unfold expire
    rw [List.partition_eq_filter_filter]
    show (kept.deliverAll ((t.calls.filter t.overdue).map fun c => ended c _)).1 = _
    rw [List.map_map]
    rfl
  rw [he, traffic_deliverAll hk]
  rfl

/-! ## every timeline -/

/-- what a session comes to on a timeline; a ticket is finished when it names one call only -/
inductive Reached (s : Session) (patience : Nat) : Timeline → Prop
  | new : Reached s patience (.new s patience)
  | performed {t : Timeline} (h : Reached s patience t) (op : Session.Operation) (app : App)
      (effects : List Session.Effect) (ha : app.session = (t.app.session.perform op).1)
      (he : effects = (t.app.session.perform op).2) :
      Reached s patience (t.perform app effects).1
  | arrived {t : Timeline} (h : Reached s patience t) (event : Link.Event) :
      Reached s patience (t.arrive event).1
  | finished {t : Timeline} (h : Reached s patience t) {ticket : Power.Ticket}
      {failure : Option Failure} {r : Timeline × Happenings}
      (hone : (t.calls.filter (·.ticket == ticket)).length ≤ 1)
      (hr : t.finish? ticket failure = some r) : Reached s patience r.1
  | advanced {t : Timeline} (h : Reached s patience t) (ms : Nat) :
      Reached s patience (t.advance ms).1

/-- a move and what expires after it -/
theorem exists_run_expire {t : Traffic} {u : Timeline} {m : Move} (h : u.traffic = (t.act m).1) :
    ∃ ms, u.expire.1.traffic = (t.run ms).1 := by
  refine ⟨m :: List.replicate (t.step m).1.ended.length .take, ?_⟩
  rw [traffic_expire, h, Traffic.run_cons]
  rfl

theorem exists_run_finish {t : Timeline} (ht : ∀ c ∈ t.calls, t.overdue c = false)
    {ticket : Power.Ticket} {failure : Option Failure} {r : Timeline × Happenings}
    (hone : (t.calls.filter (·.ticket == ticket)).length ≤ 1)
    (hr : t.finish? ticket failure = some r) : ∃ ms, r.1.traffic = (t.traffic.run ms).1 := by
  unfold finish? at hr
  obtain ⟨c, hf, rfl⟩ := Option.map_eq_some_iff.mp hr
  let d := c.completed (failure.map Failure.reason)
  let left : Timeline := { t with calls := t.calls.erase c }
  have hc : c ∈ t.traffic.out := List.mem_of_find?_eq_some hf
  have hleft : ∀ x ∈ left.calls, left.overdue x = false := fun x hx =>
    ht x (List.mem_of_mem_erase hx)
  have herase : (t.calls.filter fun x => x.ticket != ticket) = t.calls.erase c :=
    filter_not_eq_erase hf hone
  have hans : (t.traffic.step (.answer c (failure.map Failure.reason))).1 =
      { left.traffic with ended := [d] } := by
    show (t.traffic.act (.answer c _)).1.expire = _
    rw [Traffic.act_answer hc]
    exact expire_eq_self hleft
  refine ⟨[.answer c (failure.map Failure.reason), .take], ?_⟩
  rw [Traffic.run_cons, hans, Traffic.run_cons, step_take hleft, herase]
  rfl

/-- **Every timeline is the end of a run.** -/
theorem exists_run_of_reached {s : Session} {patience : Nat} {t : Timeline}
    (h : Reached s patience t) : ∃ ms, t.traffic = ((Traffic.new s patience).run ms).1 := by
  -- a run of a run
  have extend : ∀ {u v : Traffic}, (∃ ms, u = ((Traffic.new s patience).run ms).1) →
      (∃ ms, v = (u.run ms).1) → ∃ ms, v = ((Traffic.new s patience).run ms).1 := by
    rintro u v ⟨a, rfl⟩ ⟨b, rfl⟩
    exact ⟨a ++ b, by rw [Traffic.run_append]⟩
  induction h with
  | new => exact ⟨[], rfl⟩
  | @performed t _ op app effects ha he ih =>
    refine extend ih (exists_run_expire (m := .operate op) ?_)
    show (⟨app.session, t.now, t.patience, t.calls ++ effects.filterMap (pending? t.now), []⟩ :
      Traffic) = _
    rw [ha, he]
    rfl
  | @arrived t _ event ih =>
    exact extend ih (exists_run_expire (m := .operate (.hear event)) (t.traffic_deliver _))
  | @finished t _ ticket failure r hone hr ih =>
    have ht : ∀ c ∈ t.calls, t.overdue c = false := by
      obtain ⟨ms, hms⟩ := ih
      have ho := Traffic.overdue_run s patience ms
      rw [← hms] at ho
      exact ho
    exact extend ih (exists_run_finish ht hone hr)
  | @advanced t _ ms ih => exact extend ih (exists_run_expire (m := .wait ms) rfl)

end Timeline

end ServerConsole
