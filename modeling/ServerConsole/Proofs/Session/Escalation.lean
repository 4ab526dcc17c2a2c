import ServerConsole.Proofs.Session.Accounts
import ServerConsole.Proofs.Session.Telemetry

/-!
# The end of an escalation

A stop and the kills on top of it end on tasks of their own, in any order. Different orders lead
through different phases; they all come to the same end, as long as the session is open.

* `receive_halts`, `receive_unheeded`  a completion of a stop or kill tells that the server has
                      stopped, or leaves what is shown alone;
* `Down`              the server is shown as stopped, and the telemetry is cleared;
* `Ending`            what is left to complete of an escalation, in the order in which it will; a stop
                      among it is awaited, or the server is down already;
* `Ending.next`       what one completion does to this;
* `Ending.run`        where all of them lead;
* `ends_in_any_order`  the end of an escalation, in every run of a session with its calls;
* `escalated_after_close`  a closed session drops the completions, and its phase stays.
-/

namespace ServerConsole

namespace Session

/-! ## completions of stops and kills -/

theorem foldl_measured_told (t : Telemetry) (a : PowerAction) (f : Power.Outcome) :
    (Power.Machine.told a f).foldl measured t =
      f.elim (if Power.attained a = .stopped then t.reset else t) fun _ => t := by
  cases f with
  | none => cases a <;> rfl
  | some reason => rfl

theorem halts_iff {s : Session} {c : Completion} :
    s.Halts c ↔ c.failure = none ∧ s.power.phase.takes c.ticket c.action = true ∧
      Power.attained c.action = .stopped := by
  unfold Halts
  rw [Power.Phase.takes_iff]
  refine and_congr_right fun _ => ?_
  cases h : c.action <;> simp [Power.attained]

section
variable {s : Session} {c : Completion} (ho : s.closed = false)
include ho

theorem closed_received : (s.receive (.power c)).1.closed = false := by
  have h : (s.receive (.power c)).1.closed = _ := s.closed_feed (.completion c)
  rw [h, ho]
  rfl

theorem power_received :
    (s.receive (.power c)).1.power = (s.power.complete c.ticket c.action c.failure).1 := by
  rw [receive_power_of_open ho, stepPower_eq]
  rfl

/-- what a completion leaves in the view and in the telemetry -/
theorem shown_received :
    (s.receive (.power c)).1.view = (if s.power.phase.takes c.ticket c.action then
      c.failure.elim (s.view.assume (Power.attained c.action)).1 fun _ => s.view else s.view) ∧
    (s.receive (.power c)).1.telemetry = (if s.power.phase.takes c.ticket c.action then
      c.failure.elim (if Power.attained c.action = .stopped then s.telemetry.reset else s.telemetry)
        fun _ => s.telemetry else s.telemetry) := by
  rw [receive_power_of_open ho]
  refine ⟨(s.completed_eq c).2.1, ?_⟩
  have he : (s.power.step (.completed c.ticket c.action c.failure) s.status).2 = _ :=
    s.power.effects_complete c.ticket c.action c.failure
  rw [stepPower_eq, he]
  by_cases ht : s.power.phase.takes c.ticket c.action = true
  · simp only [if_pos ht, foldl_measured_told]
  · simp only [if_neg ht, List.foldl_nil]

theorem receive_halts (h : s.Halts c) :
    (s.receive (.power c)).1.view = (s.view.assume .stopped).1 ∧
    (s.receive (.power c)).1.telemetry = s.telemetry.reset := by
  obtain ⟨hf, ht, ha⟩ := halts_iff.mp h
  obtain ⟨hv, hm⟩ := shown_received (c := c) ho
  rw [hv, hm, if_pos ht, if_pos ht, if_pos ha, hf, ha]
  exact ⟨rfl, rfl⟩

theorem receive_unheeded (ha : Power.attained c.action = .stopped) (h : ¬ s.Halts c) :
    (s.receive (.power c)).1.view = s.view ∧ (s.receive (.power c)).1.telemetry = s.telemetry := by
  obtain ⟨hv, hm⟩ := shown_received (c := c) ho
  rw [hv, hm]
  cases hf : c.failure with
  | some reason => exact ⟨ite_self _, ite_self _⟩
  | none =>
    have ht : ¬ s.power.phase.takes c.ticket c.action = true := fun ht =>
      h (halts_iff.mpr ⟨hf, ht, ha⟩)
    rw [if_neg ht, if_neg ht]
    exact ⟨rfl, rfl⟩

end

/-! ## what is left of an escalation -/

/-- the server is known to have stopped -/
def Down (s : Session) : Prop := s.status = .stopped ∧ s.telemetry.Cleared

/-- the completions that a stop and the kills on top of it still lack, in the order in which they come -/
structure Ending (s : Session) (stop : Power.Ticket) (ds : List Completion) : Prop where
  opened : s.closed = false
  live : s.view.suspended = false
  kinds : ∀ d ∈ ds, d.action = .kill ∨ d.key = (stop, .stop)
  once : (ds.map Completion.key).count (stop, .stop) ≤ 1
  /-- what the phase names is among the completions to come -/
  named : ∀ k ∈ s.power.phase.calls, k ∈ ds.map Completion.key
  /-- the phase may leave the stop behind only when a kill has succeeded -/
  heeded : (stop, .stop) ∈ ds.map Completion.key →
    s.power.phase.awaited? = some (stop, .stop) ∨ s.Down

section
variable {s : Session} {stop : Power.Ticket} {d : Completion} {ds : List Completion}

theorem Ending.attained (h : Ending s stop (d :: ds)) : Power.attained d.action = .stopped := by
  rcases h.kinds d List.mem_cons_self with hk | hk
  · rw [hk]
    rfl
  · have ha : d.action = .stop := congrArg Prod.snd hk
    rw [ha]
    rfl

/-- a success is heeded, or comes when the server is down already -/
theorem Ending.halts_or_down (h : Ending s stop (d :: ds)) (hf : d.failure = none) :
    s.Halts d ∨ s.Down := by
  rcases h.kinds d List.mem_cons_self with hk | hk
  · exact .inl ⟨hf, .inl hk⟩
  · rcases h.heeded (List.mem_cons.mpr (.inl hk.symm)) with hw | hd
    · have ht : s.power.phase.awaited? = some (d.ticket, d.action) := hw.trans (congrArg some hk.symm)
      exact .inl (halts_iff.mpr ⟨hf, Power.Phase.takes_iff.mpr (.inr ht), h.attained⟩)
    · exact .inr hd

/-- one completion: the server is down after a success and stays so, and a failure shows nothing -/
theorem Ending.shown (h : Ending s stop (d :: ds)) :
    (s.receive (.power d)).1.view.suspended = false ∧
    ((s.Down ∨ d.failure = none) → (s.receive (.power d)).1.Down) ∧
    (d.failure ≠ none → (s.receive (.power d)).1.status = s.status ∧
      (s.receive (.power d)).1.telemetry = s.telemetry) := by
  by_cases hh : s.Halts d
  · obtain ⟨hv, hm⟩ := receive_halts h.opened hh
    refine ⟨by rw [hv]; exact h.live, fun _ => ⟨?_, ?_⟩, fun hf => absurd hh.1 hf⟩
    · show (s.receive (.power d)).1.view.effective = .stopped
      rw [hv, StatusView.effective_assume, h.live]
      rfl
    · rw [hm]
      exact Telemetry.cleared_reset _
  · obtain ⟨hv, hm⟩ := receive_unheeded h.opened h.attained hh
    have hs : (s.receive (.power d)).1.status = s.status := congrArg StatusView.effective hv
    refine ⟨by rw [hv]; exact h.live, fun hd => ?_, fun _ => ⟨hs, hm⟩⟩
    have hdown : s.Down := hd.elim id fun hf => (h.halts_or_down hf).resolve_left hh
    exact ⟨hs.trans hdown.1, by rw [hm]; exact hdown.2⟩

/-- a stop that is still to come is awaited as before, or the server is down by now -/
theorem Ending.heeded_next (h : Ending s stop (d :: ds)) (hm : (stop, .stop) ∈ ds.map Completion.key) :
    (s.receive (.power d)).1.power.phase.awaited? = some (stop, .stop) ∨
      (s.receive (.power d)).1.Down := by
  have hk : d.action = .kill := by
    refine (h.kinds d List.mem_cons_self).resolve_right fun hk => ?_
    have hc := h.once
    rw [List.map_cons, hk, List.count_cons_self] at hc
    have hpos := List.count_pos_iff.mpr hm
    omega
  rcases h.heeded (List.mem_cons_of_mem _ hm) with hw | hd
  · by_cases hl : (s.receive (.power d)).1.power.phase.awaited? = some (stop, .stop)
    · exact .inl hl
    · -- only a success takes the stop away
      rw [power_received h.opened, hk] at hl
      obtain ⟨_, _, _, hf⟩ := Power.Machine.awaited?_lost hw hl
      exact .inr (h.shown.2.1 (.inr hf))
  · exact .inr (h.shown.2.1 (.inl hd))

theorem Ending.next (h : Ending s stop (d :: ds)) : Ending (s.receive (.power d)).1 stop ds where
  opened := closed_received h.opened
  live := h.shown.1
  kinds := fun c hc => h.kinds c (List.mem_cons_of_mem _ hc)
  once := Nat.le_trans List.count_le_count_cons h.once
  named := fun k hk => by
    rw [power_received h.opened] at hk
    obtain ⟨hb, hne⟩ := Power.Machine.calls_complete hk
    exact (List.mem_cons.mp (h.named k hb)).resolve_left hne
  heeded := h.heeded_next

end

/-- where the completions lead, whatever their order -/
theorem Ending.run {s : Session} {stop : Power.Ticket} {ds : List Completion} (h : Ending s stop ds) :
    (s.run (ds.map .completion)).1.power.phase = .idle ∧
    ((s.Down ∨ ∃ d ∈ ds, d.failure = none) → (s.run (ds.map .completion)).1.Down) ∧
    ((∀ d ∈ ds, d.failure ≠ none) → (s.run (ds.map .completion)).1.status = s.status ∧
      (s.run (ds.map .completion)).1.telemetry = s.telemetry) := by
  induction ds generalizing s with
  | nil =>
    refine ⟨Power.Phase.calls_eq_nil.mp (List.eq_nil_iff_forall_not_mem.mpr fun k hk => ?_),
      fun hd => hd.elim id fun ⟨_, hd, _⟩ => (by cases hd), fun _ => ⟨rfl, rfl⟩⟩
    cases h.named k hk
  | cons d ds ih =>
    obtain ⟨_, hdown, hsame⟩ := h.shown
    obtain ⟨hidle, hrest, hstays⟩ := ih h.next
    rw [List.map_cons, run_cons]
    refine ⟨hidle, fun hd => hrest ?_, fun hf => ?_⟩
    · rcases hd with hd | ⟨c, hc, hf⟩
      · exact .inl (hdown (.inl hd))
      · rcases List.mem_cons.mp hc with rfl | hc
        · exact .inl (hdown (.inr hf))
        · exact .inr ⟨c, hc, hf⟩
    · obtain ⟨hs, hm⟩ := hstays fun c hc => hf c (List.mem_cons_of_mem _ hc)
      obtain ⟨hs1, hm1⟩ := hsame (hf d List.mem_cons_self)
      exact ⟨hs.trans hs1, hm.trans hm1⟩

end Session

namespace Traffic

/-! ## every run -/

/-- the kills begun whose completion has not been taken -/
def kills (t : Traffic) : List (Power.Ticket × PowerAction) :=
  t.unsettled.filter fun k => k.2 = .kill

/-- what an escalation awaits is unsettled, so the completions left make an ending -/
theorem ending_of_escalated {t : Traffic} (h : Accounted t) (ho : t.session.closed = false)
    (hv : t.session.view.suspended = false) {stop kill : Power.Ticket}
    (hp : t.session.power.phase = .escalated stop kill) {ds : List Session.Completion}
    (hds : (ds.map Session.Completion.key).Perm ((stop, .stop) :: t.kills)) :
    Session.Ending t.session stop ds where
  opened := ho
  live := hv
  kinds := fun d hd => by
    rcases List.mem_cons.mp (hds.mem_iff.mp (List.mem_map_of_mem hd)) with hk | hk
    · exact .inr hk
    · exact .inl (of_decide_eq_true (List.mem_filter.mp hk).2)
  once := by
    have hn : (stop, PowerAction.stop) ∉ t.kills := fun hk => by
      cases of_decide_eq_true (List.mem_filter.mp hk).2
    have hc : (ds.map Session.Completion.key).count (stop, PowerAction.stop) = 1 := by
      rw [hds.count_eq, List.count_cons_self, List.count_eq_zero.mpr hn]
    exact Nat.le_of_eq hc
  named := fun k hk => by
    have hu := h.named ho k hk
    rw [hds.mem_iff]
    rw [hp] at hk
    rcases List.mem_cons.mp hk with rfl | hk
    · exact List.mem_cons_self
    · rw [List.mem_singleton.mp hk] at hu ⊢
      exact List.mem_cons_of_mem _ (List.mem_filter.mpr ⟨hu, decide_eq_true rfl⟩)
  heeded := fun _ => .inl (by rw [hp]; rfl)

/-- **An escalation ends the same way in any order.** In every run of a session with its calls, when
the phase is an escalation, the session is open and the server not suspended: the stop is unsettled and
so is the kill that the phase names. Whatever the outcomes of the stop and of all kills that are
unsettled, and in whatever order they come, the machine is idle at the end. If one of them succeeds, the
server is shown as stopped and the telemetry is cleared, else both are as they were. -/
theorem ends_in_any_order (o : Session.Opening) (patience : Nat) (ms : List Move)
    (stop kill : Power.Ticket) :
    let t := ((new o.session patience).run ms).1
    t.session.closed = false → t.session.view.suspended = false →
    t.session.power.phase = .escalated stop kill →
    ((stop, .stop) ∈ t.unsettled ∧ (kill, .kill) ∈ t.kills) ∧
    ∀ ds : List Session.Completion,
      (ds.map Session.Completion.key).Perm ((stop, .stop) :: t.kills) →
      let after := (t.session.run (ds.map .completion)).1
      after.power.phase = .idle ∧
      ((∃ d ∈ ds, d.failure = none) → after.status = .stopped ∧ after.telemetry.Cleared) ∧
      ((∀ d ∈ ds, d.failure ≠ none) →
        after.status = t.session.status ∧ after.telemetry = t.session.telemetry) := by
  intro t ho hv hp
  have hacc : Accounted t := accounted_run o patience ms
  have hcalls : t.session.power.phase.calls = [(stop, .stop), (kill, .kill)] := by rw [hp]; rfl
  refine ⟨⟨?_, ?_⟩, fun ds hds => ?_⟩
  · exact hacc.named ho _ (by rw [hcalls]; exact List.mem_cons_self)
  · have hu := hacc.named ho (kill, .kill)
      (by rw [hcalls]; exact List.mem_cons_of_mem _ List.mem_cons_self)
    exact List.mem_filter.mpr ⟨hu, decide_eq_true rfl⟩
  · obtain ⟨hidle, hdown, hsame⟩ := (ending_of_escalated hacc ho hv hp hds).run
    exact ⟨hidle, fun hs => hdown (.inr hs), hsame⟩

/-- a stop, a kill on top of it, a kill more: the first kill succeeds, though it is not the one the
phase names, the other kill and the stop fail -/
theorem ends_in_any_order_older_kill :
    let t := ((new (Session.Opening.plain .running .everything).session 30000).run
      [.operate (.request .stop), .operate (.request .stop), .operate (.request .kill)]).1
    let ds : List Session.Completion := [⟨3, .kill, some "no"⟩, ⟨2, .kill, none⟩, ⟨1, .stop, some "no"⟩]
    t.session.closed = false ∧ t.session.view.suspended = false ∧
    t.session.power.phase = .escalated 1 3 ∧
    (ds.map Session.Completion.key).Perm ((1, .stop) :: t.kills) ∧
    (t.session.run (ds.map .completion)).1.power.phase = .idle ∧
    (t.session.run (ds.map .completion)).1.status = .stopped ∧
    (t.session.run (ds.map .completion)).1.telemetry.Cleared := by
  intro t ds
  have hds : (ds.map Session.Completion.key).Perm ((1, .stop) :: t.kills) := by decide
  obtain ⟨_, h⟩ := ends_in_any_order (.plain .running .everything) 30000
    [.operate (.request .stop), .operate (.request .stop), .operate (.request .kill)] 1 3 rfl rfl rfl
  obtain ⟨hidle, hdown, _⟩ := h ds hds
  exact ⟨rfl, rfl, rfl, hds, hidle, hdown ⟨_, List.mem_cons_of_mem _ List.mem_cons_self, rfl⟩⟩

/-- the session is closed while the stop and the kill are out: it drops both completions, so the phase
is an escalation for good, and the status stays -/
theorem escalated_after_close :
    let t := ((new (Session.Opening.plain .running .everything).session 30000).run
      [.operate (.request .stop), .operate (.request .stop), .operate .close]).1
    let ds : List Session.Completion := [⟨1, .stop, none⟩, ⟨2, .kill, none⟩]
    t.session.closed = true ∧ t.session.power.phase = .escalated 1 2 ∧
    t.session.view.suspended = false ∧
    (ds.map Session.Completion.key).Perm ((1, .stop) :: t.kills) ∧ (∃ d ∈ ds, d.failure = none) ∧
    (t.session.run (ds.map .completion)).1.power.phase = .escalated 1 2 ∧
    (t.session.run (ds.map .completion)).1.status = .running := by
  decide

end Traffic

end ServerConsole
