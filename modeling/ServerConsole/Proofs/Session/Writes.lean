import ServerConsole.Proofs.Session.Desk

/-!
# The status shown is the last one written

The record, the panel and the power calls that succeed all write the status. It is held in several
places, a confirmed status, a guess, a mark of suspension and a copy in the record; together they show
what was written last, unless the panel's last word is that the server is suspended.

* `Write`               one thing that is written;
* `lastWord?`           the panel's last word in a list of writes;
* `Opening.writes`, `Desk.writes`  what an opening and a list of steps write;
* `Reflects`            the places agree with the writes; every step keeps this;
* `last_write_shown`    what is shown after any steps.
-/

namespace ServerConsole

/-! ## definitions -/

inductive Write
  /-- the record that a session is opened with -/
  | record (server : Server)
  /-- the panel's word, asked for at the opening or told by a frame -/
  | confirmed (status : Status)
  /-- a power call has succeeded -/
  | assumed (status : Status)

namespace Write

def status : Write → Status
  | record server => server.status
  | confirmed status | assumed status => status

/-- what the panel says: a status, and whether the server is suspended -/
def word? : Write → Option (Status × Bool)
  | record server => some (server.status, server.suspendedFlag || server.status == .suspended)
  | confirmed status => some (status, status == .suspended)
  | assumed _ => none

def guess? : Write → Option Status
  | assumed status => some status
  | record _ | confirmed _ => none

end Write

/-- the panel's word in an event of the channel -/
def Link.Event.word? : Link.Event → Option Status
  | .frame (.status status) => some status
  | _ => none

def lastWord? (ws : List Write) : Option (Status × Bool) := (ws.filterMap Write.word?).getLast?

/-- the panel's last word is that the server is suspended -/
def suspendedBy (ws : List Write) : Bool := (lastWord? ws).any Prod.snd

namespace Session

def Opening.writes (o : Opening) : List Write :=
  .record o.server :: (o.report.map fun r => .confirmed r.status).toList

/-- the status that a completion sets: it is taken, and tells of a success -/
def assumed? (s : Session) (c : Completion) : Option Status :=
  if s.power.phase.takes c.ticket c.action ∧ c.failure = none then some (Power.attained c.action)
  else none

structure Reflects (s : Session) (ws : List Write) : Prop where
  word : lastWord? ws = some (s.view.confirmed, s.view.suspended)
  guess : s.view.guess = ws.getLast?.bind Write.guess?
  record : s.server.status = s.view.confirmed

end Session

/-- what a step writes; a closed session is written no more -/
def Desk.writes? (d : Desk) (x : Desk.Step) : Option Write :=
  if d.session.closed then none
  else match x with
    | .call (.handle (.link e)) => e.word?.map .confirmed
    | .call (.handle (.power c)) => (d.session.assumed? c).map .assumed
    | _ => none

def Desk.writes (d : Desk) (xs : List Desk.Step) : List Write :=
  d.collected (fun d x => (d.writes? x).toList) xs

/-! ## lists of writes -/

theorem lastWord?_of_word {ws : List Write} {w : Write} {p : Status × Bool} (h : w.word? = some p) :
    lastWord? (ws ++ [w]) = some p := by
  unfold lastWord?
  rw [List.filterMap_append, List.filterMap_cons_some h, List.filterMap_nil, List.getLast?_concat]

theorem lastWord?_of_guess {ws : List Write} {w : Write} (h : w.word? = none) :
    lastWord? (ws ++ [w]) = lastWord? ws := by
  unfold lastWord?
  rw [List.filterMap_append, List.filterMap_cons_none h, List.filterMap_nil, List.append_nil]

namespace Session

/-! ## what keeps the places in agreement -/

theorem Reflects.same {s t : Session} {ws : List Write} (h : s.Reflects ws) (hv : t.view = s.view)
    (hs : t.server = s.server) : t.Reflects ws where
  word := by rw [hv]; exact h.word
  guess := by rw [hv]; exact h.guess
  record := by rw [hv, hs]; exact h.record

theorem Reflects.assumed {s t : Session} {ws : List Write} (h : s.Reflects ws) {status : Status}
    (hv : t.view = (s.view.assume status).1) (hs : t.server = s.server) :
    t.Reflects (ws ++ [.assumed status]) where
  word := by rw [lastWord?_of_guess rfl, hv]; exact h.word
  guess := by rw [hv, List.getLast?_concat]; rfl
  record := by rw [hv, hs]; exact h.record

/-- the panel's word goes to all places at once, whatever they held -/
theorem reflects_confirm (s : Session) (status : Status) (ws : List Write) :
    (s.confirm status).Reflects (ws ++ [.confirmed status]) where
  word := lastWord?_of_word rfl
  guess := by rw [List.getLast?_concat]; rfl
  record := rfl

theorem reflects_opening (o : Opening) : o.session.Reflects o.writes := by
  have ha : o.assembled.Reflects [.record o.server] := ⟨rfl, rfl, rfl⟩
  unfold Opening.session Opening.writes
  cases o.report with
  | none => exact ha
  | some r =>
    have hc := reflects_confirm o.assembled r.status [.record o.server]
    show (o.assembled.seed r).Reflects _
    unfold seed
    cases r.sample with
    | none => exact hc
    | some sample =>
      dsimp only
      split
      · exact hc
      · exact hc.same rfl rfl

theorem reflects_handleLink {s : Session} {ws : List Write} (h : s.Reflects ws) (e : Link.Event) :
    (s.handleLink e).Reflects (ws ++ (e.word?.map Write.confirmed).toList) := by
  have hn : (ws ++ (none.map Write.confirmed).toList) = ws := List.append_nil ws
  cases e with
  | frame f =>
    cases f with
    | status status => exact reflects_confirm s status ws
    | console _ _ _ | stats _ | error _ => exact hn.symm ▸ h.same rfl rfl
  | opened again => cases again <;> exact hn.symm ▸ h.same rfl rfl
  | rejected _ | lost _ | gaveUp _ | reconnecting _ _ | closed => exact hn.symm ▸ h.same rfl rfl

theorem reflects_completed {s : Session} {ws : List Write} (h : s.Reflects ws) (c : Completion) :
    (s.stepPower (.completed c.ticket c.action c.failure)).1.Reflects
      (ws ++ ((s.assumed? c).map Write.assumed).toList) := by
  obtain ⟨_, hv, hs⟩ := s.completed_eq c
  unfold assumed?
  by_cases ht : s.power.phase.takes c.ticket c.action = true
  · rw [if_pos ht] at hv
    cases hf : c.failure with
    | none =>
      rw [if_pos ⟨ht, rfl⟩]
      rw [hf] at hv hs
      exact h.assumed hv hs
    | some reason =>
      rw [if_neg fun hn => by cases hn.2]
      rw [hf] at hv hs
      exact (List.append_nil ws).symm ▸ h.same hv hs
  · rw [if_neg ht] at hv
    rw [if_neg fun hn => ht hn.1]
    exact (List.append_nil ws).symm ▸ h.same hv hs

/-! ## what the places show -/

section
variable {s : Session} {ws : List Write} (h : s.Reflects ws)
include h

theorem Reflects.suspendedBy : suspendedBy ws = s.view.suspended := by
  unfold ServerConsole.suspendedBy
  rw [h.word]
  rfl

theorem Reflects.exists_last : ∃ w, ws.getLast? = some w := by
  cases ws with
  | nil => cases h.word
  | cons w ws => exact ⟨_, List.getLast?_cons⟩

/-- when the panel wrote last, its word is what is held, without a guess -/
theorem Reflects.of_word {w : Write} {p : Status × Bool} (hl : ws.getLast? = some w)
    (hp : w.word? = some p) : s.view = ⟨p.1, none, p.2⟩ := by
  obtain ⟨ws, rfl⟩ := List.getLast?_eq_some_iff.mp hl
  have hword := h.word
  have hguess := h.guess
  rw [lastWord?_of_word hp] at hword
  rw [hl] at hguess
  have hn : w.guess? = none := by
    cases w with
    | record _ | confirmed _ => rfl
    | assumed _ => cases hp
  have hg : s.view.guess = none := hguess.trans hn
  rw [Option.some.inj hword, ← hg]

theorem Reflects.status_of_not_suspended (hs : s.view.suspended = false) :
    ws.getLast?.map Write.status = some s.status := by
  obtain ⟨w, hl⟩ := h.exists_last
  have he : s.status = s.view.guess.getD s.view.confirmed := if_neg (ne_true_of_eq_false hs)
  rw [hl, he]
  cases w with
  | record server =>
    rw [h.of_word hl rfl]
    rfl
  | confirmed status =>
    rw [h.of_word hl rfl]
    rfl
  | assumed status =>
    rw [h.guess, hl]
    rfl

theorem Reflects.isOptimistic_iff : s.view.isOptimistic = true ↔
    (∃ status, ws.getLast? = some (.assumed status)) ∧ s.view.suspended = false := by
  obtain ⟨w, hl⟩ := h.exists_last
  unfold StatusView.isOptimistic
  rw [h.guess, hl]
  cases w <;> simp [Write.guess?]

theorem Reflects.of_confirmed {status : Status} (hl : ws.getLast? = some (.confirmed status)) :
    s.view.guess = none ∧ s.view.confirmed = status ∧ s.status = status := by
  have hv : s.view = .ofConfirmed status := h.of_word hl rfl
  refine ⟨by rw [hv]; rfl, by rw [hv]; rfl, ?_⟩
  show s.view.effective = status
  rw [hv]
  exact s.view.effective_confirm status

end

end Session

namespace Desk

theorem writes?_of_closed {d : Desk} (h : d.session.closed = true) (x : Step) : d.writes? x = none :=
  if_pos h

theorem reflects_call {d : Desk} {ws : List Write} (ho : d.session.closed = false)
    (h : d.session.Reflects ws) (c : Call) :
    (d.call c).1.session.Reflects (ws ++ (d.writes? (.call c)).toList) := by
  have hn : ws ++ (none : Option Write).toList = ws := List.append_nil ws
  unfold writes?
  rw [if_neg (ne_true_of_eq_false ho)]
  cases c with
  | submit typed =>
    obtain ⟨_, _, hs, _⟩ := d.session.submit_frame typed
    show (d.session.submit typed).session.Reflects _
    rw [hn, hs]
    exact h.same rfl rfl
  | request a =>
    show (d.session.request a).session.Reflects _
    rw [hn]
    by_cases hc : d.session.can (d.session.amounts a).permission = true
    · obtain ⟨_, _, hr⟩ := d.session.requested_frame a
      rw [Session.request_of_can ho hc, hr]
      exact h.same rfl rfl
    · rw [Session.request_of_cannot ho (eq_false_of_ne_true hc)]
      exact h.same rfl rfl
  | revisit direction =>
    rw [hn]
    exact h.same rfl rfl
  | next first =>
    obtain ⟨_, hs⟩ := d.next_frame first
    show (d.next first).1.session.Reflects _
    rw [hn, hs]
    exact h.same rfl rfl
  | handle e =>
    show (d.session.handle e).1.Reflects _
    cases e with
    | link e =>
      rw [Session.handle_link_of_open ho]
      exact Session.reflects_handleLink h e
    | power c =>
      rw [Session.handle_power_of_open ho]
      exact Session.reflects_completed h c
  | close =>
    show d.session.close.Reflects _
    unfold Session.close
    rw [hn, if_neg (ne_true_of_eq_false ho)]
    exact h.same rfl rfl

theorem reflects_step {d : Desk} {ws : List Write} (h : d.session.Reflects ws) (x : Step) :
    (d.step x).1.session.Reflects (ws ++ (d.writes? x).toList) := by
  by_cases hc : d.session.closed = true
  · obtain ⟨⟨_, _, _, hs⟩, _⟩ := step_of_closed hc x
    rw [writes?_of_closed hc, Option.toList_none, List.append_nil, hs]
    exact h.same rfl rfl
  · cases x with
    | call c => exact reflects_call (eq_false_of_ne_true hc) h c
    | finish c =>
      have hw : d.writes? (.finish c) = none := if_neg hc
      rw [hw, session_finish, Option.toList_none, List.append_nil]
      exact h
    | report _ | detach | relabel _ =>
      unfold writes?
      rw [if_neg hc, Option.toList_none, List.append_nil]
      exact h.same rfl rfl

theorem reflects_run (o : Session.Opening) (xs : List Step) :
    ((new o.session).run xs).session.Reflects (o.writes ++ (new o.session).writes xs) :=
  keeps_collected (R := fun d ws => d.session.Reflects ws) (fun _ x _ h => reflects_step h x)
    (Session.reflects_opening o) xs

/-- **The status shown is the last one written, but for a suspension.** The writes are those of the
opening and of any steps. When the panel's last word is that the server is suspended, that is shown,
whatever calls have succeeded since; else the last write is shown. The record holds the status the
panel has confirmed last. The status shown is a guess exactly when a call wrote last and the server is
not suspended, and a word of the panel always drops the guess. -/
theorem last_write_shown (o : Session.Opening) (xs : List Step) :
    let s := ((new o.session).run xs).session
    let ws := o.writes ++ (new o.session).writes xs
    (suspendedBy ws = true → s.status = .suspended) ∧
    (suspendedBy ws = false → ws.getLast?.map Write.status = some s.status) ∧
    (s.server.status = s.view.confirmed ∧ (lastWord? ws).map Prod.fst = some s.view.confirmed) ∧
    (s.view.isOptimistic = true ↔
      (∃ status, ws.getLast? = some (.assumed status)) ∧ suspendedBy ws = false) ∧
    ∀ status, ws.getLast? = some (.confirmed status) →
      s.view.guess = none ∧ s.view.confirmed = status ∧ s.status = status := by
  intro s ws
  have h : s.Reflects ws := reflects_run o xs
  have hw : suspendedBy ws = s.view.suspended := h.suspendedBy
  refine ⟨fun hs => ?_, fun hs => ?_, ⟨h.record, by rw [h.word]; rfl⟩, ?_, fun status hl => ?_⟩
  · exact if_pos (hw ▸ hs)
  · exact h.status_of_not_suspended (hw ▸ hs)
  · rw [hw]
    exact h.isOptimistic_iff
  · exact h.of_confirmed hl

/-- a kill of a suspended server does not show before the panel has lifted the suspension -/
theorem last_write_shown_kill :
    let o : Session.Opening := { Session.Opening.plain .stopped .everything with
      server := ⟨.nil, "", "", .stopped, true, 0, 0, 0⟩ }
    let killed : Step := .call (.handle (.power ⟨0, .kill, none⟩))
    let lifted : Step := .call (.handle (.link (.frame (.status .running))))
    let first := ((new o.session).run [killed]).session
    let last := ((new o.session).run [killed, lifted, killed]).session
    first.status = .suspended ∧ first.view.isOptimistic = false ∧
    last.status = .stopped ∧ last.view.isOptimistic = true ∧ last.server.status = .running := by
  intro o killed lifted first last
  obtain ⟨hs, _, _, hg, _⟩ := last_write_shown o [killed]
  obtain ⟨_, hl, ⟨hr, hw⟩, hi, _⟩ := last_write_shown o [killed, lifted, killed]
  refine ⟨hs rfl, ?_, ?_, hi.mpr ⟨⟨.stopped, rfl⟩, rfl⟩, ?_⟩
  · refine eq_false_of_ne_true fun h => ?_
    cases (hg.mp h).2
  · exact (Option.some.inj (hl rfl)).symm
  · exact hr.trans (Option.some.inj hw).symm

end Desk

end ServerConsole
