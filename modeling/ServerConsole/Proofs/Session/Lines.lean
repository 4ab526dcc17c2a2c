import ServerConsole.Proofs.Session.Console
import ServerConsole.Proofs.Session.Desk
import ServerConsole.Proofs.Text.Trim

/-!
# Every line of the log has one cause

* `commandLine?`, `requestLine?`, `completionLine?`  the line that a command, a request and a power
                          completion owe, told by the state they meet; `line?` that of any input;
* `Submitted`, `submitted`  everything a typed command can do; later proofs go by these cases;
* `log_feed`              an input puts its line into the log;
* `Desk.owes`, `Desk.owed`  the line a step owes, and those of a list of steps;
* `log_step`              a step puts into the log what it owes;
* `log_accounted`         the log after any steps.
-/

namespace ServerConsole

theorem Link.send_eq_ok_iff {l : Link} :
    l.send = .ok () ↔ l.state = .connected ∧ l.accepting = true := by
  unfold send
  by_cases hs : l.state = .connected
  · by_cases ha : l.accepting = true <;> simp [hs, ha]
  · simp [hs]

namespace Session

/-! ## definitions -/

def commandLine? (s : Session) (typed : String) : Option LogLine :=
  if Text.isBlankText typed then none
  else if s.can Grant.consoleWrite then
    if s.link.state = .connected ∧ s.link.accepting = true then
      some (.echo s.clock (Text.trim typed))
    else none
  else some (.system s.clock commandsRefused)

def requestLine? (s : Session) (action : PowerAction) : Option LogLine :=
  let amount := s.power.phase.amount action
  if s.can amount.permission then none else some (.system s.clock (actionRefused amount))

def completionLine? (s : Session) (c : Completion) : Option LogLine :=
  if s.power.phase.takes c.ticket c.action then c.failure.map (.error s.clock) else none

/-- the line that an input puts into the log of an open session -/
def line? (s : Session) : Input → Option LogLine
  | .operation (.submit typed) => s.commandLine? typed
  | .operation (.request action) => s.requestLine? action
  | .operation (.hear e) => if s.awaits (.link e) then e.line? s.clock else none
  | .completion c => s.completionLine? c
  | .operation (.revisit _) | .operation .detach | .operation (.relabel _) | .operation .close => none

/-- everything a typed command can do to an open session -/
inductive Submitted (s : Session) (typed : String) : Reply → Prop
  | blank (hb : Text.isBlankText typed = true) : Submitted s typed ⟨s, [], .ok ()⟩
  | refused (hb : Text.isBlankText typed = false) (hc : s.can Grant.consoleWrite = false) :
      Submitted s typed ⟨s.append (.system s.clock commandsRefused), [],
        .error (.permissionDenied Grant.consoleWrite)⟩
  /-- the channel is not up, or its task takes no commands -/
  | unsent (hb : Text.isBlankText typed = false) (hc : s.can Grant.consoleWrite = true)
      (failure : Failure) (hl : ¬ (s.link.state = .connected ∧ s.link.accepting = true)) :
      Submitted s typed ⟨s, [], .error failure⟩
  | sent (hb : Text.isBlankText typed = false) (hc : s.can Grant.consoleWrite = true)
      (hl : s.link.state = .connected ∧ s.link.accepting = true) :
      Submitted s typed
        ⟨{ s.append (.echo s.clock (Text.trim typed)) with
            history := s.history.push (Text.trim typed) },
          [.queue ⟨Text.trim typed⟩], .ok ()⟩

/-! ## commands -/

theorem ofInput?_eq (typed : String) : Command.ofInput? typed =
    if Text.isBlankText typed then none else some ⟨Text.trim typed⟩ := by
  rw [← Text.isEmpty_trim]
  rfl

theorem submitted {s : Session} (ho : s.closed = false) (typed : String) :
    Submitted s typed (s.submit typed) := by
  unfold submit
  rw [if_neg (by rw [ho]; exact Bool.false_ne_true), ofInput?_eq]
  by_cases hb : Text.isBlankText typed = true
  · rw [if_pos hb]
    exact .blank hb
  · have hb' : Text.isBlankText typed = false := eq_false_of_ne_true hb
    rw [if_neg hb]
    dsimp only
    by_cases hc : s.can Grant.consoleWrite = true
    · rw [if_pos hc]
      cases hl : s.link.send with
      | error failure =>
        refine .unsent hb' hc failure fun h => ?_
        rw [Link.send_eq_ok_iff.mpr h] at hl
        cases hl
      | ok _ => exact .sent hb' hc (Link.send_eq_ok_iff.mp hl)
    · rw [if_neg hc]
      exact .refused hb' (eq_false_of_ne_true hc)

theorem log_submit {s : Session} (ho : s.closed = false) (typed : String) :
    (s.submit typed).session.log = s.log.appendAll (s.commandLine? typed).toList := by
  have h := submitted ho typed
  generalize s.submit typed = r at h ⊢
  unfold commandLine?
  cases h with
  | blank hb => rw [if_pos hb]; rfl
  | refused hb hc => rw [if_neg (ne_true_of_eq_false hb), if_neg (ne_true_of_eq_false hc)]; rfl
  | unsent hb hc failure hl => rw [if_neg (ne_true_of_eq_false hb), if_pos hc, if_neg hl]; rfl
  | sent hb hc hl => rw [if_neg (ne_true_of_eq_false hb), if_pos hc, if_pos hl]; rfl

/-! ## power -/

theorem log_request {s : Session} (ho : s.closed = false) (a : PowerAction) :
    (s.request a).session.log = s.log.appendAll (s.requestLine? a).toList := by
  unfold requestLine?
  rw [← amounts_eq]
  by_cases hc : s.can (s.amounts a).permission = true
  · obtain ⟨_, _, h⟩ := s.requested_frame a
    rw [request_of_can ho hc, if_pos hc, h]
    rfl
  · rw [request_of_cannot ho (eq_false_of_ne_true hc), if_neg hc]
    rfl

theorem log_completed (s : Session) (c : Completion) :
    (s.stepPower (.completed c.ticket c.action c.failure)).1.log =
      s.log.appendAll (s.completionLine? c).toList := by
  rw [(s.completed_eq c).1]
  unfold completionLine?
  by_cases ht : s.power.phase.takes c.ticket c.action = true
  · rw [if_pos ht, if_pos ht]
    cases c.failure <;> rfl
  · rw [if_neg ht, if_neg ht]
    rfl

/-! ## inputs -/

theorem log_feed {s : Session} (ho : s.closed = false) {i : Input} (hi : i ≠ .operation .close) :
    (s.feed i).1.log = s.log.appendAll (s.line? i).toList := by
  cases i with
  | completion c =>
    show (s.receive (.power c)).1.log = _
    rw [receive_power_of_open ho]
    exact s.log_completed c
  | operation op =>
    cases op with
    | submit typed => exact log_submit ho typed
    | request a => exact log_request ho a
    | hear e =>
      show (s.receive (.link e)).1.log = s.log.appendAll (if s.awaits (.link e) then _ else none).toList
      by_cases ha : s.awaits (.link e) = true
      · rw [receive_link_of_awaits ha, if_pos ha]
        exact log_handleLink { s with link := s.link.observe e } e
      · have hr : s.receive (.link e) = (s, []) := if_neg ha
        rw [hr, if_neg ha]
        rfl
    | close => exact absurd rfl hi
    | revisit _ | detach | relabel _ => rfl

end Session

namespace Desk

/-! ## one step -/

/-- the line that a step owes; nothing is owed once the session is closed -/
def owes (d : Desk) (x : Step) : Option LogLine :=
  if d.session.closed then none
  else match x with
    | .call (.submit typed) => d.session.commandLine? typed
    | .call (.request action) => d.session.requestLine? action
    | .call (.handle (.link e)) => e.line? d.session.clock
    | .call (.handle (.power c)) => d.session.completionLine? c
    | .call (.revisit _) | .call (.next _) | .call .close => none
    | .report _ | .finish _ | .detach | .relabel _ => none

def owed (d : Desk) (xs : List Step) : List LogLine := d.collected (fun d x => (d.owes x).toList) xs

theorem owes_of_open {d : Desk} (h : d.session.closed = false) (x : Step) :
    d.owes x = match x with
      | .call (.submit typed) => d.session.commandLine? typed
      | .call (.request action) => d.session.requestLine? action
      | .call (.handle (.link e)) => e.line? d.session.clock
      | .call (.handle (.power c)) => d.session.completionLine? c
      | .call (.revisit _) | .call (.next _) | .call .close => none
      | .report _ | .finish _ | .detach | .relabel _ => none :=
  if_neg (ne_true_of_eq_false h)

/-- a step puts into the log of an open session what it owes -/
theorem log_step {d : Desk} (ho : d.session.closed = false) {x : Step} (hx : x ≠ .call .close) :
    (d.step x).1.session.log = d.session.log.appendAll (d.owes x).toList := by
  rw [owes_of_open ho]
  cases x with
  | call c =>
    cases c with
    | submit typed => exact Session.log_submit ho typed
    | request a => exact Session.log_request ho a
    | revisit direction => rfl
    | next first =>
      obtain ⟨link, h⟩ := d.next_frame first
      show (d.next first).1.session.log = d.session.log
      rw [h]
    | handle e =>
      show (d.session.handle e).1.log = _
      cases e with
      | link e =>
        rw [Session.handle_link_of_open ho]
        exact d.session.log_handleLink e
      | power c =>
        rw [Session.handle_power_of_open ho]
        exact d.session.log_completed c
    | close => exact absurd rfl hx
  | finish c =>
    rw [session_finish]
    rfl
  | report _ | detach | relabel _ => rfl

/-! ## many steps -/

theorem log_run {d : Desk} {xs : List Step} (ho : (d.run xs).session.closed = false) :
    (d.run xs).session.log = d.session.log.appendAll (d.owed xs) := by
  refine keeps_collected_of_open (R := fun s lines => s.log = d.session.log.appendAll lines)
    (l := []) (fun e x lines hoe hx hl => ?_) rfl xs ho
  rw [log_step hoe hx, hl, ← Log.appendAll_append]

theorem log_new (o : Session.Opening) : o.session.log = .withCapacity o.scrollback := by
  obtain ⟨_, _, _, h⟩ := o.session_frame
  rw [h]
  rfl

/-- **Every line of the log has one cause.** Whatever is done with an open session and whatever happens
around it, the log is the last lines of those that the steps owe, in order and as many as there is room
for, and the count is the number of all of them; each step owes one line at most. -/
theorem log_accounted (o : Session.Opening) (xs : List Step)
    (ho : ((new o.session).run xs).session.closed = false) :
    let d := (new o.session).run xs
    let lines := (new o.session).owed xs
    d.session.log.toList = lines.drop (lines.length - max o.scrollback 1) ∧
    d.session.log.appended = UInt64.ofNat lines.length ∧
    (lines.length < UInt64.size → d.session.log.appended.toNat = lines.length) ∧
    ∀ x, x ≠ .call .close →
      (d.step x).1.session.log = d.session.log.appendAll (d.owes x).toList := by
  intro d lines
  have hl : d.session.log = (Log.withCapacity o.scrollback).appendAll lines := by
    rw [← log_new o]
    exact log_run ho
  have hn : d.session.log.appended = UInt64.ofNat lines.length := by
    rw [hl, Log.appended_appendAll]
    exact UInt64.zero_add _
  refine ⟨?_, hn, fun h => ?_, fun x hx => log_step ho hx⟩
  · rw [hl]
    exact Log.toList_appendAll_new o.scrollback lines
  · rw [hn]
    exact UInt64.toNat_ofNat_of_lt' h

/-- five lines come in where two have room: the mark of a gap, an echo, a refusal, the panel's word, and
the failure of the stop that is awaited, but not that of another one -/
theorem log_accounted_five :
    let o : Session.Opening :=
      { Session.Opening.plain .running ⟨["console.write", "power.stop"]⟩ with scrollback := 2 }
    let xs : List Step := [.report (.opened true), .call (.next .channel),
      .call (.handle (.link (.opened true))), .call (.submit " list "), .call (.submit "  "),
      .call (.request .restart), .call (.handle (.link (.frame (.error "no")))),
      .call (.request .stop), .call (.handle (.power ⟨7, .stop, some "late"⟩)),
      .call (.handle (.power ⟨1, .stop, some "no node"⟩))]
    ((new o.session).run xs).session.closed = false ∧
    (new o.session).owed xs = [Session.gapLine, .echo "" "list",
      .system "" (Session.actionRefused .restart), .error "" "no", .error "" "no node"] ∧
    ((new o.session).run xs).session.log.toList = [.error "" "no", .error "" "no node"] := by
  intro o xs
  have ho : ((new o.session).run xs).session.closed = false := by
    rw [closed_run]
    rfl
  have hl : (new o.session).owed xs = [Session.gapLine, .echo "" "list",
      .system "" (Session.actionRefused .restart), .error "" "no", .error "" "no node"] := by
    decide +kernel
  have h := (log_accounted o xs ho).1
  rw [hl] at h
  exact ⟨ho, hl, h⟩

end Desk

end ServerConsole
