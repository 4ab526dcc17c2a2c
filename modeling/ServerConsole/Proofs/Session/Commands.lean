import ServerConsole.Proofs.Session.History
import ServerConsole.Proofs.Session.Lines
import ServerConsole.Timeline

/-!
# Commands, echoes and history

A command that is accepted goes to three places, the queue of the channel, the log and the history,
one after the other. No other way leads to any of them.

* `Log.gained`          the line that came in between two states of a log, told by the two alone;
* `Session.accepted?`   what a typed command amounts to when it is accepted;
* `Desk.written`, `Desk.accepted`  the lines and the commands of a list of steps;
* `Takes`, `Aside`, `takes_or_aside`  a step puts a command into all three places, or into none;
* `commands_in_step`    the three places after any steps.
-/

namespace ServerConsole

/-! ## definitions -/

/-- the line that came in between two states of a log: the last one, when the count has moved -/
def Log.gained (before after : Log) : List LogLine :=
  if after.appended = before.appended then [] else after.last?.toList

/-- a call that succeeds takes what was typed, without the blanks around it; of blanks alone nothing
is taken -/
def Session.accepted? (s : Session) (typed : String) : Option String :=
  if (s.submit typed).result.isOk ∧ ¬ Text.isBlankText typed = true then some (Text.trim typed)
  else none

namespace Desk

/-- the line that a step puts into the log -/
def gains (d : Desk) (x : Step) : List LogLine :=
  Log.gained d.session.log (d.step x).1.session.log

/-- all lines that a list of steps puts into the log -/
def written (d : Desk) (xs : List Step) : List LogLine := d.collected gains xs

def accepts? (d : Desk) : Step → Option String
  | .call (.submit typed) => d.session.accepted? typed
  | _ => none

/-- the commands that are accepted, in order -/
def accepted (d : Desk) (xs : List Step) : List String :=
  d.collected (fun d x => (d.accepts? x).toList) xs

end Desk

/-! ## the log -/

theorem Log.gained_self (log : Log) : log.gained log = [] := if_pos rfl

theorem Log.gained_append (log : Log) (l : LogLine) : log.gained (log.append l) = [l] := by
  have hn : ¬ (log.append l).appended = log.appended := by
    rw [appended_append, UInt64.add_eq_left]
    exact nofun
  have hl : (log.append l).last? = some l := Array.back?_push
  unfold gained
  rw [if_neg hn, hl]
  rfl

theorem Log.gained_appendAll (log : Log) (l : Option LogLine) :
    log.gained (log.appendAll l.toList) = l.toList := by
  cases l with
  | none => exact log.gained_self
  | some l => exact log.gained_append l

theorem Log.gained_clear (log : Log) : log.gained log.clear = [] := by
  unfold gained
  split <;> rfl

/-! ## what makes no echo -/

theorem Link.Event.origin_line? {e : Link.Event} {time : String} {l : LogLine}
    (h : e.line? time = some l) : l.origin ≠ .echo := by
  cases e with
  | opened again =>
    cases again with
    | true =>
      rw [← Option.some.inj h]
      exact nofun
    | false => cases h
  | frame f =>
    cases f with
    | console line color daemon =>
      rw [← Option.some.inj h]
      cases daemon <;> exact nofun
    | error message =>
      rw [← Option.some.inj h]
      exact nofun
    | stats _ | status _ => cases h
  | rejected _ | lost _ | reconnecting _ _ | gaveUp _ | closed => cases h

namespace Session

theorem origin_requestLine? {s : Session} {a : PowerAction} {l : LogLine}
    (h : s.requestLine? a = some l) : l.origin ≠ .echo := by
  unfold requestLine? at h
  dsimp only at h
  split at h
  · cases h
  · rw [← Option.some.inj h]
    exact nofun

theorem origin_completionLine? {s : Session} {c : Completion} {l : LogLine}
    (h : s.completionLine? c = some l) : l.origin ≠ .echo := by
  unfold completionLine? at h
  split at h
  · obtain ⟨reason, _, rfl⟩ := Option.map_eq_some_iff.mp h
    exact nofun
  · cases h

/-! ## what queues nothing -/

theorem queue_notMem_request (s : Session) (a : PowerAction) (c : Command) :
    Effect.queue c ∉ (s.request a).effects := by
  rcases s.request_cases a with ⟨_, _, _, h⟩ | ⟨_, _, _, _, h⟩ | ⟨_, h⟩ <;> rw [h] <;> simp

theorem effects_handle (s : Session) (e : Event) : (s.handle e).2 = [] := by
  by_cases hc : s.closed = true
  · rw [handle_of_closed hc]
  · have ho : s.closed = false := eq_false_of_ne_true hc
    cases e with
    | link e => rw [handle_link_of_open ho]
    | power c =>
      rw [handle_power_of_open ho]
      exact s.calls_completed c.ticket c.action c.failure

theorem history_handle (s : Session) (e : Event) : (s.handle e).1.history = s.history := by
  by_cases hc : s.closed = true
  · rw [handle_of_closed hc]
  · have ho : s.closed = false := eq_false_of_ne_true hc
    cases e with
    | link e =>
      obtain ⟨_, _, _, _, h⟩ := s.handleLink_frame e
      rw [handle_link_of_open ho, h]
    | power c =>
      obtain ⟨_, _, _, h⟩ := s.stepPower_frame (.completed c.ticket c.action c.failure)
      rw [handle_power_of_open ho, h]

end Session

namespace Desk

/-! ## one step -/

/-- the step leaves the queue, the echoes and the history alone -/
structure Aside (d : Desk) (x : Step) : Prop where
  accepts : d.accepts? x = none
  queue : ∀ c, Session.Effect.queue c ∉ (d.step x).2
  echo : ∀ l, d.owes x = some l → l.origin ≠ .echo
  history : x ≠ .call .close →
    ∃ cursor, (d.step x).1.session.history = { d.session.history with cursor := cursor }

/-- the step puts a command into the queue, the log and the history -/
structure Takes (d : Desk) (x : Step) (c : String) : Prop where
  accepts : d.accepts? x = some c
  trimmed : Text.Trimmed c ∧ c ≠ ""
  connected : d.session.link.state = .connected
  queue : (d.step x).2 = [.queue ⟨c⟩]
  echo : d.owes x = some (.echo d.session.clock c)
  history : (d.step x).1.session.history = d.session.history.push c

/-- a step that owes no line and has no effects -/
theorem Aside.of_quiet {d : Desk} {x : Step} (ha : d.accepts? x = none) (he : (d.step x).2 = [])
    (hw : d.owes x = none)
    (hh : x ≠ .call .close →
      ∃ cursor, (d.step x).1.session.history = { d.session.history with cursor := cursor }) :
    d.Aside x where
  accepts := ha
  queue := by
    rw [he]
    exact fun _ => List.not_mem_nil
  echo := by
    rw [hw]
    exact nofun
  history := hh

theorem accepted?_of_closed {s : Session} (h : s.closed = true) (typed : String) :
    s.accepted? typed = none := by
  unfold Session.accepted?
  rw [Session.submit_of_closed h]
  exact if_neg fun hc => by cases hc.1

theorem aside_of_closed {d : Desk} (h : d.session.closed = true) (x : Step) : d.Aside x := by
  obtain ⟨⟨cursor, _, _, hs⟩, he⟩ := step_of_closed h x
  have ha : d.accepts? x = none := by
    cases x with
    | call c =>
      cases c with
      | submit typed => exact accepted?_of_closed h typed
      | request _ | revisit _ | next _ | handle _ | close => rfl
    | report _ | finish _ | detach | relabel _ => rfl
  refine .of_quiet ha he (if_pos h) fun _ => ⟨cursor, ?_⟩
  rw [hs]

theorem takes_or_aside_submit {d : Desk} (ho : d.session.closed = false) (typed : String) :
    (∃ c, d.Takes (.call (.submit typed)) c) ∨ d.Aside (.call (.submit typed)) := by
  have hw : d.owes (.call (.submit typed)) = d.session.commandLine? typed := owes_of_open ho _
  have ha : d.accepts? (.call (.submit typed)) = d.session.accepted? typed := rfl
  have hs : d.step (.call (.submit typed)) =
    d.carry ((d.session.submit typed).session, (d.session.submit typed).effects) := rfl
  have h := Session.submitted ho typed
  unfold Session.accepted? at ha
  unfold Session.commandLine? at hw
  generalize d.session.submit typed = r at h hs ha
  cases h with
  | blank hb =>
    rw [if_pos hb] at hw
    rw [if_neg fun h => h.2 hb] at ha
    refine .inr (.of_quiet ha (by rw [hs]; rfl) hw fun _ => ⟨d.session.history.cursor, ?_⟩)
    rw [hs]
    rfl
  | refused hb hc =>
    rw [if_neg (ne_true_of_eq_false hb), if_neg (ne_true_of_eq_false hc)] at hw
    rw [if_neg fun h => by cases h.1] at ha
    refine .inr ⟨ha, fun c hq => ?_, fun l hl => ?_, fun _ => ⟨d.session.history.cursor, ?_⟩⟩
    · rw [hs] at hq
      cases hq
    · rw [hw] at hl
      rw [← Option.some.inj hl]
      exact nofun
    · rw [hs]
      rfl
  | unsent hb hc failure hl =>
    rw [if_neg (ne_true_of_eq_false hb), if_pos hc, if_neg hl] at hw
    rw [if_neg fun h => by cases h.1] at ha
    refine .inr (.of_quiet ha (by rw [hs]; rfl) hw fun _ => ⟨d.session.history.cursor, ?_⟩)
    rw [hs]
    rfl
  | sent hb hc hl =>
    rw [if_neg (ne_true_of_eq_false hb), if_pos hc, if_pos hl] at hw
    rw [if_pos ⟨rfl, ne_true_of_eq_false hb⟩] at ha
    refine .inl ⟨Text.trim typed, ha, ⟨Text.trimmed_trim typed, fun he => ?_⟩, hl.1,
      by rw [hs]; rfl, hw, by rw [hs]; rfl⟩
    rw [Text.trim_eq_empty_iff, hb] at he
    cases he

/-- a step takes a command to all three places, or to none of them -/
theorem takes_or_aside (d : Desk) (x : Step) : (∃ c, d.Takes x c) ∨ d.Aside x := by
  by_cases hc : d.session.closed = true
  · exact .inr (aside_of_closed hc x)
  · have ho : d.session.closed = false := eq_false_of_ne_true hc
    have hw := owes_of_open ho x
    cases x with
    | call c =>
      cases c with
      | submit typed => exact takes_or_aside_submit ho typed
      | request a =>
        obtain ⟨_, _, _, _, hr⟩ := d.session.request_frame a
        refine .inr ⟨rfl, d.session.queue_notMem_request a, fun l hl => ?_,
          fun _ => ⟨d.session.history.cursor, ?_⟩⟩
        · rw [hw] at hl
          exact Session.origin_requestLine? hl
        · show (d.session.request a).session.history = _
          rw [hr]
      | handle e =>
        refine .inr ⟨rfl, fun c hq => ?_, fun l hl => ?_,
          fun _ => ⟨d.session.history.cursor, d.session.history_handle e⟩⟩
        · have hm : Session.Effect.queue c ∈ (d.session.handle e).2 := hq
          rw [d.session.effects_handle e] at hm
          cases hm
        · rw [hw] at hl
          cases e with
          | link e => exact Link.Event.origin_line? hl
          | power c => exact Session.origin_completionLine? hl
      | next first =>
        obtain ⟨_, hn⟩ := d.next_frame first
        refine .inr (.of_quiet rfl rfl hw fun _ => ⟨d.session.history.cursor, ?_⟩)
        show (d.next first).1.session.history = _
        rw [hn]
      | revisit direction => exact .inr (.of_quiet rfl rfl hw fun _ => ⟨_, rfl⟩)
      | close => exact .inr (.of_quiet rfl rfl hw fun h => absurd rfl h)
    | finish c =>
      refine .inr (.of_quiet rfl rfl hw fun _ => ⟨d.session.history.cursor, ?_⟩)
      rw [session_finish]
    | report _ | detach | relabel _ => exact .inr (.of_quiet rfl rfl hw fun _ => ⟨_, rfl⟩)

/-! ## the three places -/

theorem log_close (s : Session) : s.close.log = s.log ∨ s.close.log = s.log.clear := by
  unfold Session.close
  split
  · exact .inl rfl
  · exact .inr rfl

/-- the line that comes in with a step is the one it owes -/
theorem gains_eq_owes (d : Desk) (x : Step) : d.gains x = (d.owes x).toList := by
  unfold gains
  by_cases hc : d.session.closed = true
  · obtain ⟨⟨_, _, _, hs⟩, _⟩ := step_of_closed hc x
    rw [hs, show d.owes x = none from if_pos hc]
    exact Log.gained_self d.session.log
  · have ho : d.session.closed = false := eq_false_of_ne_true hc
    by_cases hx : x = .call .close
    · subst hx
      rw [owes_of_open ho]
      show d.session.log.gained d.session.close.log = []
      rcases log_close d.session with h | h
      · rw [h, Log.gained_self]
      · rw [h, Log.gained_clear]
    · rw [log_step ho hx, Log.gained_appendAll]

theorem written_eq_owed (d : Desk) (xs : List Step) : d.written xs = d.owed xs := by
  unfold written owed
  rw [show (gains : Desk → Step → List LogLine) = fun d x => (d.owes x).toList from
    funext fun d => funext fun x => d.gains_eq_owes x]

theorem sent_step (d : Desk) (x : Step) :
    (d.step x).2.filterMap Timeline.sent? = (d.accepts? x).toList.map Command.mk := by
  rcases d.takes_or_aside x with ⟨c, h⟩ | h
  · rw [h.queue, h.accepts]
    rfl
  · rw [h.accepts, Option.toList_none, List.map_nil, List.filterMap_eq_nil_iff]
    intro e he
    cases e with
    | call t a => rfl
    | queue c => exact absurd he (h.queue c)

theorem echo_step (d : Desk) (x : Step) :
    ((d.owes x).toList.filter fun l => l.origin = .echo).map LogLine.untimed =
      (d.accepts? x).toList.map (LogLine.echo "") := by
  rcases d.takes_or_aside x with ⟨c, h⟩ | h
  · rw [h.echo, h.accepts]
    rfl
  · rw [h.accepts]
    cases hl : d.owes x with
    | none => rfl
    | some l => simp [h.echo l hl]

theorem sent_run (d : Desk) (xs : List Step) :
    (d.effects xs).filterMap Timeline.sent? = (d.accepted xs).map Command.mk := by
  unfold effects accepted
  rw [filterMap_collected, map_collected]
  simp only [sent_step]

theorem echo_run (d : Desk) (xs : List Step) :
    ((d.written xs).filter fun l => l.origin = .echo).map LogLine.untimed =
      (d.accepted xs).map (LogLine.echo "") := by
  rw [written_eq_owed]
  unfold owed accepted
  rw [filter_collected, map_collected, map_collected]
  simp only [echo_step]

theorem trimmed_of_accepted {d : Desk} {xs : List Step} {c : String} (h : c ∈ d.accepted xs) :
    Text.Trimmed c ∧ c ≠ "" := by
  obtain ⟨e, x, hc⟩ := mem_collected h
  rcases e.takes_or_aside x with ⟨b, ht⟩ | ha
  · rw [ht.accepts, Option.toList_some, List.mem_singleton] at hc
    rw [hc]
    exact ht.trimmed
  · rw [ha.accepts] at hc
    cases hc

/-- the history is the newest commands -/
theorem history_run {d : Desk} {xs : List Step} (ho : (d.run xs).session.closed = false)
    (hn : d.session.history = .new) :
    (d.run xs).session.history.entries = (d.accepted xs).reverse.take History.defaultLimit := by
  have h := keeps_collected_of_open
    (R := fun s cs => s.history.limit = History.defaultLimit ∧
      s.history.entries = cs.reverse.take s.history.limit)
    (f := fun d x => (d.accepts? x).toList) (l := []) (fun e x cs hoe hx ⟨hl, he⟩ => ?_)
    (by rw [hn]; exact ⟨rfl, rfl⟩) xs ho
  · rw [h.1] at h
    exact h.2
  · rcases e.takes_or_aside x with ⟨c, ht⟩ | ha
    · rw [ht.history, ht.accepts, Option.toList_some, List.reverse_append, List.reverse_singleton,
        List.singleton_append]
      exact ⟨hl, History.entries_push_take c he⟩
    · obtain ⟨_, hh⟩ := ha.history hx
      rw [ha.accepts, Option.toList_none, List.append_nil, hh]
      exact ⟨hl, he⟩

/-- **Commands, echoes and history never drift apart.** Whatever is done with an open session and
whatever happens around it: the commands queued are the accepted ones, in order and each once; so are
the echoes among all lines that have come in; the history is the newest fifty, the newest first; each is
a trimmed text that is not empty; a command is queued only while the channel is up; and a step that
accepts no command queues none, brings no echo and leaves the history as it was, the end apart. -/
theorem commands_in_step (o : Session.Opening) (xs : List Step)
    (ho : ((new o.session).run xs).session.closed = false) :
    let d := (new o.session).run xs
    let cs := (new o.session).accepted xs
    let lines := (new o.session).written xs
    ((new o.session).effects xs).filterMap Timeline.sent? = cs.map Command.mk ∧
    (d.session.log = (Log.withCapacity o.scrollback).appendAll lines ∧
      (lines.filter fun l => l.origin = .echo).map LogLine.untimed = cs.map (LogLine.echo "")) ∧
    d.session.history.entries = cs.reverse.take 50 ∧
    (∀ c ∈ cs, Text.Trimmed c ∧ c ≠ "") ∧
    ∀ x,
      (∀ c, .queue c ∈ (d.step x).2 →
        d.session.link.state = .connected ∧ d.accepts? x = some c.line) ∧
      (d.accepts? x = none →
        (∀ c, .queue c ∉ (d.step x).2) ∧ (∀ l ∈ d.gains x, l.origin ≠ .echo) ∧
        (x ≠ .call .close →
          (d.step x).1.session.history.entries = d.session.history.entries)) := by
  intro d cs lines
  have hn : o.session.history = .new := by
    obtain ⟨_, _, _, h⟩ := o.session_frame
    rw [h]
    rfl
  have hlog : d.session.log = (Log.withCapacity o.scrollback).appendAll lines := by
    show _ = Log.appendAll _ ((new o.session).written xs)
    rw [written_eq_owed, ← log_new o]
    exact log_run ho
  refine ⟨sent_run _ xs, ⟨hlog, echo_run _ xs⟩, history_run ho hn, fun c hc => trimmed_of_accepted hc,
    fun x => ?_⟩
  rw [gains_eq_owes]
  rcases d.takes_or_aside x with ⟨b, ht⟩ | ha
  · refine ⟨fun c hc => ?_, fun h => ?_⟩
    · rw [ht.queue, List.mem_singleton, Session.Effect.queue.injEq] at hc
      rw [hc]
      exact ⟨ht.connected, ht.accepts⟩
    · rw [ht.accepts] at h
      cases h
  · refine ⟨fun c hc => absurd hc (ha.queue c), fun _ => ⟨ha.queue, fun l hl => ?_, fun hx => ?_⟩⟩
    · rw [Option.mem_toList] at hl
      exact ha.echo l hl
    · obtain ⟨_, hh⟩ := ha.history hx
      rw [hh]

/-- the first command comes too early; of the four that follow one is blank -/
theorem commands_in_step_two :
    let o := Session.Opening.plain .running .everything
    let xs : List Step := [.call (.submit "early"), .report (.opened false), .call (.next .channel),
      .call (.submit "  say hi "), .call (.submit " "), .call (.revisit .older),
      .call (.handle (.link (.frame (.console "> fake" none false)))), .call (.submit "list")]
    ((new o.session).run xs).session.closed = false ∧
    (new o.session).accepted xs = ["say hi", "list"] ∧
    ((new o.session).effects xs).filterMap Timeline.sent? = [⟨"say hi"⟩, ⟨"list"⟩] ∧
    (((new o.session).written xs).filter fun l => l.origin = .echo).map LogLine.untimed =
      [⟨"", "> say hi", none, .echo⟩, ⟨"", "> list", none, .echo⟩] ∧
    ((new o.session).run xs).session.history.entries = ["list", "say hi"] := by
  intro o xs
  have ho : ((new o.session).run xs).session.closed = false := by
    rw [closed_run]
    rfl
  have ha : (new o.session).accepted xs = ["say hi", "list"] := by decide +kernel
  obtain ⟨hs, ⟨_, he⟩, hh, _⟩ := commands_in_step o xs ho
  rw [ha] at hs he hh
  exact ⟨ho, ha, hs, he, hh⟩

end Desk

end ServerConsole
