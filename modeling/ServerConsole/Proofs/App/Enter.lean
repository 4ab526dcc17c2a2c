import ServerConsole.Proofs.App.Run
import ServerConsole.Proofs.Session.Lines

/-!
# A command that is refused is not lost

The input line is taken out before the answer is known, and put back when the command is refused.

* `Session.Refused`       what a refusal is: for want of a permission a line tells of it, otherwise
                          nothing does;
* `refused_of_submit`     every refusal is one of these;
* `submit_accepted`       a command that is not refused goes to the channel's queue, unless it is blank;
* `enter_all_or_nothing`  what becomes of the app.
-/

namespace ServerConsole

/-! ## refusals -/

theorem Link.error_of_send {l : Link} {failure : Failure} (h : l.send = .error failure) :
    failure = .notConnected ∨ failure = .connectionClosed := by
  unfold send at h
  split at h
  · exact .inl (Except.error.inj h).symm
  · split at h
    · cases h
    · exact .inr (Except.error.inj h).symm

namespace Session

/-- nothing is left to do, and at most a line in the log tells of the refusal -/
inductive Refused (s : Session) : Failure → Reply → Prop
  | denied : Refused s (.permissionDenied Grant.consoleWrite)
      ⟨s.append (.system s.clock commandsRefused), [], .error (.permissionDenied Grant.consoleWrite)⟩
  | silent (failure : Failure)
      (hf : failure = .sessionClosed ∨ failure = .notConnected ∨ failure = .connectionClosed) :
      Refused s failure ⟨s, [], .error failure⟩

theorem refused_of_submit {s : Session} {typed : String} {failure : Failure}
    (h : (s.submit typed).result = .error failure) : Refused s failure (s.submit typed) := by
  by_cases hc : s.closed = true
  · rw [submit_of_closed hc] at h ⊢
    rw [← Except.error.inj h]
    exact .silent _ (.inl rfl)
  unfold submit at h ⊢
  rw [if_neg hc] at h ⊢
  cases hi : Command.ofInput? typed with
  | none =>
    rw [hi] at h
    cases h
  | some command =>
    rw [hi] at h
    dsimp only at h ⊢
    by_cases hw : s.can Grant.consoleWrite = true
    · rw [if_pos hw] at h ⊢
      cases hl : s.link.send with
      | error f =>
        rw [hl] at h
        rw [← Except.error.inj h]
        exact .silent _ (.inr (Link.error_of_send hl))
      | ok _ =>
        rw [hl] at h
        cases h
    · rw [if_neg hw] at h ⊢
      rw [← Except.error.inj h]
      exact .denied

/-- what is accepted is queued, unless it is blank -/
theorem submit_accepted {s : Session} {typed : String} (h : (s.submit typed).result = .ok ())
    (hb : Text.isBlankText typed = false) :
    (s.submit typed).effects = [.queue ⟨Text.trim typed⟩] := by
  have ho : s.closed = false := by
    by_contra hc
    rw [submit_of_closed (eq_true_of_ne_false hc)] at h
    cases h
  have hs := submitted ho typed
  generalize s.submit typed = r at h hs ⊢
  cases hs with
  | blank hb' =>
    rw [hb] at hb'
    cases hb'
  | refused | unsent => cases h
  | sent => rfl

/-- blanks alone change nothing and leave nothing to do -/
theorem submit_blank (s : Session) {typed : String} (hb : Text.isBlankText typed = true) :
    (s.submit typed).session = s ∧ (s.submit typed).effects = [] := by
  by_cases hc : s.closed = true
  · rw [submit_of_closed hc]
    exact ⟨rfl, rfl⟩
  · have hs := submitted (eq_false_of_ne_true hc) typed
    generalize s.submit typed = r at hs ⊢
    cases hs with
    | blank => exact ⟨rfl, rfl⟩
    | refused hb' | unsent hb' | sent hb' =>
      rw [hb] at hb'
      cases hb'

end Session

namespace App

/-! ## the app -/

/-- the line that is put back is the one that was taken, with the cursor at its end -/
theorem set_text (e f : Editor) : e.set f.text = ⟨f.chars, f.chars.length⟩ := by
  unfold Editor.set Editor.text
  rw [String.toList_ofList]

/-- **A command that is refused leaves no trace and is not lost.** Whatever the state of an app and the
text of its input line, to press Enter ends in one of two ways. The command is accepted: the input line is
empty, the view follows the output, and the command is queued, unless it is blank. Or it is refused: the
input line is what it was, with the cursor at its end, the view stays, nothing is queued, and the session
is what it was, but for one line of the log when a permission is wanting. And blanks alone change nothing
in the session, and nothing is queued. -/
theorem enter_all_or_nothing (a : App) (control : Bool) :
    let reply := a.session.submit a.editor.text
    let b := (a.pressed ⟨.enter, control⟩).1
    let effects := (a.pressed ⟨.enter, control⟩).2
    ((reply.result = .ok () ∧ b.editor = .empty ∧ b.scroll = 0 ∧
        (Text.isBlankText a.editor.text = false →
          effects = [.queue ⟨Text.trim a.editor.text⟩])) ∨
      ∃ failure, reply.result = .error failure ∧
        b.editor = ⟨a.editor.chars, a.editor.chars.length⟩ ∧ b.scroll = a.scroll ∧ effects = [] ∧
        ((failure = .permissionDenied Grant.consoleWrite ∧ b.session = { a.session with
            log := a.session.log.append ⟨a.session.clock, Session.commandsRefused, none, .system⟩ }) ∨
          ((failure = .sessionClosed ∨ failure = .notConnected ∨ failure = .connectionClosed) ∧
            b.session = a.session))) ∧
    (Text.isBlankText a.editor.text = true → effects = [] ∧ b.session = a.session) := by
  intro reply b effects
  obtain ⟨message, hp⟩ := a.exists_pressed ⟨.enter, control⟩
  have hb : b = ({ a with message := message } : App).submit.1 := congrArg Prod.fst hp
  have hs : b.session = reply.session ∧ effects = reply.effects := a.session_pressed ⟨.enter, control⟩
  refine ⟨?_, fun hblank => ?_⟩
  · cases h : reply.result with
    | ok _ =>
      rw [submit_of_ok (a := { a with message := message }) h] at hb
      refine .inl ⟨rfl, by rw [hb], by rw [hb], fun hn => ?_⟩
      rw [hs.2]
      exact Session.submit_accepted h hn
    | error failure =>
      rw [submit_of_error (a := { a with message := message }) h] at hb
      have hr := Session.refused_of_submit h
      refine .inr ⟨failure, rfl, by rw [hb, editor_report, set_text], by rw [hb, scroll_report], ?_⟩
      rw [hs.1, hs.2]
      show reply.effects = [] ∧ _
      change Session.Refused a.session failure reply at hr
      generalize reply = r at hr ⊢
      cases hr with
      | denied => exact ⟨rfl, .inl ⟨rfl, rfl⟩⟩
      | silent _ hf => exact ⟨rfl, .inr ⟨hf, rfl⟩⟩
  · obtain ⟨h1, h2⟩ := a.session.submit_blank hblank
    rw [hs.1, hs.2]
    exact ⟨h2, h1⟩

end App

end ServerConsole
