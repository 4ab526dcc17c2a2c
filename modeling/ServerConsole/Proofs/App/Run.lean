import ServerConsole.App
import ServerConsole.Proofs.Session.Run

/-!
# Runs of an app

* `asks`              what a key asks of the session;
* `submit_of_ok`, `submit_of_error`, `request_eq`  what becomes of the app with the answer;
* `exists_pressed`    a key press is the act of what the key means;
* `received_of_awaits`  an event that is waited for is handled, and the view follows;
* `Step`, `step`, `run`  what happens to an app until it ends its session;
* `input`, `session_step`  each step is an input of the session, never its end (`input_ne_close`).
-/

namespace ServerConsole.App

/-! ## definitions -/

/-- to set the clock to what it shows is no change -/
def asks (a : App) : KeyAction → Session.Operation
  | .submit => .submit a.editor.text
  | .historyOlder => .revisit .older
  | .historyNewer => .revisit .newer
  | .power action => .request action
  | .quit | .scrollUp | .scrollDown | .edit _ | .none => .relabel a.session.clock

inductive Step
  | terminal (event : Terminal)
  | event (event : Session.Event)
  /-- the task of the channel takes no more commands -/
  | detach
  /-- lines that come in from now on get this label -/
  | relabel (clock : String)

def step (a : App) : Step → App
  | .terminal e => (a.terminal e).1
  | .event e => (a.received e).1
  | .detach => { a with session := (a.session.perform .detach).1 }
  | .relabel clock => { a with session := (a.session.perform (.relabel clock)).1 }

def run (a : App) (xs : List Step) : App := xs.foldl step a

/-- what a step is to the session -/
def input (a : App) : Step → Session.Input
  | .terminal (.key key) => .operation (a.asks key.meaning)
  | .terminal (.paste _) | .terminal .resize | .terminal .tick => .operation (.relabel a.session.clock)
  | .event (.link e) => .operation (.hear e)
  | .event (.power c) => .completion c
  | .detach => .operation .detach
  | .relabel clock => .operation (.relabel clock)

/-! ## messages -/

section
variable (a : App) (failure : Failure)

/-- a report changes the message at most -/
theorem report_eq : ∃ message, a.report failure = { a with message := message } := by
  unfold report
  cases notice? failure with
  | some text => exact ⟨some text, rfl⟩
  | none => exact ⟨a.message, rfl⟩

@[simp] theorem session_report : (a.report failure).session = a.session := by
  obtain ⟨_, h⟩ := a.report_eq failure
  rw [h]

@[simp] theorem editor_report : (a.report failure).editor = a.editor := by
  obtain ⟨_, h⟩ := a.report_eq failure
  rw [h]

@[simp] theorem scroll_report : (a.report failure).scroll = a.scroll := by
  obtain ⟨_, h⟩ := a.report_eq failure
  rw [h]

end

/-! ## keys -/

theorem submit_of_ok {a : App} (h : (a.session.submit a.editor.text).result = .ok ()) :
    a.submit = ({ a with
      session := (a.session.submit a.editor.text).session, editor := .empty, scroll := 0 },
      (a.session.submit a.editor.text).effects) := by
  unfold submit Editor.take
  simp only [h]

theorem submit_of_error {a : App} {failure : Failure}
    (h : (a.session.submit a.editor.text).result = .error failure) :
    a.submit = ({ a with
      session := (a.session.submit a.editor.text).session
      editor := a.editor.set a.editor.text }.report failure,
      (a.session.submit a.editor.text).effects) := by
  unfold submit Editor.take
  simp only [h]
  rfl

theorem session_submit (a : App) :
    a.submit.1.session = (a.session.submit a.editor.text).session ∧
      a.submit.2 = (a.session.submit a.editor.text).effects := by
  cases h : (a.session.submit a.editor.text).result with
  | ok _ =>
    rw [submit_of_ok h]
    exact ⟨rfl, rfl⟩
  | error failure =>
    rw [submit_of_error h]
    exact ⟨session_report _ _, rfl⟩

/-- a power key leaves all but the session and the message alone -/
theorem request_eq (a : App) (action : PowerAction) : ∃ message,
    a.request action = ({ a with
      session := (a.session.request action).session, message := message },
      (a.session.request action).effects) := by
  unfold request
  dsimp only
  split
  · exact ⟨a.message, rfl⟩
  · next failure _ =>
    obtain ⟨message, h⟩ := report_eq { a with session := (a.session.request action).session } failure
    exact ⟨message, by rw [h]⟩

theorem act_asks (a : App) (k : KeyAction) :
    (a.act k).1.session = (a.session.perform (a.asks k)).1 ∧
      (a.act k).2 = (a.session.perform (a.asks k)).2 := by
  cases k with
  | submit => exact a.session_submit
  | power action =>
    obtain ⟨_, h⟩ := a.request_eq action
    show (a.request action).1.session = _ ∧ (a.request action).2 = _
    rw [h]
    exact ⟨rfl, rfl⟩
  | historyOlder | historyNewer | quit | scrollUp | scrollDown | edit _ | none => exact ⟨rfl, rfl⟩

/-- before a key that means something does its act, the message goes -/
theorem exists_pressed (a : App) (key : Key) : ∃ message,
    a.pressed key = { a with message := message }.act key.meaning := by
  unfold pressed
  split
  · next h => exact ⟨a.message, by rw [h]; rfl⟩
  · exact ⟨none, rfl⟩

theorem session_pressed (a : App) (key : Key) :
    (a.pressed key).1.session = (a.session.perform (a.asks key.meaning)).1 ∧
      (a.pressed key).2 = (a.session.perform (a.asks key.meaning)).2 := by
  obtain ⟨message, h⟩ := a.exists_pressed key
  rw [h]
  -- what a key asks has nothing to do with the message
  have ha : ({ a with message := message } : App).asks key.meaning = a.asks key.meaning := by
    cases key.meaning <;> rfl
  rw [← ha]
  exact act_asks _ key.meaning

/-- what comes from the terminal is one operation on the session at most -/
theorem terminal_perform (a : App) (e : Terminal) : ∃ op,
    (a.terminal e).1.session = (a.session.perform op).1 ∧
      (a.terminal e).2 = (a.session.perform op).2 := by
  cases e with
  | key key => exact ⟨a.asks key.meaning, a.session_pressed key⟩
  | paste _ | resize | tick => exact ⟨.relabel a.session.clock, rfl, rfl⟩

/-! ## events -/

theorem received_of_awaits {a : App} {e : Session.Event} (h : a.session.awaits e = true) :
    a.received e = ({ a with session := (a.session.receive e).1 }.follow a.session.log,
      (a.session.receive e).2) := if_pos h

theorem received_of_not_awaits {a : App} {e : Session.Event} (h : ¬ a.session.awaits e = true) :
    a.received e = (a, []) := if_neg h

theorem session_received (a : App) (e : Session.Event) :
    (a.received e).1.session = (a.session.receive e).1 ∧
      (a.received e).2 = (a.session.receive e).2 := by
  by_cases h : a.session.awaits e = true
  · rw [received_of_awaits h]
    exact ⟨rfl, rfl⟩
  · have hr : a.session.receive e = (a.session, []) := if_neg h
    rw [received_of_not_awaits h, hr]
    exact ⟨rfl, rfl⟩

/-! ## one step -/

/-- each step is an input of the session -/
theorem session_step (a : App) (x : Step) :
    (a.step x).session = (a.session.feed (a.input x)).1 := by
  cases x with
  | terminal e =>
    cases e with
    | key key => exact (a.session_pressed key).1
    | paste _ | resize | tick => rfl
  | event e => cases e with
    | link e => exact (a.session_received (.link e)).1
    | power c => exact (a.session_received (.power c)).1
  | detach | relabel _ => rfl

theorem input_ne_close (a : App) (x : Step) : a.input x ≠ .operation .close := by
  cases x with
  | terminal e =>
    cases e with
    | key key =>
      show Session.Input.operation (a.asks key.meaning) ≠ _
      cases key.meaning <;> exact nofun
    | paste _ | resize | tick => exact nofun
  | event e => cases e <;> exact nofun
  | detach | relabel _ => exact nofun

theorem closed_step (a : App) (x : Step) : (a.step x).session.closed = a.session.closed := by
  have hn := a.input_ne_close x
  rw [session_step, Session.closed_feed]
  cases hi : a.input x with
  | completion _ => exact Bool.or_false _
  | operation op =>
    cases op with
    | close => exact absurd hi hn
    | submit _ | request _ | revisit _ | hear _ | detach | relabel _ => exact Bool.or_false _

theorem run_cons (a : App) (x : Step) (xs : List Step) : a.run (x :: xs) = (a.step x).run xs := rfl

end ServerConsole.App
