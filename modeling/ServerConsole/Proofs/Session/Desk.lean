import ServerConsole.Proofs.Session.Run

/-!
# A session on its owner's desk

An owner takes events off two queues, the one of the channel and the one of the power calls, and hands
events over to the session. Nothing makes it hand over what it took, or nothing but that. The queues
fill while it is busy.

* `Desk`                a session and the two queues;
* `Desk.next`           the next event, off the queue that is looked at first if it has one;
* `Call`, `Step`        what the owner does, and what happens around it;
* `step`, `run`         one step, and the desk after a list of steps;
* `collected`           what the steps of a list give, in order; `effects` are one instance;
* `keeps_run`, `keeps_collected`, `keeps_collected_of_open`  what each step keeps, a list of steps keeps;
* `next_cases`, `handle_next`  all that `next` can do; to take an event and hand it over is to receive it;
* `exists_steps_of_run`  each run of a session is one of its desk.
-/

namespace ServerConsole

/-! ## definitions -/

/-- one of the two queues -/
inductive Source
  | channel
  | panel

structure Desk where
  session : Session
  /-- what the task of the channel has reported, oldest first -/
  reports : List Link.Event
  /-- the power calls that have ended, oldest first -/
  completions : List Session.Completion

namespace Session

/-! ## an event that is handed over -/

theorem handle_of_closed {s : Session} (h : s.closed = true) (e : Event) :
    s.handle e = (s, []) := if_pos h

theorem handle_link_of_open {s : Session} (h : s.closed = false) (e : Link.Event) :
    s.handle (.link e) = (s.handleLink e, []) := if_neg (by rw [h]; exact Bool.false_ne_true)

theorem handle_power_of_open {s : Session} (h : s.closed = false) (c : Completion) :
    s.handle (.power c) = s.stepPower (.completed c.ticket c.action c.failure) :=
  if_neg (by rw [h]; exact Bool.false_ne_true)

theorem closed_handle (s : Session) (e : Event) : (s.handle e).1.closed = s.closed := by
  by_cases hc : s.closed = true
  · rw [handle_of_closed hc]
  · have ho : s.closed = false := eq_false_of_ne_true hc
    cases e with
    | link e =>
      obtain ⟨_, _, _, _, h⟩ := s.handleLink_frame e
      rw [handle_link_of_open ho, h]
    | power c =>
      obtain ⟨_, _, _, h⟩ := s.stepPower_frame (.completed c.ticket c.action c.failure)
      rw [handle_power_of_open ho, h]

/-! ## closed sessions -/

theorem submit_of_closed {s : Session} (h : s.closed = true) (typed : String) :
    s.submit typed = ⟨s, [], .error .sessionClosed⟩ := if_pos h

/-- the second session is the first one, but for the place in the history, the label of the time, and
whether the task of the channel takes commands -/
def Still (s t : Session) : Prop :=
  ∃ cursor accepting clock, t = { s with
    history := { s.history with cursor := cursor }
    link := { s.link with accepting := accepting }
    clock := clock }

theorem Still.refl (s : Session) : s.Still s := ⟨s.history.cursor, s.link.accepting, s.clock, rfl⟩

theorem Still.trans {s t u : Session} (h : s.Still t) (k : t.Still u) : s.Still u := by
  obtain ⟨_, _, _, rfl⟩ := h
  obtain ⟨cursor, accepting, clock, rfl⟩ := k
  exact ⟨cursor, accepting, clock, rfl⟩

theorem Still.of_history {s t : Session} (h : s.Still t) (hh : t.history = s.history) :
    ∃ accepting clock, t = { s with
      link := { s.link with accepting := accepting }
      clock := clock } := by
  obtain ⟨cursor, accepting, clock, rfl⟩ := h
  obtain rfl : cursor = s.history.cursor := congrArg History.cursor hh
  exact ⟨accepting, clock, rfl⟩

end Session

namespace Desk

/-- what comes of asking for the next event -/
inductive Next
  | event (event : Session.Event)
  /-- there is none yet -/
  | wait
  /-- there will be none any more -/
  | over

inductive Call
  | submit (typed : String)
  | request (action : PowerAction)
  | revisit (direction : Direction)
  | next (first : Source)
  /-- any event at all: one that was taken, one that was taken before, or one that never was -/
  | handle (event : Session.Event)
  | close

inductive Step
  | call (call : Call)
  /-- the task of the channel reports an event -/
  | report (event : Link.Event)
  /-- a power call ends; a session that is closed does not hear of it -/
  | finish (completion : Session.Completion)
  /-- the task of the channel takes no more commands -/
  | detach
  /-- lines that come in from now on get this label -/
  | relabel (clock : String)

/-- the session is closed -/
def Step.isEnd : Step → Bool
  | .call .close => true
  | _ => false

def new (session : Session) : Desk := ⟨session, [], []⟩

/-- the oldest report, which moves the channel's own state; none once the channel is closed -/
def takeReport? (d : Desk) : Option (Desk × Session.Event) :=
  match d.reports with
  | [] => none
  | e :: rest =>
    if d.session.awaits (.link e) then
      some (⟨{ d.session with link := d.session.link.observe e }, rest, d.completions⟩, .link e)
    else none

def takeCompletion? (d : Desk) : Option (Desk × Session.Event) :=
  match d.completions with
  | [] => none
  | c :: rest => some (⟨d.session, d.reports, rest⟩, .power c)

def take? (d : Desk) : Source → Option (Desk × Session.Event)
  | .channel => d.takeReport?.or d.takeCompletion?
  | .panel => d.takeCompletion?.or d.takeReport?

def next (d : Desk) (first : Source) : Desk × Next :=
  if d.session.closed then (d, .over)
  else match d.take? first with
    | some (d, e) => (d, .event e)
    | none => (d, .wait)

/-- the session goes on, the queues stay -/
def carry (d : Desk) (r : Session × List Session.Effect) : Desk × List Session.Effect :=
  ({ d with session := r.1 }, r.2)

def call (d : Desk) : Call → Desk × List Session.Effect
  | .submit typed => d.carry ((d.session.submit typed).session, (d.session.submit typed).effects)
  | .request a => d.carry ((d.session.request a).session, (d.session.request a).effects)
  | .revisit direction => d.carry ((d.session.revisit direction).1, [])
  | .next first => ((d.next first).1, [])
  | .handle e => d.carry (d.session.handle e)
  | .close => d.carry (d.session.close, [])

def step (d : Desk) : Step → Desk × List Session.Effect
  | .call c => d.call c
  | .report e => ({ d with reports := d.reports ++ [e] }, [])
  | .finish c => (if d.session.closed then d else { d with completions := d.completions ++ [c] }, [])
  | .detach => d.carry (d.session.perform .detach)
  | .relabel clock => d.carry (d.session.perform (.relabel clock))

/-- the desk after a list of steps -/
def run (d : Desk) (xs : List Step) : Desk := xs.foldl (fun d x => (d.step x).1) d

section
variable {α β : Type}

/-- what the steps of a list give, each at its moment -/
def collected (f : Desk → Step → List α) (d : Desk) : List Step → List α
  | [] => []
  | x :: xs => f d x ++ (d.step x).1.collected f xs

end

/-- all effects of a list of steps -/
def effects (d : Desk) (xs : List Step) : List Session.Effect := d.collected (fun d x => (d.step x).2) xs

/-! ## lists of steps -/

theorem run_nil (d : Desk) : d.run [] = d := rfl

theorem run_cons (d : Desk) (x : Step) (xs : List Step) : d.run (x :: xs) = (d.step x).1.run xs := rfl

theorem run_append (d : Desk) (a b : List Step) : d.run (a ++ b) = (d.run a).run b := List.foldl_append

/-- what each step keeps, a list of steps keeps -/
theorem keeps_run {P : Desk → Prop} (step : ∀ d x, P d → P (d.step x).1) {d : Desk} (h : P d)
    (xs : List Step) : P (d.run xs) := by
  induction xs generalizing d with
  | nil => exact h
  | cons x xs ih => exact ih (step d x h)

section
variable {α β : Type} {f : Desk → Step → List α}

theorem collected_nil (d : Desk) : d.collected f [] = [] := rfl

theorem collected_cons (d : Desk) (x : Step) (xs : List Step) :
    d.collected f (x :: xs) = f d x ++ (d.step x).1.collected f xs := rfl

theorem collected_append (d : Desk) (a b : List Step) :
    d.collected f (a ++ b) = d.collected f a ++ (d.run a).collected f b := by
  induction a generalizing d with
  | nil => rfl
  | cons x a ih =>
    rw [List.cons_append, collected_cons, collected_cons, ih, List.append_assoc]
    rfl

/-- an account that each step keeps up to date, a list of steps keeps up to date -/
theorem keeps_collected {R : Desk → List α → Prop}
    (step : ∀ d x l, R d l → R (d.step x).1 (l ++ f d x)) {d : Desk} {l : List α} (h : R d l)
    (xs : List Step) : R (d.run xs) (l ++ d.collected f xs) := by
  induction xs generalizing d l with
  | nil =>
    rw [collected_nil, List.append_nil]
    exact h
  | cons x xs ih =>
    rw [collected_cons, ← List.append_assoc]
    exact ih (step d x l h)

theorem map_collected (g : α → β) (d : Desk) (xs : List Step) :
    (d.collected f xs).map g = d.collected (fun d x => (f d x).map g) xs := by
  induction xs generalizing d with
  | nil => rfl
  | cons x xs ih => rw [collected_cons, List.map_append, ih, collected_cons]

theorem filterMap_collected (g : α → Option β) (d : Desk) (xs : List Step) :
    (d.collected f xs).filterMap g = d.collected (fun d x => (f d x).filterMap g) xs := by
  induction xs generalizing d with
  | nil => rfl
  | cons x xs ih => rw [collected_cons, List.filterMap_append, ih, collected_cons]

theorem filter_collected (p : α → Bool) (d : Desk) (xs : List Step) :
    (d.collected f xs).filter p = d.collected (fun d x => (f d x).filter p) xs := by
  induction xs generalizing d with
  | nil => rfl
  | cons x xs ih => rw [collected_cons, List.filter_append, ih, collected_cons]

theorem mem_collected {d : Desk} {xs : List Step} {a : α} (h : a ∈ d.collected f xs) :
    ∃ e x, a ∈ f e x := by
  induction xs generalizing d with
  | nil => cases h
  | cons x xs ih =>
    rw [collected_cons] at h
    rcases List.mem_append.mp h with h | h
    · exact ⟨d, x, h⟩
    · exact ih h

end

/-! ## the next event -/

theorem takeReport?_cases (d : Desk) :
    d.takeReport? = none ∨
    ∃ e rest, d.session.awaits (.link e) = true ∧ d.reports = e :: rest ∧ d.takeReport? =
      some (⟨{ d.session with link := d.session.link.observe e }, rest, d.completions⟩, .link e) := by
  unfold takeReport?
  cases d.reports with
  | nil => exact .inl rfl
  | cons e rest =>
    by_cases ha : d.session.awaits (.link e) = true
    · exact .inr ⟨e, rest, ha, rfl, if_pos ha⟩
    · exact .inl (if_neg ha)

theorem takeCompletion?_cases (d : Desk) :
    d.takeCompletion? = none ∨
    ∃ c rest, d.completions = c :: rest ∧
      d.takeCompletion? = some (⟨d.session, d.reports, rest⟩, .power c) := by
  unfold takeCompletion?
  cases d.completions with
  | nil => exact .inl rfl
  | cons c rest => exact .inr ⟨c, rest, rfl, rfl⟩

/-- all that `next` can do -/
theorem next_cases (d : Desk) (first : Source) :
    (d.session.closed = true ∧ d.next first = (d, .over)) ∨
    (d.session.closed = false ∧ d.next first = (d, .wait)) ∨
    (∃ e rest, d.session.closed = false ∧ d.session.awaits (.link e) = true ∧ d.reports = e :: rest ∧
      d.next first =
        (⟨{ d.session with link := d.session.link.observe e }, rest, d.completions⟩,
          .event (.link e))) ∨
    (∃ c rest, d.session.closed = false ∧ d.completions = c :: rest ∧
      d.next first = (⟨d.session, d.reports, rest⟩, .event (.power c))) := by
  by_cases hc : d.session.closed = true
  · exact .inl ⟨hc, if_pos hc⟩
  · have ho : d.session.closed = false := eq_false_of_ne_true hc
    have hn : d.next first = match d.take? first with
        | some (d, e) => (d, .event e)
        | none => (d, .wait) := if_neg hc
    rw [hn]
    rcases d.takeReport?_cases with hr | ⟨e, rest, ha, he, hr⟩
    · rcases d.takeCompletion?_cases with hp | ⟨c, rest, he, hp⟩
      · refine .inr (.inl ⟨ho, ?_⟩)
        cases first <;> simp [take?, hr, hp]
      · refine .inr (.inr (.inr ⟨c, rest, ho, he, ?_⟩))
        cases first <;> simp [take?, hr, hp]
    · cases first with
      | channel =>
        refine .inr (.inr (.inl ⟨e, rest, ho, ha, he, ?_⟩))
        simp [take?, hr]
      | panel =>
        rcases d.takeCompletion?_cases with hp | ⟨c, rest', hc', hp⟩
        · refine .inr (.inr (.inl ⟨e, rest, ho, ha, he, ?_⟩))
          simp [take?, hr, hp]
        · refine .inr (.inr (.inr ⟨c, rest', ho, hc', ?_⟩))
          simp [take?, hp]

theorem next_of_closed {d : Desk} (h : d.session.closed = true) (first : Source) :
    d.next first = (d, .over) := if_pos h

/-- only a closed session has no events to come -/
theorem next_eq_over {d : Desk} {first : Source} :
    (d.next first).2 = .over ↔ d.session.closed = true := by
  constructor
  · intro h
    rcases d.next_cases first with ⟨hc, _⟩ | ⟨_, hn⟩ | ⟨e, rest, _, _, _, hn⟩ | ⟨c, rest, _, _, hn⟩
    · exact hc
    all_goals
      rw [hn] at h
      cases h
  · intro h
    rw [next_of_closed h]

/-- `next` moves the state of the channel at most -/
theorem next_frame (d : Desk) (first : Source) :
    ∃ link, (d.next first).1.session = { d.session with link := link } := by
  rcases d.next_cases first with ⟨_, hn⟩ | ⟨_, hn⟩ | ⟨e, rest, _, _, _, hn⟩ | ⟨c, rest, _, _, hn⟩
  · exact ⟨d.session.link, by rw [hn]⟩
  · exact ⟨d.session.link, by rw [hn]⟩
  · exact ⟨d.session.link.observe e, by rw [hn]⟩
  · exact ⟨d.session.link, by rw [hn]⟩

/-- to take an event and hand it over is to receive it -/
theorem handle_next {d : Desk} {first : Source} {e : Session.Event}
    (h : (d.next first).2 = .event e) : (d.next first).1.session.handle e = d.session.receive e := by
  rcases d.next_cases first with ⟨_, hn⟩ | ⟨_, hn⟩ | ⟨x, rest, ho, ha, _, hn⟩ | ⟨c, rest, ho, _, hn⟩
  · rw [hn] at h
    cases h
  · rw [hn] at h
    cases h
  · rw [hn] at h ⊢
    cases h
    simp [Session.receive, ha]
  · rw [hn] at h ⊢
    cases h
    simp [Session.receive, Session.awaits, ho]

/-! ## one step -/

/-- a call that ends waits in the queue -/
theorem session_finish (d : Desk) (c : Session.Completion) :
    (d.step (.finish c)).1.session = d.session := by
  show (if d.session.closed = true then d else _ : Desk).session = d.session
  split <;> rfl

/-- only the end closes a session -/
theorem closed_step (d : Desk) (x : Step) :
    (d.step x).1.session.closed = (d.session.closed || x.isEnd) := by
  cases x with
  | call c =>
    cases c with
    | submit typed => exact d.session.closed_feed (.operation (.submit typed))
    | request a => exact d.session.closed_feed (.operation (.request a))
    | revisit direction => exact d.session.closed_feed (.operation (.revisit direction))
    | close => exact d.session.closed_feed (.operation .close)
    | next first =>
      obtain ⟨link, h⟩ := d.next_frame first
      show (d.next first).1.session.closed = (d.session.closed || false)
      rw [h, Bool.or_false]
    | handle e =>
      show (d.session.handle e).1.closed = (d.session.closed || false)
      rw [Session.closed_handle, Bool.or_false]
  | finish c =>
    rw [session_finish]
    exact (Bool.or_false _).symm
  | report _ | detach | relabel _ => exact (Bool.or_false d.session.closed).symm

/-- a session that is open after a step was open before, and the step is not the end -/
theorem open_of_step {d : Desk} {x : Step} (h : (d.step x).1.session.closed = false) :
    d.session.closed = false ∧ x ≠ .call .close := by
  rw [closed_step, Bool.or_eq_false_iff] at h
  refine ⟨h.1, ?_⟩
  rintro rfl
  cases h.2

/-- an account of an open session that each step keeps up to date, a list of steps keeps up to date -/
theorem keeps_collected_of_open {α : Type} {f : Desk → Step → List α}
    {R : Session → List α → Prop}
    (step : ∀ d x l, d.session.closed = false → x ≠ .call .close → R d.session l →
      R (d.step x).1.session (l ++ f d x))
    {d : Desk} {l : List α} (h : R d.session l) (xs : List Step)
    (ho : (d.run xs).session.closed = false) : R (d.run xs).session (l ++ d.collected f xs) := by
  refine keeps_collected (R := fun e l => e.session.closed = false → R e.session l)
    (fun e x l hl hc => ?_) (fun _ => h) xs ho
  obtain ⟨hoe, hx⟩ := open_of_step hc
  exact step e x l hoe hx (hl hoe)

/-- a call to a closed session does nothing, but for the place in the history, which moves -/
theorem call_of_closed {d : Desk} (h : d.session.closed = true) {c : Call}
    (hc : ∀ direction, c ≠ .revisit direction) : d.call c = (d, []) := by
  cases c with
  | submit typed =>
    show d.carry ((d.session.submit typed).session, (d.session.submit typed).effects) = _
    rw [Session.submit_of_closed h]
    rfl
  | request a =>
    show d.carry ((d.session.request a).session, (d.session.request a).effects) = _
    rw [Session.request_of_closed h]
    rfl
  | revisit direction => exact absurd rfl (hc direction)
  | next first =>
    show ((d.next first).1, []) = _
    rw [next_of_closed h]
  | handle e =>
    show d.carry (d.session.handle e) = _
    rw [Session.handle_of_closed h]
    rfl
  | close =>
    have hs : d.session.close = d.session := if_pos h
    show d.carry (d.session.close, []) = _
    rw [hs]
    rfl

theorem step_of_closed {d : Desk} (h : d.session.closed = true) (x : Step) :
    d.session.Still (d.step x).1.session ∧ (d.step x).2 = [] := by
  cases x with
  | call c =>
    by_cases hc : ∃ direction, c = .revisit direction
    · obtain ⟨direction, rfl⟩ := hc
      exact ⟨⟨_, d.session.link.accepting, d.session.clock, rfl⟩, rfl⟩
    · have hs : d.step (.call c) = (d, []) :=
        call_of_closed h fun direction hd => hc ⟨direction, hd⟩
      rw [hs]
      exact ⟨.refl d.session, rfl⟩
  | report e => exact ⟨.refl d.session, rfl⟩
  | finish c =>
    rw [session_finish]
    exact ⟨.refl d.session, rfl⟩
  | detach => exact ⟨⟨d.session.history.cursor, false, d.session.clock, rfl⟩, rfl⟩
  | relabel clock => exact ⟨⟨d.session.history.cursor, d.session.link.accepting, clock, rfl⟩, rfl⟩

theorem closed_run (d : Desk) (xs : List Step) :
    (d.run xs).session.closed = (d.session.closed || xs.any Step.isEnd) := by
  induction xs generalizing d with
  | nil => exact (Bool.or_false _).symm
  | cons x xs ih => rw [run_cons, ih, closed_step, List.any_cons, Bool.or_assoc]

/-! ## runs of a session -/

/-- each input of a session is a few steps at its desk -/
theorem exists_steps_of_feed (s : Session) (i : Session.Input) : ∃ xs,
    (new s).run xs = new (s.feed i).1 ∧ (new s).effects xs = (s.feed i).2 := by
  cases i with
  | completion c =>
    have hr : s.handle (.power c) = s.receive (.power c) := by
      by_cases hc : s.closed = true
      · rw [Session.handle_of_closed hc, Session.receive_of_closed hc]
      · have ho : s.closed = false := eq_false_of_ne_true hc
        rw [Session.handle_power_of_open ho, Session.receive_power_of_open ho]
    refine ⟨[.call (.handle (.power c))], ?_, ?_⟩
    · show new (s.handle (.power c)).1 = new (s.receive (.power c)).1
      rw [hr]
    · show (s.handle (.power c)).2 ++ [] = (s.receive (.power c)).2
      rw [hr, List.append_nil]
  | operation op =>
    cases op with
    | submit typed => exact ⟨[.call (.submit typed)], rfl, List.append_nil _⟩
    | request a => exact ⟨[.call (.request a)], rfl, List.append_nil _⟩
    | revisit direction => exact ⟨[.call (.revisit direction)], rfl, rfl⟩
    | detach => exact ⟨[.detach], rfl, rfl⟩
    | relabel clock => exact ⟨[.relabel clock], rfl, rfl⟩
    | close => exact ⟨[.call .close], rfl, rfl⟩
    | hear e =>
      by_cases ha : s.awaits (.link e) = true
      · have ho : s.closed = false := by
          simp only [Session.awaits, Bool.and_eq_true, Bool.not_eq_true'] at ha
          exact ha.1
        -- the queues are empty, so the event that is taken is the one reported
        have hn : (⟨s, [e], []⟩ : Desk).next .channel =
            (new { s with link := s.link.observe e }, .event (.link e)) := by
          simp [next, take?, takeReport?, ho, ha, new]
        have hr : s.receive (.link e) = { s with link := s.link.observe e }.handle (.link e) := by
          simp [Session.receive, ha]
        refine ⟨[.report e, .call (.next .channel), .call (.handle (.link e))], ?_, ?_⟩
        · show ((((⟨s, [e], []⟩ : Desk).next .channel).1.step (.call (.handle (.link e)))).1) =
            new (s.receive (.link e)).1
          rw [hn, hr]
          rfl
        · show ((((⟨s, [e], []⟩ : Desk).next .channel).1.step (.call (.handle (.link e)))).2) ++ [] =
            (s.receive (.link e)).2
          rw [hn, hr, List.append_nil]
          rfl
      · have hr : s.feed (.operation (.hear e)) = (s, []) := by
          show s.receive (.link e) = _
          simp [Session.receive, ha]
        exact ⟨[], by rw [hr]; rfl, by rw [hr]; rfl⟩

/-- **Each run of a session is one of its desk.** -/
theorem exists_steps_of_run (s : Session) (is : List Session.Input) : ∃ xs,
    (new s).run xs = new (s.run is).1 ∧ (new s).effects xs = (s.run is).2 := by
  induction is generalizing s with
  | nil => exact ⟨[], rfl, rfl⟩
  | cons i is ih =>
    obtain ⟨a, ha, hea⟩ := exists_steps_of_feed s i
    obtain ⟨b, hb, heb⟩ := ih (s.feed i).1
    refine ⟨a ++ b, ?_, ?_⟩
    · rw [run_append, ha, hb, Session.run_cons]
    · show (new s).collected _ (a ++ b) = _
      rw [collected_append, ha, Session.run_cons]
      show (new s).effects a ++ (new (s.feed i).1).effects b = _
      rw [hea, heb]

end Desk

end ServerConsole
