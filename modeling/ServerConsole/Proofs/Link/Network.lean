import ServerConsole.Proofs.Link.Reports

/-!
# What a network brings, and what of it the owner is told

A network is written down attempt by attempt. Which of its sockets are opened at all depends on the
retries that are left.

* `Network`, `Network.happenings`  how each attempt comes out and what each socket brings, and what
                     happens to a task on such a network;
* `Network.sockets`  the messages of the sockets that are opened, socket by socket;
* `passed`           the frames of a socket that are passed on, up to the first of kind error;
* `told`             the events that come from open sockets;
* `told_of_network`  the task reports these and no others.
-/

namespace ServerConsole.Link

/-! ## networks -/

/-- the end of a socket that the task has not asked for -/
inductive Ending
  | closed (frame : Option CloseFrame)
  | broken (error : SocketError)
  | ended

namespace Ending

def happening : Ending → Happening
  | closed f => .closed f
  | broken e => .broken e
  | ended => .ended

def cause : Ending → Cause
  | closed f => .closed f
  | broken e => .failed e
  | ended => .ended

theorem frames_cause (e : Ending) : e.cause.frames = [] := by cases e <;> rfl

end Ending

inductive Network
  /-- no attempt comes to anything any more -/
  | silent
  | refused (error : SocketError) (rest : Network)
  /-- a socket that stays open -/
  | live (messages : List Message)
  | socket (messages : List Message) (ending : Ending) (rest : Network)

def Network.happenings : Network → List Happening
  | silent => []
  | refused e rest => .refused e :: .elapsed :: rest.happenings
  | live ms => .connected :: ms.map .received
  | socket ms ending rest =>
    .connected :: (ms.map .received ++ ending.happening :: .elapsed :: rest.happenings)

/-! ## what comes of it -/

/-- texts that are no frame bring nothing -/
def Message.frame? : Message → Option Frame
  | .text s => (Frame.decode s).toOption
  | .other => none

/-- up to the first frame of kind error, this one included -/
def throughError : List Frame → List Frame
  | [] => []
  | f :: fs => if f.kind = .error then [f] else f :: throughError fs

def passed (ms : List Message) : List Frame := throughError (ms.filterMap Message.frame?)

def refuses (ms : List Message) : Bool := (ms.filterMap Message.frame?).any (·.kind == .error)

/-- a further attempt, with one retry less, unless the cause is final or none is left -/
def retried {α : Type} (c : Cause) (left : Nat) (attempt : Nat → List α) : List α :=
  match c.isFinal, left with
  | false, left + 1 => attempt left
  | _, _ => []

/-- the sockets that are opened while so many retries are left; each one gives back the whole budget -/
def Network.socketsFrom (budget : Nat) : Nat → Network → List (List Message)
  | _, silent => []
  | left, refused e rest => retried (.failed e) left fun left => rest.socketsFrom budget left
  | _, live ms => [ms]
  | _, socket ms ending rest =>
    ms :: if refuses ms then []
      else retried ending.cause budget fun left => rest.socketsFrom budget left

def Network.sockets (p : Policy) (net : Network) : List (List Message) :=
  net.socketsFrom p.maxAttempts.toNat p.maxAttempts.toNat

/-- the event comes from an open socket -/
def Event.isLive : Event → Bool
  | .opened _ | .frame _ => true
  | _ => false

/-- `again` tells whether a socket has been open before -/
def told (again : Bool) : List (List Message) → List Event
  | [] => []
  | ms :: rest => .opened again :: (passed ms).map .frame ++ told true rest

def live (out : List Output) : List Event := (reported out).filter Event.isLive

theorem live_append (a b : List Output) : live (a ++ b) = live a ++ live b := by
  unfold live
  rw [reported_append, List.filter_append]

theorem live_of_finished {t : Task} (h : t.phase = .finished) (hs : List Happening) :
    live (t.run hs).2 = [] := by
  rw [Task.run_of_finished h]
  rfl

section
variable {m : Message} {f : Frame} (ms : List Message)

theorem passed_of_none (h : m.frame? = none) : passed (m :: ms) = passed ms := by
  unfold passed
  rw [List.filterMap_cons_none h]

theorem passed_of_some (h : m.frame? = some f) :
    passed (m :: ms) = if f.kind = .error then [f] else f :: passed ms := by
  unfold passed
  rw [List.filterMap_cons_some h, throughError]

theorem refuses_of_none (h : m.frame? = none) : refuses (m :: ms) = refuses ms := by
  unfold refuses
  rw [List.filterMap_cons_none h]

theorem refuses_of_some (h : m.frame? = some f) :
    refuses (m :: ms) = (f.kind == .error || refuses ms) := by
  unfold refuses
  rw [List.filterMap_cons_some h, List.any_cons]

end

/-! ## single happenings -/

namespace Task

/-- where a task stands on a network: in a phase, with some retries left -/
structure Stands (p : Policy) (left : Nat) (again : Bool) (phase : Phase) (t : Task) : Prop where
  phase : t.phase = phase
  policy : t.backoff.policy = p
  left : t.backoff.attempt.toNat + left = p.maxAttempts.toNat
  reconnected : t.reconnected = again

theorem stands_new (p : Policy) :
    (new p).Stands p p.maxAttempts.toNat false .connecting where
  phase := rfl
  policy := rfl
  left := Nat.zero_add _
  reconnected := rfl

section
variable {p : Policy} {left : Nat} {again : Bool} {phase : Phase} {t u : Task} {h : Happening}
  {v : List Event}

/-- a socket opens with all retries left -/
theorem Stands.opens (ht : t.Stands p left again .connecting) :
    (t.step .connected).1.Stands p p.maxAttempts.toNat true .pumping ∧
      live (t.step .connected).2 = [.opened again] := by
  have hs : t.step .connected = t.opened := by simp [step, ht.phase]
  rw [hs]
  refine ⟨⟨rfl, ht.policy, Nat.zero_add _, rfl⟩, ?_⟩
  show [Event.opened t.reconnected] = _
  rw [ht.reconnected]

theorem Stands.resumes (ht : t.Stands p left again .waiting) :
    (t.step .elapsed).1.Stands p left again .connecting ∧ live (t.step .elapsed).2 = [] := by
  have hs : t.step .elapsed = ({ t with phase := .connecting }, []) := by simp [step, ht.phase]
  rw [hs]
  exact ⟨⟨rfl, ht.policy, ht.left, ht.reconnected⟩, rfl⟩

theorem Stands.of_nothing (ht : t.Stands p left again .pumping) (hs : Takes t h u v)
    (hn : t.sense h = .nothing) : u.Stands p left again .pumping ∧ v = [] := by
  cases hs with
  | passes u _ hb hr hp =>
    have hu : u.phase = .pumping := by
      rcases hp with hp | ⟨hp, _⟩
      · exact hp.trans ht.phase
      · cases ht.phase.symm.trans hp
    exact ⟨⟨hu, by rw [hb, ht.policy], by rw [hb, ht.left], hr.trans ht.reconnected⟩, rfl⟩
  | opens hs | brings _ hs | rejects _ _ hs | retries _ _ hs | givesUp _ _ hs | stops hs =>
    rw [hs] at hn
    cases hn

theorem Takes.of_brings {f : Frame} (hs : Takes t h u v) (hb : t.sense h = .brings f) :
    u = t ∧ v = [.frame f] ∧ f.kind ≠ .error := by
  cases hs with
  | brings g hs hp hf =>
    obtain rfl := Sense.brings.inj (hs.symm.trans hb)
    exact ⟨rfl, rfl, hf⟩
  | passes _ hs | opens hs | rejects _ _ hs | retries _ _ hs | givesUp _ _ hs | stops hs =>
    rw [hs] at hb
    cases hb

/-- an end is followed by a retry, or by nothing -/
theorem Stands.of_ends {c : Cause} (ht : t.Stands p left again phase) (hs : Takes t h u v)
    (hc : t.sense h = .ends c) :
    v.filter Event.isLive = c.frames ∧
    (u.phase = .finished ∧ (c.isFinal = true ∨ left = 0) ∨
      ∃ n, c.isFinal = false ∧ left = n + 1 ∧ u.Stands p n again .waiting) := by
  have hl := ht.left
  cases hs with
  | passes _ hs | opens hs | brings _ hs | stops hs => rw [hs] at hc; cases hc
  | rejects d queue hs hp hf =>
    obtain rfl := Sense.ends.inj (hs.symm.trans hc)
    refine ⟨?_, .inl ⟨rfl, .inl hf⟩⟩
    cases d <;> rfl
  | retries d queue hs hp hf ha =>
    obtain rfl := Sense.ends.inj (hs.symm.trans hc)
    refine ⟨(frames_of_not_final hf).symm, .inr ⟨left - 1, hf, ?_⟩⟩
    have hk : (t.backoff.attempt + 1).toNat = t.backoff.attempt.toNat + 1 := toNat_succ ha
    rw [ht.policy] at ha
    have ha' : t.backoff.attempt.toNat < p.maxAttempts.toNat := UInt32.lt_iff_toNat_lt.mp ha
    refine ⟨by omega, rfl, ht.policy, ?_, ht.reconnected⟩
    show (t.backoff.attempt + 1).toNat + (left - 1) = _
    omega
  | givesUp d queue hs hp hf ha =>
    obtain rfl := Sense.ends.inj (hs.symm.trans hc)
    refine ⟨(frames_of_not_final hf).symm, .inl ⟨rfl, .inr ?_⟩⟩
    rw [ht.policy] at ha
    have ha' : p.maxAttempts.toNat ≤ t.backoff.attempt.toNat := UInt32.le_iff_toNat_le.mp ha
    omega

/-! ## one socket -/

theorem sense_received (hp : t.phase = .pumping) (m : Message) :
    t.sense (.received m) = match m.frame? with
      | some (.error message) => .ends (.refused message)
      | some f => .brings f
      | none => .nothing := by
  cases m with
  | other => simp [sense, hp, Message.frame?]
  | text text =>
    cases hd : Frame.decode text with
    | error e => simp [sense, hp, Message.frame?, hd, Except.toOption]
    | ok f => cases f <;> simp [sense, hp, Message.frame?, hd, Except.toOption]

/-- the frames of a socket are passed on in order; one of kind error is the last -/
theorem Stands.messages (ht : t.Stands p left again .pumping) (ms : List Message) :
    live (t.run (ms.map .received)).2 = (passed ms).map .frame ∧
    (if refuses ms then (t.run (ms.map .received)).1.phase = .finished
      else (t.run (ms.map .received)).1.Stands p left again .pumping) := by
  induction ms generalizing t with
  | nil => exact ⟨rfl, ht⟩
  | cons m ms ih =>
    have hs := t.takes (.received m)
    have hn := sense_received ht.phase m
    rw [List.map_cons, run_cons, live_append]
    cases hf : m.frame? with
    | none =>
      rw [hf] at hn
      obtain ⟨hu, hv⟩ := ht.of_nothing hs hn
      have hl : live (t.step (.received m)).2 = [] := by unfold live; rw [hv]; rfl
      rw [passed_of_none ms hf, refuses_of_none ms hf, hl]
      exact ih hu
    | some f =>
      rw [hf] at hn
      rw [passed_of_some ms hf, refuses_of_some ms hf]
      by_cases he : f.kind = .error
      · obtain ⟨message, rfl⟩ : ∃ message, f = .error message := by
          cases f with
          | error message => exact ⟨message, rfl⟩
          | console _ _ _ | stats _ | status _ => cases he
        obtain ⟨hv, hu⟩ := ht.of_ends hs hn
        have hu : (t.step (.received m)).1.phase = .finished :=
          hu.elim And.left fun ⟨_, hc, _⟩ => by cases hc
        rw [run_of_finished hu]
        exact ⟨(List.append_nil _).trans hv, hu⟩
      · have hb : t.sense (.received m) = .brings f := by
          cases f with
          | error message => exact absurd rfl he
          | console _ _ _ | stats _ | status _ => exact hn
        obtain ⟨hu, hv, _⟩ := hs.of_brings hb
        have hl : live (t.step (.received m)).2 = [.frame f] := by unfold live; rw [hv]; rfl
        have hk : (f.kind == .error) = false := beq_false_of_ne he
        rw [if_neg he, hk, Bool.false_or, hl, hu]
        obtain ⟨h1, h2⟩ := ih ht
        exact ⟨by rw [h1]; rfl, h2⟩

/-! ## one attempt after the other -/

/-- what follows an end that is not told by a frame -/
theorem Stands.live_of_ends {c : Cause} {hs : List Happening} {attempt : Nat → List (List Message)}
    (ht : t.Stands p left again phase) (hc : t.sense h = .ends c) (hf : c.frames = [])
    (ih : ∀ n (u : Task), u.Stands p n again .connecting → live (u.run hs).2 = told again (attempt n)) :
    live (t.run (h :: .elapsed :: hs)).2 = told again (retried c left attempt) := by
  obtain ⟨hv, hu⟩ := ht.of_ends (t.takes h) hc
  rw [run_cons, live_append, show live (t.step h).2 = [] from hv.trans hf, List.nil_append]
  rcases hu with ⟨hu, hn⟩ | ⟨n, hfin, rfl, hu⟩
  · have hr : retried c left attempt = [] := by
      rcases hn with hn | rfl
      · simp [retried, hn]
      · unfold retried
        split <;> trivial
    rw [live_of_finished hu, hr]
    rfl
  · obtain ⟨hu, hl⟩ := hu.resumes
    rw [run_cons, live_append, hl, List.nil_append, ih n _ hu]
    simp [retried, hfin]

theorem Stands.sense_ending (ht : t.Stands p left again .pumping) (e : Ending) :
    t.sense e.happening = .ends e.cause := by
  cases e <;> simp [sense, ht.phase, Ending.happening, Ending.cause]

theorem Stands.network (ht : t.Stands p left again .connecting) (net : Network) :
    live (t.run net.happenings).2 = told again (net.socketsFrom p.maxAttempts.toNat left) := by
  induction net generalizing t left again with
  | silent => rfl
  | refused e rest ih =>
    have hc : t.sense (.refused e) = .ends (.failed e) := by simp [sense, ht.phase]
    exact ht.live_of_ends hc rfl fun n u hu => ih hu
  | live ms =>
    obtain ⟨hu, hl⟩ := ht.opens
    rw [Network.happenings, run_cons, live_append, hl, (hu.messages ms).1]
    exact (List.append_nil _).symm
  | socket ms ending rest ih =>
    obtain ⟨hu, hl⟩ := ht.opens
    obtain ⟨hm, hend⟩ := hu.messages ms
    rw [Network.happenings, run_cons, live_append, hl, run_append, live_append, hm,
      ← List.append_assoc, Network.socketsFrom, told]
    refine congrArg _ ?_
    by_cases hr : refuses ms = true
    · rw [if_pos hr] at hend ⊢
      exact live_of_finished hend _
    · rw [if_neg hr] at hend ⊢
      exact hend.live_of_ends (hend.sense_ending ending) ending.frames_cause fun n v hv => ih hv

end

end Task

/-- **Sockets and their frames.** On every network the task reports, of open sockets, exactly this:
that each is open, the first as the first and each later one as a further one, and then the frames
it brings, in order, up to the first of kind error. -/
theorem told_of_network (p : Policy) (net : Network) :
    (Task.reports p net.happenings).filter Event.isLive = told false (net.sockets p) :=
  (Task.stands_new p).network net

end ServerConsole.Link
