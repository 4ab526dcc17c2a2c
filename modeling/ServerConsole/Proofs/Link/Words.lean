import ServerConsole.Proofs.Link.Reports

/-!
# The words a task can report

Each attempt opens a socket, which brings frames, or it does not; in the end it is refused for good,
or it is lost, and then a retry is announced or the task gives up.

* `opens`, `retries`  what a word tells: whether a socket has been open, and the retries since;
* `Word`              the words, with the phase of the task they end in;
* `Task.Tells`        the task agrees with the word it has reported; every step keeps this;
* `Takes.mem_…`       which event comes with which happening;
* `word_of_run`       the events of every run.
-/

namespace ServerConsole.Link

/-! ## definitions -/

def Event.isOpened : Event → Bool
  | .opened _ => true
  | _ => false

def Event.isRetry : Event → Bool
  | .reconnecting _ _ => true
  | _ => false

/-- the last event of a task -/
def Event.isLast : Event → Bool
  | .rejected _ | .gaveUp _ | .closed => true
  | _ => false

/-- a socket has been open -/
def opens (w : List Event) : Bool := w.any Event.isOpened

/-- the retries announced since a socket was opened, or since the start -/
def retries (w : List Event) : Nat :=
  (w.reverse.takeWhile fun e => !e.isOpened).countP Event.isRetry

inductive Word (p : Policy) : Phase → List Event → Prop
  | start : Word p .connecting []
  | opened {w : List Event} (h : Word p .connecting w) : Word p .pumping (w ++ [.opened (opens w)])
  | frame {w : List Event} (h : Word p .pumping w) (f : Frame) (hf : f.kind ≠ .error) :
      Word p .pumping (w ++ [.frame f])
  | rejected {phase : Phase} {w : List Event} (h : Word p phase w)
      (hp : phase = .pumping ∨ phase = .connecting) (reason : String) :
      Word p .finished (w ++ [.rejected reason])
  /-- a frame of kind error is passed on, and ends the word -/
  | refused {w : List Event} (h : Word p .pumping w) (message : String) :
      Word p .finished (w ++ [.frame (.error message), .rejected message])
  | retried {phase : Phase} {w : List Event} (h : Word p phase w)
      (hp : phase = .pumping ∨ phase = .connecting) (reason : String) (k : UInt32)
      (hk : k.toNat = retries w + 1) (hm : k ≤ p.maxAttempts) :
      Word p .waiting (w ++ [.lost reason, .reconnecting k (p.delayFor k)])
  /-- the next attempt begins -/
  | resumed {w : List Event} (h : Word p .waiting w) : Word p .connecting w
  | gaveUp {phase : Phase} {w : List Event} (h : Word p phase w)
      (hp : phase = .pumping ∨ phase = .connecting) (reason : String)
      (hk : retries w = p.maxAttempts.toNat) :
      Word p .finished (w ++ [.lost reason, .gaveUp p.maxAttempts])
  | closed {phase : Phase} {w : List Event} (h : Word p phase w) (hp : phase ≠ .finished) :
      Word p .finished (w ++ [.closed])

/-! ## what a word tells -/

theorem opens_append (w v : List Event) : opens (w ++ v) = (opens w || opens v) :=
  List.any_append

theorem retries_opened (w : List Event) (r : Bool) : retries (w ++ [.opened r]) = 0 := by
  simp [retries, Event.isOpened]

theorem opens_of_none (w : List Event) {v : List Event} (h : ∀ e ∈ v, e.isOpened = false) :
    opens (w ++ v) = opens w := by
  have hv : opens v = false := List.any_eq_false.mpr fun e he => by simp [h e he]
  rw [opens_append, hv, Bool.or_false]

theorem retries_append (w : List Event) {v : List Event} (h : ∀ e ∈ v, e.isOpened = false) :
    retries (w ++ v) = retries w + v.countP Event.isRetry := by
  have hv : ∀ e ∈ v.reverse, (!e.isOpened) = true := by
    intro e he
    rw [h e (List.mem_reverse.mp he)]
    rfl
  unfold retries
  rw [List.reverse_append, List.takeWhile_append_of_pos hv, List.countP_append, List.countP_reverse,
    Nat.add_comm]

theorem any_isLast_of_append {w es : List Event} (h : (w ++ es).any Event.isLast = true)
    (he : es.any Event.isLast = false) : w.any Event.isLast = true := by
  rwa [List.any_append, he, Bool.or_false] at h

/-- a last event ends the word -/
theorem Word.finished_of_last {p : Policy} {phase : Phase} {w : List Event} (h : Word p phase w)
    (hl : w.any Event.isLast = true) : phase = .finished := by
  induction h with
  | start => cases hl
  | opened h ih => cases ih (any_isLast_of_append hl rfl)
  | frame h f hf ih => cases ih (any_isLast_of_append hl rfl)
  | retried h hp reason k hk hm ih =>
    have hf := ih (any_isLast_of_append hl rfl)
    rcases hp with hp | hp <;> cases hp.symm.trans hf
  | resumed h ih => cases ih hl
  | rejected | refused | gaveUp | closed => rfl

/-! ## the task and its word -/

namespace Task

structure Tells (p : Policy) (t : Task) (w : List Event) : Prop where
  word : Word p t.phase w
  policy : t.backoff.policy = p
  attempt : t.backoff.attempt.toNat = retries w
  budget : t.backoff.attempt ≤ p.maxAttempts
  reconnected : t.reconnected = opens w

theorem tells_new (p : Policy) : (new p).Tells p [] where
  word := .start
  policy := rfl
  attempt := rfl
  budget := UInt32.zero_le
  reconnected := rfl

/-- what a step tells without opening a socket -/
theorem Tells.append {p : Policy} {t u : Task} {w v : List Event} (ht : t.Tells p w)
    (hv : ∀ e ∈ v, e.isOpened = false) (hw : Word p u.phase (w ++ v))
    (hp : u.backoff.policy = t.backoff.policy) (hr : u.reconnected = t.reconnected)
    (ha : u.backoff.attempt.toNat = t.backoff.attempt.toNat + v.countP Event.isRetry)
    (hb : u.backoff.attempt ≤ p.maxAttempts) : u.Tells p (w ++ v) where
  word := hw
  policy := hp.trans ht.policy
  attempt := by rw [ha, retries_append w hv, ht.attempt]
  budget := hb
  reconnected := by rw [hr, opens_of_none w hv, ht.reconnected]

/-- every step keeps the task and its word in agreement -/
theorem tells_of_takes {p : Policy} {t u : Task} {w v : List Event} {h : Happening}
    (ht : t.Tells p w) (hs : Takes t h u v) : u.Tells p (w ++ v) := by
  have hw := ht.word
  cases hs with
  | passes u hs hb hr hp =>
    refine ht.append nofun ?_ (by rw [hb]) hr (by rw [hb]; rfl) (hb ▸ ht.budget)
    rw [List.append_nil]
    rcases hp with hp | ⟨hp, hu⟩
    · exact hp ▸ hw
    · rw [hp] at hw
      exact hu ▸ hw.resumed
  | opens hs hp =>
    rw [hp] at hw
    rw [ht.reconnected]
    refine ⟨hw.opened, ht.policy, (retries_opened w _).symm, UInt32.zero_le, ?_⟩
    rw [opens_append]
    exact (Bool.or_true _).symm
  | brings f hs hp hf =>
    rw [hp] at hw
    exact ht.append (by simp [Event.isOpened]) (hp ▸ hw.frame f hf) rfl rfl rfl ht.budget
  | rejects c queue hs hp hc =>
    have hv : Word p .finished (w ++ (c.frames ++ [.rejected c.verdict.reason])) := by
      cases c with
      | refused message =>
        have hp' : t.phase = .pumping := hp.resolve_right (fun h => by cases h.2)
        rw [hp'] at hw
        exact hw.refused message
      | failed _ | closed _ | ended => exact hw.rejected (hp.imp_right And.left) _
    have hq : ∀ e ∈ c.frames ++ [.rejected c.verdict.reason], e.isOpened = false ∧ e.isRetry = false := by
      cases c <;> simp [Cause.frames, Event.isOpened, Event.isRetry]
    refine ht.append (fun e he => (hq e he).1) hv rfl rfl ?_ ht.budget
    rw [List.countP_eq_zero.mpr fun e he => by simp [(hq e he).2]]
    rfl
  | retries c queue hs hp hc ha =>
    have hk : (t.backoff.attempt + 1).toNat = t.backoff.attempt.toNat + 1 := toNat_succ ha
    have hm : t.backoff.attempt + 1 ≤ p.maxAttempts := by
      rw [ht.policy] at ha
      rw [UInt32.le_iff_toNat_le, hk]
      exact UInt32.lt_iff_toNat_lt.mp ha
    rw [ht.policy]
    exact ht.append (by simp [Event.isOpened])
      (hw.retried hp _ _ (hk.trans (by rw [ht.attempt])) hm) ht.policy.symm rfl hk hm
  | givesUp c queue hs hp hc ha =>
    rw [ht.policy] at ha
    have he : t.backoff.attempt = p.maxAttempts := UInt32.le_antisymm ht.budget ha
    rw [he]
    exact ht.append (by simp [Event.isOpened])
      (hw.gaveUp hp _ (by rw [← ht.attempt, he])) rfl rfl rfl ht.budget
  | stops hs hp =>
    exact ht.append (by simp [Event.isOpened]) (hw.closed hp) rfl rfl rfl ht.budget

theorem tells_run {p : Policy} {t : Task} {w : List Event} (ht : t.Tells p w)
    (hs : List Happening) : (t.run hs).1.Tells p (w ++ reported (t.run hs).2) := by
  induction hs generalizing t w with
  | nil => simpa [run_nil, reported] using ht
  | cons h hs ih =>
    rw [run_cons, reported_append, ← List.append_assoc]
    exact ih (tells_of_takes ht (t.takes h))

theorem tells_after (p : Policy) (hs : List Happening) : (after p hs).Tells p (reports p hs) :=
  tells_run (tells_new p) hs

/-! ## which event comes with which happening -/

section
variable {t u : Task} {h : Happening} {v : List Event}

theorem Takes.mem_opened (hs : Takes t h u v) (r : Bool) :
    .opened r ∈ v ↔ t.sense h = .opens ∧ r = t.reconnected := by
  cases hs with
  | rejects c _ hs => cases c <;> simp [hs, Cause.frames]
  | passes _ hs | opens hs | brings _ hs | retries _ _ hs | givesUp _ _ hs | stops hs => simp [hs]

theorem Takes.mem_rejected (hs : Takes t h u v) (reason : String) :
    .rejected reason ∈ v ↔
      ∃ c, t.sense h = .ends c ∧ c.isFinal = true ∧ c.verdict.reason = reason := by
  cases hs with
  | rejects c _ hs hp hc => cases c <;> simp_all [Cause.frames, @eq_comm _ reason]
  | passes _ hs | opens hs | brings _ hs | stops hs => simp [hs]
  | retries _ _ hs _ hc | givesUp _ _ hs _ hc => simp [hs, hc]

theorem Takes.mem_lost (hs : Takes t h u v) (reason : String) :
    .lost reason ∈ v ↔
      ∃ c, t.sense h = .ends c ∧ c.isFinal = false ∧ c.verdict.reason = reason := by
  cases hs with
  | rejects c _ hs hp hc => cases c <;> simp_all [Cause.frames]
  | passes _ hs | opens hs | brings _ hs | stops hs => simp [hs]
  | retries _ _ hs _ hc | givesUp _ _ hs _ hc => simp [hs, hc, @eq_comm _ reason]

theorem Takes.mem_closed (hs : Takes t h u v) : .closed ∈ v ↔ t.sense h = .stops := by
  cases hs with
  | rejects c _ hs => cases c <;> simp [hs, Cause.frames]
  | passes _ hs | opens hs | brings _ hs | retries _ _ hs | givesUp _ _ hs | stops hs => simp [hs]

end

end Task

/-! ## every run -/

/-- **The events of a task.** After any happenings in any order, ill-timed ones and the owner's wish to
stop included, the events reported form a word that fits the phase. Nothing follows a refusal, the
end of the retries or the stop, and no attempt is made any more; a delay that is over starts the next
attempt. The next happening adds an opened socket exactly if the attempt under way opens one, a
refusal exactly if it ends an attempt or a socket for a final cause, a loss exactly if it ends one
for another cause, and the stop exactly if it cancels a task that has not finished. -/
theorem word_of_run (p : Policy) (hs : List Happening) :
    let t := Task.after p hs
    let w := Task.reports p hs
    Word p t.phase w ∧
    (w.any Event.isLast = true → ∀ more,
      Task.reports p (hs ++ more) = w ∧ (Task.after p (hs ++ more)).phase = .finished) ∧
    (t.phase = .waiting → (Task.after p (hs ++ [.elapsed])).phase = .connecting) ∧
    ∀ h, ∃ v, Task.reports p (hs ++ [h]) = w ++ v ∧
      (∀ r, .opened r ∈ v ↔ t.sense h = .opens ∧ r = opens w) ∧
      (∀ reason, .rejected reason ∈ v ↔
        ∃ c, t.sense h = .ends c ∧ c.isFinal = true ∧ c.verdict.reason = reason) ∧
      (∀ reason, .lost reason ∈ v ↔
        ∃ c, t.sense h = .ends c ∧ c.isFinal = false ∧ c.verdict.reason = reason) ∧
      (.closed ∈ v ↔ t.sense h = .stops) := by
  intro t w
  have ht : t.Tells p w := Task.tells_after p hs
  refine ⟨ht.word, fun hl more => ?_, fun hp => ?_, fun h => ?_⟩
  · have hf : t.phase = .finished := ht.word.finished_of_last hl
    rw [Task.reports_append, Task.after_append, Task.run_of_finished hf]
    exact ⟨List.append_nil _, hf⟩
  · rw [Task.after_append, Task.run_singleton]
    show (t.step .elapsed).1.phase = _
    simp [Task.step, hp]
  · have hs := t.takes h
    refine ⟨reported (t.step h).2, ?_, fun r => ?_, hs.mem_rejected, hs.mem_lost, hs.mem_closed⟩
    · rw [Task.reports_append, Task.run_singleton]
    · rw [hs.mem_opened, ht.reconnected]

/-- one retry is allowed: it is counted anew behind the socket -/
example :
    Task.reports ⟨1000, 5000, 1⟩ [.refused .reset, .elapsed, .connected, .ended, .elapsed, .refused .reset] =
      [.lost SocketError.reset.message, .reconnecting 1 1000, .opened false, .lost "stream ended",
        .reconnecting 1 1000, .lost SocketError.reset.message, .gaveUp 1] := rfl

end ServerConsole.Link
