import ServerConsole.Proofs.App.Run
import ServerConsole.Proofs.Session.Lines
import ServerConsole.Screen.Draw

/-!
# What the console pane shows

Lines are told apart by their numbers: a line's number is its place among all lines that ever came in.

* `App.gained`      the lines that the steps of a run put into the log;
* `Log.numbered`, `App.shown`  the lines held, and the lines shown, with their numbers;
* `consoleLines_eq`  what the pane is drawn from;
* `Stands`          what holds of an app after any steps; the lines held and the lines shown are then
                    those of all lines with certain numbers (`Stands.numbered_eq`, `Stands.shown_eq`);
* `shown_of_anchored`, `shown_of_same_scroll_iff`  a view that moves with the line that comes in, and one
                    that does not;
* `view_follows`    a scrolled view stays where it is when an event comes in;
* `key_keeps_view_iff`  it stays where it is at a key exactly if the key is not refused for want of a
                    permission, cases apart in which there is nothing to see of it.
-/

namespace ServerConsole

/-! ## numbers -/

section
variable {α : Type}

theorem drop_zipIdx_eq_filter (l : List α) (n i : Nat) :
    (l.zipIdx n).drop i = (l.zipIdx n).filter (fun p => decide (n + i ≤ p.2)) := by
  induction l generalizing n i with
  | nil => rw [List.zipIdx_nil, List.drop_nil, List.filter_nil]
  | cons x l ih =>
    cases i with
    | zero =>
      refine (List.filter_eq_self.mpr fun p hp => ?_).symm
      exact decide_eq_true (List.le_snd_of_mem_zipIdx hp)
    | succ i =>
      have hn : n + 1 + i = n + (i + 1) := by omega
      rw [List.zipIdx_cons, List.drop_succ_cons, ih, hn]
      simp

theorem take_zipIdx_eq_filter (l : List α) (n j : Nat) :
    (l.zipIdx n).take j = (l.zipIdx n).filter (fun p => decide (p.2 < n + j)) := by
  induction l generalizing n j with
  | nil => rw [List.zipIdx_nil, List.take_nil, List.filter_nil]
  | cons x l ih =>
    cases j with
    | zero =>
      refine (List.filter_eq_nil_iff.mpr fun p hp => ?_).symm
      have := List.le_snd_of_mem_zipIdx hp
      simpa using this
    | succ j =>
      have hn : n + 1 + j = n + (j + 1) := by omega
      rw [List.zipIdx_cons, List.take_succ_cons, ih, hn]
      simp

theorem zipIdx_drop (l : List α) (n i : Nat) : (l.drop i).zipIdx (n + i) = (l.zipIdx n).drop i := by
  induction l generalizing n i with
  | nil => rw [List.drop_nil, List.zipIdx_nil, List.zipIdx_nil, List.drop_nil]
  | cons x l ih =>
    cases i with
    | zero => rfl
    | succ i =>
      rw [List.drop_succ_cons, List.zipIdx_cons, List.drop_succ_cons, ← ih, Nat.add_right_comm,
        Nat.add_assoc]

/-- a piece of a numbered list is told by the numbers -/
theorem slice_zipIdx (l : List α) (i n : Nat) :
    ((l.zipIdx).drop i).take n = l.zipIdx.filter (fun p => decide (i ≤ p.2 ∧ p.2 < i + n)) := by
  have hd : l.zipIdx.drop i = (l.drop i).zipIdx i := by
    rw [← zipIdx_drop, Nat.zero_add]
  rw [hd, take_zipIdx_eq_filter, ← hd, drop_zipIdx_eq_filter, List.filter_filter]
  refine List.filter_congr fun p _ => ?_
  rw [Nat.zero_add, Bool.decide_and, Bool.and_comm]

end

namespace Log

/-- the lines held, each with its place among all lines that came in, `count` in number -/
def numbered (log : Log) (count : Nat) : List (LogLine × Nat) := log.toList.zipIdx (count - log.size)

theorem length_numbered (log : Log) (count : Nat) : (log.numbered count).length = log.size := by
  unfold numbered
  rw [List.length_zipIdx, length_toList]

/-- the lines held are those of the last numbers -/
theorem numbered_appendAll_new (c : Nat) (lines : List LogLine) :
    ((withCapacity c).appendAll lines).numbered lines.length =
      lines.zipIdx.drop (lines.length - max c 1) := by
  have hn : lines.length - min lines.length (max c 1) = 0 + (lines.length - max c 1) := by omega
  unfold numbered
  rw [size_appendAll_new, toList_appendAll_new, hn, zipIdx_drop]

theorem added_appendAll {log : Log} (h : log.appended + 1 ≠ 0) (l : Option LogLine) :
    added log (log.appendAll l.toList) = l.toList.length := by
  cases l with
  | none => exact Nat.sub_self _
  | some l =>
    have hn : log.appended.toNat + 1 < UInt64.size := by
      have hb := log.appended.toNat_lt_size
      have h0 : (log.appended + 1).toNat ≠ 0 := fun h0 => h (UInt64.toNat_inj.mp h0)
      rw [UInt64.toNat_add, UInt64.toNat_one] at h0
      have hs : UInt64.size = 2 ^ 64 := rfl
      omega
    show (log.appended + 1).toNat - log.appended.toNat = 1
    rw [UInt64.toNat_add, UInt64.toNat_one, Nat.mod_eq_of_lt hn, Nat.add_sub_cancel_left]

end Log

namespace App

/-! ## definitions -/

/-- the lines that a list of steps puts into the log -/
def gained (a : App) : List Step → List LogLine
  | [] => []
  | x :: xs => (a.session.line? (a.input x)).toList ++ (a.step x).gained xs

/-- the lines in the pane, numbered as in `Log.numbered` -/
def shown (a : App) (count height : Nat) : List (LogLine × Nat) :=
  let (start, stop) := a.visible height
  ((a.session.log.numbered count).drop start).take (stop - start)

/-- a key whose act the operator lacks the permission for; blanks need none -/
def denied (a : App) : KeyAction → Bool
  | .submit => !Text.isBlankText a.editor.text && !a.session.can Grant.consoleWrite
  | .power action => !a.session.can (a.session.amounts action).permission
  | _ => false

theorem shown_fst (a : App) (count height : Nat) : (a.shown count height).map Prod.fst =
    (a.session.log.toList.drop (a.visible height).1).take
      ((a.visible height).2 - (a.visible height).1) := by
  unfold shown Log.numbered
  rw [List.map_take, List.map_drop, List.zipIdx_map_fst]

/-- what the pane is drawn from is what is shown -/
theorem consoleLines_eq (a : App) (count height : Nat) :
    Screen.consoleLines a height = (a.shown count height).map fun p => Screen.logLine p.1 := by
  unfold Screen.consoleLines
  dsimp only
  rw [← a.shown_fst count, List.map_map]
  rfl

/-! ## what holds after any steps -/

/-- an app after all `lines` have come in -/
structure Stands (a : App) (scrollback : Nat) (lines : List LogLine) : Prop where
  opened : a.session.closed = false
  log : a.session.log = (Log.withCapacity scrollback).appendAll lines
  scroll : a.scroll ≤ a.session.log.size

/-- the keys that leave the offset alone -/
theorem scroll_act {a : App} {k : KeyAction} (hu : k ≠ .scrollUp) (hd : k ≠ .scrollDown)
    (hn : ¬ (k = .submit ∧ (a.session.submit a.editor.text).result = .ok ())) :
    (a.act k).1.scroll = a.scroll := by
  cases k with
  | submit =>
    show a.submit.1.scroll = _
    cases hr : (a.session.submit a.editor.text).result with
    | ok _ => exact absurd ⟨rfl, hr⟩ hn
    | error failure => rw [submit_of_error hr, scroll_report]
  | power action =>
    obtain ⟨_, hr⟩ := a.request_eq action
    show (a.request action).1.scroll = _
    rw [hr]
  | scrollUp => exact absurd rfl hu
  | scrollDown => exact absurd rfl hd
  | historyOlder | historyNewer | quit | edit _ | none => rfl

theorem scroll_act_le {a : App} (h : a.scroll ≤ a.session.log.size) (k : KeyAction) :
    (a.act k).1.scroll ≤ a.session.log.size := by
  by_cases hu : k = .scrollUp
  · rw [hu]
    exact Nat.min_le_right _ _
  by_cases hd : k = .scrollDown
  · rw [hd]
    exact Nat.le_trans (Nat.sub_le _ _) h
  by_cases hn : k = .submit ∧ (a.session.submit a.editor.text).result = .ok ()
  · rw [hn.1]
    show a.submit.1.scroll ≤ _
    rw [submit_of_ok hn.2]
    exact Nat.zero_le _
  · rw [scroll_act hu hd hn]
    exact h

theorem scroll_received_le (a : App) (e : Session.Event) (h : a.scroll ≤ a.session.log.size) :
    (a.received e).1.scroll ≤ (a.received e).1.session.log.size := by
  by_cases ha : a.session.awaits e = true
  · rw [received_of_awaits ha]
    show anchored a.scroll _ _ ≤ _
    unfold anchored
    split
    · exact Nat.zero_le _
    · exact Nat.min_le_right _ _
  · rw [received_of_not_awaits ha]
    exact h

theorem log_step {a : App} (ho : a.session.closed = false) (x : Step) :
    (a.step x).session.log = a.session.log.appendAll (a.session.line? (a.input x)).toList := by
  rw [session_step, Session.log_feed ho (a.input_ne_close x)]

theorem gained_append (a : App) (xs : List Step) (x : Step) : a.gained (xs ++ [x]) =
    a.gained xs ++ ((a.run xs).session.line? ((a.run xs).input x)).toList := by
  induction xs generalizing a with
  | nil => exact List.append_nil _
  | cons y ys ih =>
    show _ ++ (a.step y).gained (ys ++ [x]) = _
    rw [ih, ← List.append_assoc]
    rfl

namespace Stands

variable {a b : App} {c : Nat} {lines more : List LogLine}

theorem size (h : Stands a c lines) : a.session.log.size = min lines.length (max c 1) := by
  rw [h.log, Log.size_appendAll_new]

theorem step (h : Stands a c lines) (x : Step) :
    Stands (a.step x) c (lines ++ (a.session.line? (a.input x)).toList) := by
  have hl : (a.step x).session.log =
      (Log.withCapacity c).appendAll (lines ++ (a.session.line? (a.input x)).toList) := by
    rw [log_step h.opened, h.log, ← Log.appendAll_append]
  -- no step makes room, so what was within the log still is
  have hm : a.session.log.size ≤ (a.step x).session.log.size := by
    rw [h.size, hl, Log.size_appendAll_new, List.length_append]
    omega
  refine ⟨(a.closed_step x).trans h.opened, hl, ?_⟩
  cases x with
  | terminal e =>
    cases e with
    | key key =>
      obtain ⟨message, hp⟩ := a.exists_pressed key
      refine Nat.le_trans ?_ hm
      show (a.pressed key).1.scroll ≤ _
      rw [hp]
      exact scroll_act_le (a := { a with message := message }) h.scroll key.meaning
    | paste _ | resize | tick => exact h.scroll
  | event e => exact a.scroll_received_le e h.scroll
  | detach | relabel _ => exact h.scroll

theorem run (h : Stands a c lines) (xs : List Step) : Stands (a.run xs) c (lines ++ a.gained xs) := by
  induction xs generalizing a lines with
  | nil =>
    have hn : lines ++ a.gained [] = lines := List.append_nil lines
    rw [hn]
    exact h
  | cons x xs ih =>
    have hn : lines ++ a.gained (x :: xs) =
        lines ++ (a.session.line? (a.input x)).toList ++ (a.step x).gained xs :=
      (List.append_assoc _ _ _).symm
    rw [run_cons, hn]
    exact ih (h.step x)

theorem new (o : Session.Opening) : Stands (App.new o.session) o.scrollback [] := by
  obtain ⟨_, _, _, h⟩ := o.session_frame
  refine ⟨?_, Desk.log_new o, Nat.zero_le _⟩
  show o.session.closed = false
  rw [h]
  rfl

theorem numbered_eq (h : Stands a c lines) : a.session.log.numbered lines.length =
    lines.zipIdx.filter (fun p => decide (lines.length - max c 1 ≤ p.2)) := by
  rw [h.log, Log.numbered_appendAll_new, drop_zipIdx_eq_filter, Nat.zero_add]

theorem shown_eq (h : Stands a c lines) (height : Nat) :
    a.shown lines.length height = lines.zipIdx.filter (fun p => decide
      (lines.length - max c 1 ≤ p.2 ∧ lines.length - a.scroll - height ≤ p.2 ∧
        p.2 < lines.length - a.scroll)) := by
  have hs := h.size
  have hw := h.scroll
  show ((a.session.log.numbered lines.length).drop (a.session.log.size - a.scroll - height)).take
    (a.session.log.size - a.scroll - (a.session.log.size - a.scroll - height)) = _
  rw [h.log, Log.numbered_appendAll_new, ← h.log, List.drop_drop, slice_zipIdx]
  refine List.filter_congr fun p _ => decide_eq_decide.mpr ?_
  omega

/-- of the lines shown before, those still held are told by their numbers -/
theorem filter_shown (h : Stands a c lines) (hb : Stands b c (lines ++ more)) (height : Nat) :
    (a.shown lines.length height).filter
        (fun p => decide (p ∈ b.session.log.numbered (lines ++ more).length)) =
      lines.zipIdx.filter (fun p => decide
        ((lines ++ more).length - max c 1 ≤ p.2 ∧ lines.length - a.scroll - height ≤ p.2 ∧
          p.2 < lines.length - a.scroll)) := by
  rw [h.shown_eq, hb.numbered_eq, List.filter_filter]
  refine List.filter_congr fun p hp => ?_
  have hm : p ∈ (lines ++ more).zipIdx := by
    rw [List.zipIdx_append]
    exact List.mem_append_left _ hp
  rw [← Bool.decide_and, decide_eq_decide, List.mem_filter, decide_eq_true_iff, List.length_append]
  constructor
  · rintro ⟨⟨_, h1⟩, _, h2⟩
    exact ⟨h1, h2⟩
  · rintro ⟨h1, h2⟩
    exact ⟨⟨hm, h1⟩, by omega, h2⟩

/-- when the lines that came in last are below the pane, it shows some of those before -/
theorem shown_eq_of_below (h : Stands b c (lines ++ more))
    (hs : (lines ++ more).length - b.scroll ≤ lines.length) (height : Nat) :
    b.shown (lines ++ more).length height = lines.zipIdx.filter (fun p => decide
      ((lines ++ more).length - max c 1 ≤ p.2 ∧ (lines ++ more).length - b.scroll - height ≤ p.2 ∧
        p.2 < (lines ++ more).length - b.scroll)) := by
  rw [h.shown_eq, List.zipIdx_append, List.filter_append]
  refine (congrArg _ (List.filter_eq_nil_iff.mpr fun p hp => ?_)).trans (List.append_nil _)
  have := List.le_snd_of_mem_zipIdx hp
  rw [decide_eq_true_iff]
  omega

/-- a view that moves with the line that comes in shows what it showed -/
theorem shown_of_anchored (h : Stands a c lines) (hb : Stands b c (lines ++ more))
    (hw : 0 < a.scroll) (hm : more.length ≤ 1)
    (hs : b.scroll = anchored a.scroll more.length b.session.log.size) (height : Nat) :
    b.shown (lines ++ more).length height = (a.shown lines.length height).filter
      (fun p => decide (p ∈ b.session.log.numbered (lines ++ more).length)) := by
  have hn : (lines ++ more).length = lines.length + more.length := List.length_append
  have hsize := h.size
  have hscroll := h.scroll
  rw [anchored, if_neg hw.ne', hb.size] at hs
  rw [h.filter_shown hb, hb.shown_eq_of_below (by omega)]
  refine List.filter_congr fun p _ => decide_eq_decide.mpr ?_
  omega

/-- a view that stays at its offset while one line comes in keeps what it shows in two cases only: the
pane has no rows, or it is above the first line of a full log -/
theorem shown_of_same_scroll_iff {l : LogLine} (h : Stands a c lines) (hb : Stands b c (lines ++ [l]))
    (hw : 0 < a.scroll) (hs : b.scroll = a.scroll) (height : Nat) :
    b.shown (lines ++ [l]).length height = (a.shown lines.length height).filter
        (fun p => decide (p ∈ b.session.log.numbered (lines ++ [l]).length)) ↔
      height = 0 ∨ (a.session.log.size = a.session.log.capacity ∧ a.scroll = a.session.log.size) := by
  have hn : (lines ++ [l]).length = lines.length + 1 := List.length_append
  have hsize := h.size
  have hscroll := h.scroll
  have hcap : a.session.log.capacity = max c 1 := by
    rw [h.log]
    exact Log.capacity_appendAll _ _
  rw [h.filter_shown hb, hb.shown_eq_of_below (by omega)]
  constructor
  · intro he
    by_contra hno
    -- the line that moves into the pane from below
    have hi : lines.length - a.scroll < lines.length := by omega
    have hp : (lines[lines.length - a.scroll], lines.length - a.scroll) ∈ lines.zipIdx :=
      List.mk_mem_zipIdx_iff_getElem?.mpr (List.getElem?_eq_getElem hi)
    have hm := congrArg ((lines[lines.length - a.scroll], lines.length - a.scroll) ∈ ·) he
    simp only [List.mem_filter, hp, true_and, decide_eq_true_iff, eq_iff_iff] at hm
    omega
  · intro he
    refine List.filter_congr fun p _ => decide_eq_decide.mpr ?_
    omega

end Stands

/-! ## events -/

/-- the offset moves with what comes in, unless the view follows the output -/
theorem scroll_received {a : App} (ho : a.session.closed = false) (hs : a.scroll ≤ a.session.log.size)
    (hc : a.session.log.appended + 1 ≠ 0) (e : Session.Event) :
    (a.received e).1.scroll = anchored a.scroll
      (a.session.line? (a.input (.event e))).toList.length (a.received e).1.session.log.size := by
  by_cases ha : a.session.awaits e = true
  · have hl : (a.received e).1.session.log = _ := log_step ho (.event e)
    rw [← Log.added_appendAll hc, ← hl, received_of_awaits ha]
    rfl
  · have hn : a.session.line? (a.input (.event e)) = none := by
      cases e with
      | link e => exact if_neg ha
      | power c =>
        -- a completion is waited for as long as the session is open
        have hw : a.session.awaits (.power c) = true := by
          show (!a.session.closed) = true
          rw [ho]
          rfl
        exact absurd hw ha
    rw [hn, received_of_not_awaits ha]
    unfold anchored
    split
    · next h0 => exact h0
    · exact (Nat.min_eq_left hs).symm

theorem scroll_received_of_bottom {a : App} (h : a.scroll = 0) (e : Session.Event) :
    (a.received e).1.scroll = 0 := by
  by_cases ha : a.session.awaits e = true
  · rw [received_of_awaits ha]
    exact if_pos h
  · rw [received_of_not_awaits ha]
    exact h

/-- at the bottom the last lines are shown -/
theorem shown_of_bottom {a : App} (h : a.scroll = 0) (count height : Nat) :
    a.shown count height = (a.session.log.numbered count).drop
      (a.session.log.size - min height a.session.log.size) := by
  have hn : a.session.log.size - min height a.session.log.size = a.session.log.size - height := by
    omega
  show ((a.session.log.numbered count).drop (a.session.log.size - a.scroll - height)).take
    (a.session.log.size - a.scroll - (a.session.log.size - a.scroll - height)) = _
  rw [h, Nat.sub_zero, hn]
  refine List.take_of_length_le ?_
  rw [List.length_drop, Log.length_numbered]

/-- twelve lines come in -/
def printed : List Session.Event :=
  ["a", "b", "c", "d", "e", "f", "g", "h", "i", "j", "k", "l"].map fun text =>
    .link (.frame (.console text none false))

/-- **A scrolled view stays where it is while events come in.** Whatever was done before and whatever
event is next: what a scrolled pane shows afterwards are the lines that it showed before and that are
still held, in their order, however many are dropped (unless this very event sets the count of all
lines back to zero, after `2 ^ 64` of them); a pane that follows the output goes on to, and shows the last
lines. The offset is within the log, and what is shown is a piece of the log no higher than the pane. -/
theorem view_follows (o : Session.Opening) (xs : List Step) (e : Session.Event) (height : Nat) :
    let a := (App.new o.session).run xs
    let b := (a.received e).1
    let before := ((App.new o.session).gained xs).length
    let after := ((App.new o.session).gained (xs ++ [.event e])).length
    (0 < a.scroll → a.session.log.appended + 1 ≠ 0 →
      b.shown after height = (a.shown before height).filter
        (fun p => decide (p ∈ b.session.log.numbered after))) ∧
    (a.scroll = 0 → b.scroll = 0 ∧ b.shown after height =
      (b.session.log.numbered after).drop (b.session.log.size - min height b.session.log.size)) ∧
    ∀ d, d = a ∨ d = b → d.scroll ≤ d.session.log.size ∧
      (d.visible height).1 ≤ (d.visible height).2 ∧ (d.visible height).2 ≤ d.session.log.size ∧
      (d.visible height).2 - (d.visible height).1 ≤ height := by
  intro a b before after
  have ha : Stands a o.scrollback ((App.new o.session).gained xs) := (Stands.new o).run xs
  have hb := ha.step (.event e)
  have hl : after = _ := congrArg List.length (gained_append (App.new o.session) xs (.event e))
  refine ⟨fun hw hc => ?_, fun h0 => ?_, fun d hd => ?_⟩
  · have hs := scroll_received ha.opened ha.scroll hc e
    rw [hl]
    exact ha.shown_of_anchored hb hw Option.length_toList_le hs height
  · have hs : b.scroll = 0 := scroll_received_of_bottom h0 e
    exact ⟨hs, shown_of_bottom hs _ height⟩
  · have hd' : d.scroll ≤ d.session.log.size := by
      rcases hd with rfl | rfl
      · exact ha.scroll
      · exact hb.scroll
    refine ⟨hd', Nat.sub_le _ _, Nat.sub_le _ _, ?_⟩
    show d.session.log.size - d.scroll - (d.session.log.size - d.scroll - height) ≤ height
    omega

/-- twelve lines fill the log, the view is scrolled up, and one more line comes in: of the first two
lines, which were shown, the first is dropped, and the second is still shown -/
theorem view_follows_full :
    let o : Session.Opening := { Session.Opening.plain .running .everything with scrollback := 12 }
    let xs := printed.map .event ++ [.terminal (.key ⟨.pageUp, false⟩)]
    let a := (App.new o.session).run xs
    let e : Session.Event := .link (.frame (.console "m" none false))
    0 < a.scroll ∧
    a.shown 12 2 = [(.server "" "a" none, 0), (.server "" "b" none, 1)] ∧
    (a.received e).1.shown 13 2 = [(.server "" "b" none, 1)] := by
  intro o xs a e
  have hw : 0 < a.scroll := by decide +kernel
  have hs : a.shown 12 2 = [(.server "" "a" none, 0), (.server "" "b" none, 1)] := by decide +kernel
  have hk : ((App.new o.session).gained xs).length = 12 := by decide +kernel
  have hn : ((App.new o.session).gained (xs ++ [.event e])).length = 13 := by decide +kernel
  have h := (view_follows o xs e 2).1 hw (by decide +kernel)
  rw [hk, hn, hs] at h
  exact ⟨hw, hs, h.trans (by decide +kernel)⟩

/-! ## keys -/

/-- an open session's log gets a line from a key that is not accepted as a command exactly if the key is
denied -/
theorem isSome_line?_asks {a : App} (ho : a.session.closed = false) {k : KeyAction}
    (hn : ¬ (k = .submit ∧ (a.session.submit a.editor.text).result = .ok ())) :
    (a.session.line? (.operation (a.asks k))).isSome = a.denied k := by
  cases k with
  | submit =>
    have hr : (a.session.submit a.editor.text).result ≠ .ok () := fun h => hn ⟨rfl, h⟩
    have hs := Session.submitted ho a.editor.text
    show (a.session.commandLine? a.editor.text).isSome =
      (!Text.isBlankText a.editor.text && !a.session.can Grant.consoleWrite)
    unfold Session.commandLine?
    generalize a.session.submit a.editor.text = r at hr hs
    cases hs with
    | blank | sent => exact absurd rfl hr
    | refused hb hc =>
      rw [if_neg (ne_true_of_eq_false hb), if_neg (ne_true_of_eq_false hc), hb, hc]
      rfl
    | unsent hb hc _ hl =>
      rw [if_neg (ne_true_of_eq_false hb), if_pos hc, if_neg hl, hb, hc]
      rfl
  | power action =>
    show (a.session.requestLine? action).isSome =
      !a.session.can (a.session.amounts action).permission
    unfold Session.requestLine?
    rw [← Session.amounts_eq]
    dsimp only
    cases a.session.can (a.session.amounts action).permission <;> rfl
  | historyOlder | historyNewer | quit | scrollUp | scrollDown | edit _ | none => rfl

/-- **Which keys move a scrolled view.** Whatever was done before and whatever key is pressed, one of the
two page keys and a command that is accepted apart: what a scrolled pane shows afterwards are the lines
that it showed before and that are still held exactly if the key is not denied. A denied key's refusal is
a line of the log, and the offset does not move with it; this goes unseen only in a pane without rows and
above the first line of a full log, where nothing is shown. -/
theorem key_keeps_view_iff (o : Session.Opening) (xs : List Step) (key : Key) (height : Nat) :
    let a := (App.new o.session).run xs
    let b := (a.pressed key).1
    let before := ((App.new o.session).gained xs).length
    let after := ((App.new o.session).gained (xs ++ [.terminal (.key key)])).length
    0 < a.scroll → key.meaning ≠ .scrollUp → key.meaning ≠ .scrollDown →
    ¬ (key.meaning = .submit ∧ (a.session.submit a.editor.text).result = .ok ()) →
    (b.shown after height = (a.shown before height).filter
        (fun p => decide (p ∈ b.session.log.numbered after)) ↔
      a.denied key.meaning = false ∨ height = 0 ∨
        (a.session.log.size = a.session.log.capacity ∧ a.scroll = a.session.log.size)) := by
  intro a b before after hw hu hd hn
  have ha : Stands a o.scrollback ((App.new o.session).gained xs) := (Stands.new o).run xs
  have hb := ha.step (.terminal (.key key))
  have hl : after = _ :=
    congrArg List.length (gained_append (App.new o.session) xs (.terminal (.key key)))
  have hs : b.scroll = a.scroll := by
    obtain ⟨message, hp⟩ := a.exists_pressed key
    show (a.pressed key).1.scroll = a.scroll
    rw [hp]
    exact scroll_act (a := { a with message := message }) hu hd hn
  have hi := isSome_line?_asks ha.opened hn
  have hx : a.input (.terminal (.key key)) = .operation (a.asks key.meaning) := rfl
  rw [hl]
  rw [hx] at hb ⊢
  cases hm : a.session.line? (.operation (a.asks key.meaning)) with
  | none =>
    rw [hm] at hb hi
    have hsame : b.scroll = anchored a.scroll 0 b.session.log.size := by
      rw [anchored, if_neg hw.ne', Nat.add_zero, ← hs]
      exact (Nat.min_eq_left hb.scroll).symm
    exact iff_of_true (ha.shown_of_anchored hb hw (Nat.zero_le 1) hsame height) (.inl hi.symm)
  | some l =>
    rw [hm] at hb hi
    refine (ha.shown_of_same_scroll_iff hb hw hs height).trans (Iff.symm (or_iff_right ?_))
    rw [← hi]
    exact nofun

/-- twelve lines came in and the view is scrolled up, for an operator who may only read: to recall an older
command leaves the first two lines in the pane, the key for a start does not -/
theorem key_keeps_view_read_only :
    let o := Session.Opening.plain .stopped ⟨["console.read"]⟩
    let xs := printed.map .event ++ [.terminal (.key ⟨.pageUp, false⟩)]
    let a := (App.new o.session).run xs
    0 < a.scroll ∧ a.denied .historyOlder = false ∧ a.denied (.power .start) = true ∧
    a.shown 12 2 = [(.server "" "a" none, 0), (.server "" "b" none, 1)] ∧
    (a.pressed ⟨.up, false⟩).1.shown 12 2 =
      [(.server "" "a" none, 0), (.server "" "b" none, 1)] ∧
    ¬ (a.pressed ⟨.char 's', true⟩).1.shown 13 2 =
      [(.server "" "a" none, 0), (.server "" "b" none, 1)] := by
  intro o xs a
  have hw : 0 < a.scroll := by decide +kernel
  have hs : a.shown 12 2 = [(.server "" "a" none, 0), (.server "" "b" none, 1)] := by decide +kernel
  have hk : ((App.new o.session).gained xs).length = 12 := by decide +kernel
  have hup : ((App.new o.session).gained (xs ++ [.terminal (.key ⟨.up, false⟩)])).length = 12 := by
    decide +kernel
  have hst : ((App.new o.session).gained
      (xs ++ [.terminal (.key ⟨.char 's', true⟩)])).length = 13 := by
    decide +kernel
  have h1 := (key_keeps_view_iff o xs ⟨.up, false⟩ 2 hw nofun nofun nofun).mpr (.inl rfl)
  have h2 := key_keeps_view_iff o xs ⟨.char 's', true⟩ 2 hw nofun nofun nofun
  rw [hk, hup, hs] at h1
  rw [hk, hst, hs] at h2
  refine ⟨hw, rfl, by decide +kernel, hs, h1.trans (by decide +kernel), fun h => ?_⟩
  have h3 := h2.mp (h.trans (by decide +kernel))
  exact absurd h3 (by decide +kernel)

/-- twelve lines came in and the view is scrolled up: the key for a start is neither a page key nor a
command, it is denied, and the first line, still held, is in the pane no more -/
theorem refusal_moves_view :
    let a := (App.new (Session.Opening.plain .stopped ⟨["console.read"]⟩).session).run
      (printed.map .event ++ [.terminal (.key ⟨.pageUp, false⟩)])
    let b := (a.pressed ⟨.char 's', true⟩).1
    Key.meaning ⟨.char 's', true⟩ = .power .start ∧ a.scroll = 10 ∧ b.scroll = 10 ∧
    a.shown 12 2 = [(.server "" "a" none, 0), (.server "" "b" none, 1)] ∧
    b.shown 13 2 = [(.server "" "b" none, 1), (.server "" "c" none, 2)] ∧
    (.server "" "a" none, 0) ∈ b.session.log.numbered 13 := by
  decide +kernel

end App

end ServerConsole
