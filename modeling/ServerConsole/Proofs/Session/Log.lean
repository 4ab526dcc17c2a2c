import Mathlib.Data.List.DropRight
import ServerConsole.Session.Log

/-!
# Lines that come in one after the other

* `Log.Sound`      a log with room for a line at least, and no more lines than there is room for; every
                   call keeps this;
* `Log.appendAll`  lines put in one by one; `toList_appendAll` is the view by then, `appended_appendAll`
                   the count;
* `Log.Call`, `Log.run`  lines put in and clearings, in any order;
* `Log.sinceClear`  the lines put in after the last clearing; `run_new` says that a log used again is a new
                   log that these alone came into;
* `keeps_last_lines`  what a log holds and counts after any calls.
-/

namespace ServerConsole.Log

/-! ## definitions -/

structure Sound (log : Log) : Prop where
  room : 0 < log.capacity
  fits : log.size ≤ log.capacity

def appendAll (log : Log) (lines : List LogLine) : Log := lines.foldl append log

inductive Call
  | append (line : LogLine)
  | clear

def Call.line? : Call → Option LogLine
  | append line => some line
  | clear => none

def call (log : Log) : Call → Log
  | .append line => log.append line
  | .clear => log.clear

def run (log : Log) (calls : List Call) : Log := calls.foldl call log

/-- the lines put in after the last clearing, or since the start, the oldest first -/
def sinceClear (calls : List Call) : List LogLine :=
  (calls.rtakeWhile (·.line?.isSome)).filterMap Call.line?

theorem appendAll_nil (log : Log) : log.appendAll [] = log := rfl

theorem appendAll_cons (log : Log) (l : LogLine) (lines : List LogLine) :
    log.appendAll (l :: lines) = (log.append l).appendAll lines := rfl

theorem appendAll_append (log : Log) (a b : List LogLine) :
    log.appendAll (a ++ b) = (log.appendAll a).appendAll b := List.foldl_append

/-! ## one line -/

theorem length_toList (log : Log) : log.toList.length = log.size := Array.length_toList

theorem sound_withCapacity (n : Nat) : (withCapacity n).Sound where
  room := Nat.lt_of_lt_of_le Nat.one_pos (Nat.le_max_right n 1)
  fits := Nat.zero_le _

/-- the view is cut at its front by what there is no room for -/
theorem Sound.toList_append {log : Log} (h : log.Sound) (l : LogLine) :
    (log.append l).toList = (log.toList ++ [l]).drop (log.size + 1 - log.capacity) := by
  obtain ⟨hr, hf⟩ := h
  rw [Log.toList_append]
  by_cases hs : log.size = log.capacity
  · have hl : 1 ≤ log.toList.length := by rw [length_toList, hs]; exact hr
    rw [if_pos hs, hs, Nat.add_sub_cancel_left, List.drop_append_of_le_length hl]
  · have h0 : log.size + 1 - log.capacity = 0 := by omega
    rw [if_neg hs, h0, List.drop_zero]

theorem Sound.size_append {log : Log} (h : log.Sound) (l : LogLine) :
    (log.append l).size = log.size + 1 - (log.size + 1 - log.capacity) := by
  rw [← length_toList, h.toList_append, List.length_drop, List.length_append, length_toList]
  rfl

theorem Sound.append {log : Log} (h : log.Sound) (l : LogLine) : (log.append l).Sound where
  room := h.room
  fits := by
    rw [h.size_append, capacity_append]
    omega

/-! ## many lines -/

theorem appended_appendAll (log : Log) (lines : List LogLine) :
    (log.appendAll lines).appended = log.appended + UInt64.ofNat lines.length := by
  induction lines generalizing log with
  | nil => exact (UInt64.add_zero _).symm
  | cons l lines ih =>
    rw [appendAll_cons, ih, appended_append, List.length_cons, Nat.add_comm, UInt64.ofNat_add,
      ← UInt64.add_assoc]
    rfl

theorem capacity_appendAll (log : Log) (lines : List LogLine) :
    (log.appendAll lines).capacity = log.capacity := by
  induction lines generalizing log with
  | nil => rfl
  | cons l lines ih => rw [appendAll_cons, ih, capacity_append]

/-- the last lines of all that came in are held, as many as there is room for -/
theorem Sound.toList_appendAll {log : Log} (h : log.Sound) (lines : List LogLine) :
    (log.appendAll lines).toList =
      (log.toList ++ lines).drop (log.size + lines.length - log.capacity) := by
  induction lines generalizing log with
  | nil =>
    have h0 : log.size + 0 - log.capacity = 0 := by have := h.fits; omega
    rw [appendAll_nil, List.append_nil, List.length_nil, h0, List.drop_zero]
  | cons l lines ih =>
    have hl : log.size + 1 - log.capacity ≤ (log.toList ++ [l]).length := by
      rw [List.length_append, length_toList, List.length_singleton]
      exact Nat.sub_le _ _
    have hn : log.size + 1 - log.capacity +
        (log.size + 1 - (log.size + 1 - log.capacity) + lines.length - log.capacity) =
        log.size + (lines.length + 1) - log.capacity := by
      have := h.fits
      have := h.room
      omega
    calc (log.appendAll (l :: lines)).toList
        = ((log.append l).toList ++ lines).drop
            ((log.append l).size + lines.length - log.capacity) := ih (h.append l)
      _ = ((log.toList ++ [l] ++ lines).drop (log.size + 1 - log.capacity)).drop
            (log.size + 1 - (log.size + 1 - log.capacity) + lines.length - log.capacity) := by
          rw [h.toList_append, h.size_append, List.drop_append_of_le_length hl]
      _ = (log.toList ++ l :: lines).drop (log.size + (lines.length + 1) - log.capacity) := by
          rw [List.drop_drop, hn, List.append_assoc, List.singleton_append]

/-- a new log holds the last lines of all that came in -/
theorem toList_appendAll_new (n : Nat) (lines : List LogLine) :
    ((withCapacity n).appendAll lines).toList = lines.drop (lines.length - max n 1) := by
  rw [(sound_withCapacity n).toList_appendAll, toList_withCapacity, List.nil_append]
  show lines.drop (0 + lines.length - max n 1) = _
  rw [Nat.zero_add]

theorem size_appendAll_new (n : Nat) (lines : List LogLine) :
    ((withCapacity n).appendAll lines).size = min lines.length (max n 1) := by
  rw [← length_toList, toList_appendAll_new, List.length_drop]
  omega

theorem appended_appendAll_new (n : Nat) (lines : List LogLine) :
    ((withCapacity n).appendAll lines).appended = UInt64.ofNat lines.length := by
  rw [appended_appendAll]
  exact UInt64.zero_add _

theorem last?_eq (log : Log) : log.last? = log.toList.getLast? := (Array.getLast?_toList _).symm

/-- the newest line is always held -/
theorem last?_appendAll_new (n : Nat) (lines : List LogLine) :
    ((withCapacity n).appendAll lines).last? = lines.getLast? := by
  rw [last?_eq, toList_appendAll_new, List.getLast?_drop]
  split
  · have h0 : lines = [] := List.eq_nil_of_length_eq_zero (by omega)
    rw [h0]
    rfl
  · rfl

/-! ## lines and clearings -/

theorem run_concat (log : Log) (calls : List Call) (x : Call) :
    log.run (calls ++ [x]) = (log.run calls).call x := List.foldl_concat ..

theorem sinceClear_append (calls : List Call) (l : LogLine) :
    sinceClear (calls ++ [.append l]) = sinceClear calls ++ [l] := by
  unfold sinceClear
  rw [List.rtakeWhile_concat_pos _ _ _ rfl, List.filterMap_append]
  rfl

theorem sinceClear_clear (calls : List Call) : sinceClear (calls ++ [.clear]) = [] := by
  unfold sinceClear
  rw [List.rtakeWhile_concat_neg _ _ _ Bool.false_ne_true]
  rfl

theorem Sound.call {log : Log} (h : log.Sound) (x : Call) : (log.call x).Sound := by
  cases x with
  | append l => exact h.append l
  | clear => exact ⟨h.room, Nat.zero_le _⟩

theorem Sound.run {log : Log} (h : log.Sound) (calls : List Call) : (log.run calls).Sound := by
  induction calls using List.reverseRecOn with
  | nil => exact h
  | append_singleton calls x ih =>
    rw [run_concat]
    exact ih.call x

/-- a log that was new once is new again when it is cleared -/
theorem clear_appendAll_new (n : Nat) (lines : List LogLine) :
    ((withCapacity n).appendAll lines).clear = withCapacity n := by
  unfold clear
  rw [capacity_appendAll]
  rfl

/-- nothing is left of what came in before the last clearing -/
theorem run_new (n : Nat) (calls : List Call) :
    (withCapacity n).run calls = (withCapacity n).appendAll (sinceClear calls) := by
  -- from the end: the last call decides whether what came before it still counts
  induction calls using List.reverseRecOn with
  | nil => rfl
  | append_singleton calls x ih =>
    rw [run_concat, ih]
    cases x with
    | append l =>
      rw [sinceClear_append, appendAll_append]
      rfl
    | clear =>
      rw [sinceClear_clear]
      exact clear_appendAll_new n _

/-- **The log keeps the last lines.** After any lines put into a new log and any clearings, in any order, it
holds the last of the lines that were put in after the last clearing, as many as there is room for and at
least one, the oldest first; the newest of them is the last one held, there are never more lines than room,
and the count is the number of all of them, as long as a word can hold it. -/
theorem keeps_last_lines (n : Nat) (calls : List Call) :
    let log := (withCapacity n).run calls
    let lines := sinceClear calls
    log.toList = lines.rtake (max n 1) ∧
    log.last? = lines.getLast? ∧
    (log.size = log.toList.length ∧ log.size ≤ log.capacity ∧ log.capacity = max n 1) ∧
    (lines.length < UInt64.size → log.appended.toNat = lines.length) := by
  intro log lines
  have hl : log = (withCapacity n).appendAll lines := run_new n calls
  have hs : log.Sound := (sound_withCapacity n).run calls
  refine ⟨?_, ?_, ⟨log.length_toList.symm, hs.fits, ?_⟩, fun h => ?_⟩
  · rw [hl]
    exact toList_appendAll_new n lines
  · rw [hl]
    exact last?_appendAll_new n lines
  · rw [hl, capacity_appendAll]
    rfl
  · rw [hl, appended_appendAll_new]
    exact UInt64.toNat_ofNat_of_lt' h

/-- a log without room has room for one line, also when it is used again -/
theorem keeps_last_lines_reused :
    let line (text : String) : LogLine := .system "" text
    let calls : List Call := [.append (line "a"), .append (line "b"), .clear, .append (line "c"),
      .append (line "d"), .append (line "e")]
    let log := (withCapacity 0).run calls
    (sinceClear calls).length < UInt64.size ∧ sinceClear calls = [line "c", line "d", line "e"] ∧
    log.toList = [line "e"] ∧ log.last? = some (line "e") ∧ log.size ≤ 1 ∧ log.appended.toNat = 3 := by
  intro line calls log
  have hc : sinceClear calls = [line "c", line "d", line "e"] := rfl
  have hn : (sinceClear calls).length < UInt64.size := by
    rw [hc]
    decide
  obtain ⟨ht, hl, ⟨_, hs, hr⟩, ha⟩ := keeps_last_lines 0 calls
  exact ⟨hn, hc, ht, hl, hs.trans_eq hr, ha hn⟩

end ServerConsole.Log
