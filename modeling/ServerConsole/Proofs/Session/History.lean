import Mathlib.Data.List.Induction
import ServerConsole.Session.History

/-!
# The history as a bounded list with a position

The reference is the list of all commands pushed, of which the newest ones are kept, and a position that is
found by folding the moves since the last push.

* `Call`, `run`        the two calls, in any order;
* `pushed`, `sincePush`  the commands of a list of calls, and the moves after the last of them;
* `position`           where moves lead from the prompt;
* `texts`              what moves give, one after the other;
* `Refines`            the history is the one that its calls say; every call keeps this;
* `refines_bounded_list`  every list of calls on a new history, and the moves directly after a push.
-/

namespace ServerConsole.History

/-! ## definitions -/

inductive Call
  | push (command : String)
  | navigate (direction : Direction)

def Call.command? : Call → Option String
  | push command => some command
  | navigate _ => none

def Call.direction? : Call → Option Direction
  | push _ => none
  | navigate direction => some direction

def call (h : History) : Call → History
  | .push command => h.push command
  | .navigate direction => (h.navigate direction).1

def run (h : History) (calls : List Call) : History := calls.foldl call h

/-- the commands pushed, oldest first -/
def pushed (calls : List Call) : List String := calls.filterMap Call.command?

/-- the moves since the last push, or since the start -/
def sincePush (calls : List Call) : List Direction :=
  (calls.reverse.takeWhile (·.direction?.isSome)).reverse.filterMap Call.direction?

/-- where moves among `size` entries lead from the prompt -/
def position (size : Nat) (moves : List Direction) : Int :=
  moves.foldl (fun cursor direction => match direction with
    | .older => min (cursor + 1) (size - 1)
    | .newer => max (cursor - 1) (-1)) (-1)

/-- the texts that moves give, one for each -/
def texts (h : History) : List Direction → List String
  | [] => []
  | d :: ds => (h.navigate d).2 :: (h.navigate d).1.texts ds

/-! ## entries -/

/-- the newest commands of all are kept, the newest first -/
theorem entries_push_take {h : History} {cs : List String} (c : String)
    (he : h.entries = cs.take h.limit) : (h.push c).entries = (c :: cs).take h.limit := by
  show (c :: h.entries).take h.limit = _
  rw [he]
  cases h.limit with
  | zero => rfl
  | succ n =>
    rw [List.take_succ_cons, List.take_succ_cons, List.take_take, Nat.min_eq_left (Nat.le_succ n)]

theorem pushed_push (calls : List Call) (c : String) :
    pushed (calls ++ [.push c]) = pushed calls ++ [c] := by
  simp [pushed, Call.command?]

theorem pushed_navigate (calls : List Call) (d : Direction) :
    pushed (calls ++ [.navigate d]) = pushed calls := by
  simp [pushed, Call.command?]

theorem sincePush_push (calls : List Call) (c : String) : sincePush (calls ++ [.push c]) = [] := by
  simp [sincePush, Call.direction?]

theorem sincePush_navigate (calls : List Call) (d : Direction) :
    sincePush (calls ++ [.navigate d]) = sincePush calls ++ [d] := by
  simp [sincePush, Call.direction?]

/-! ## positions -/

theorem position_concat (size : Nat) (ds : List Direction) (d : Direction) :
    position size (ds ++ [d]) = moved size (position size ds) d := by
  rw [position, List.foldl_append]
  cases d <;> rfl

theorem position_bounds (size : Nat) (ds : List Direction) :
    -1 ≤ position size ds ∧ position size ds ≤ size - 1 := by
  induction ds using List.reverseRecOn with
  | nil => exact ⟨Int.le_refl _, show (-1 : Int) ≤ size - 1 by omega⟩
  | append_singleton ds d ih =>
    rw [position_concat]
    cases d <;> simp only [moved] <;> omega

/-- moves to older commands stop at the oldest -/
theorem position_older (size k : Nat) : position size (List.replicate k .older) = min k size - 1 := by
  induction k with
  | zero => simp [position]
  | succ k ih =>
    rw [List.replicate_succ', position_concat, ih]
    simp only [moved]
    omega

/-- moves to newer commands stop at the prompt -/
theorem position_newer (size j : Nat) (ds : List Direction) :
    position size (ds ++ List.replicate j .newer) = max (position size ds - j) (-1) := by
  induction j with
  | zero =>
    have hb := (position_bounds size ds).1
    simp only [List.replicate_zero, List.append_nil]
    omega
  | succ j ih =>
    rw [List.replicate_succ', ← List.append_assoc, position_concat, ih]
    simp only [moved]
    omega

/-! ## every call -/

theorem run_concat (h : History) (calls : List Call) (x : Call) :
    h.run (calls ++ [x]) = (h.run calls).call x := by
  simp [run]

theorem run_append (h : History) (a b : List Call) : h.run (a ++ b) = (h.run a).run b :=
  List.foldl_append

theorem texts_concat (h : History) (ds : List Direction) (d : Direction) :
    h.texts (ds ++ [d]) = h.texts ds ++ [((h.run (ds.map .navigate)).navigate d).2] := by
  induction ds generalizing h with
  | nil => rfl
  | cons e ds ih => exact congrArg (_ :: ·) (ih (h.navigate e).1)

/-- what calls on a new history of a limit lead to -/
structure Refines (limit : Nat) (calls : List Call) (h : History) : Prop where
  bound : h.limit = max limit 1
  entries : h.entries = (pushed calls).reverse.take (max limit 1)
  cursor : h.cursor = position h.size (sincePush calls)

section
variable {limit : Nat} {calls : List Call} {h : History}

theorem Refines.call (hr : Refines limit calls h) (x : Call) :
    Refines limit (calls ++ [x]) (h.call x) := by
  cases x with
  | push c =>
    have he : h.entries = (pushed calls).reverse.take h.limit := by
      rw [hr.bound]
      exact hr.entries
    refine ⟨hr.bound, ?_, ?_⟩
    · rw [pushed_push, List.reverse_concat, ← hr.bound]
      exact entries_push_take c he
    · rw [sincePush_push]
      rfl
  | navigate d =>
    refine ⟨hr.bound, ?_, ?_⟩
    · rw [pushed_navigate]
      exact hr.entries
    · rw [sincePush_navigate, position_concat]
      exact congrArg (moved h.size · d) hr.cursor

theorem Refines.run (hr : Refines limit calls h) (more : List Call) :
    Refines limit (calls ++ more) (h.run more) := by
  induction more using List.reverseRecOn with
  | nil => exact (List.append_nil calls).symm ▸ hr
  | append_singleton more x ih =>
    rw [run_concat, ← List.append_assoc]
    exact ih.call x

theorem refines_run (limit : Nat) (calls : List Call) :
    Refines limit calls ((withLimit limit).run calls) :=
  have h0 : Refines limit [] (withLimit limit) := ⟨rfl, List.take_nil.symm, rfl⟩
  h0.run calls

/-- what a move gives stands at the position it leads to -/
theorem Refines.text_navigate (hr : Refines limit calls h) (d : Direction) :
    some (h.navigate d).2 = if (h.navigate d).1.cursor = -1 then some ""
      else (h.navigate d).1.entries[(h.navigate d).1.cursor.toNat]? := by
  have hb := position_bounds h.size (sincePush calls ++ [d])
  rw [position_concat, ← hr.cursor] at hb
  have hc : (h.navigate d).1.cursor = moved h.size h.cursor d := rfl
  show some ((h.navigate d).1.current?.getD "") = _
  unfold current?
  rw [hc]
  by_cases hn : moved h.size h.cursor d = -1
  · rw [if_pos hn, hn]
    rfl
  · have hs : (moved h.size h.cursor d).toNat < h.entries.length := by
      show _ < h.size
      omega
    rw [if_neg hn, if_neg (by omega), entries_navigate, List.getElem?_eq_getElem hs]
    rfl

/-! ## directly after a push -/

theorem sincePush_moves (calls : List Call) (c : String) (ds : List Direction) :
    sincePush (calls ++ [.push c] ++ ds.map .navigate) = ds := by
  induction ds using List.reverseRecOn with
  | nil => simp [sincePush_push]
  | append_singleton ds d ih =>
    rw [List.map_append, List.map_singleton, ← List.append_assoc, sincePush_navigate, ih]

theorem entries_run_moves (h : History) (ds : List Direction) :
    (h.run (ds.map .navigate)).entries = h.entries := by
  induction ds using List.reverseRecOn with
  | nil => rfl
  | append_singleton ds d ih =>
    rw [List.map_append, List.map_singleton, run_concat]
    exact ih

theorem Refines.cursor_moves (hr : Refines limit calls h) (c : String) (ds : List Direction) :
    ((h.push c).run (ds.map .navigate)).cursor = position (h.push c).size ds := by
  have hm := ((hr.call (.push c)).run (ds.map .navigate)).cursor
  rw [sincePush_moves, size, entries_run_moves] at hm
  exact hm

/-- the last text that moves give stands at the position they lead to -/
theorem Refines.getLast?_texts (hr : Refines limit calls h) (c : String) (ds : List Direction)
    (d : Direction) : ((h.push c).texts (ds ++ [d])).getLast? =
      if position (h.push c).size (ds ++ [d]) = -1 then some ""
      else (h.push c).entries[(position (h.push c).size (ds ++ [d])).toNat]? := by
  have hm := ((hr.call (.push c)).run (ds.map .navigate)).text_navigate d
  have hc := hr.cursor_moves c (ds ++ [d])
  rw [List.map_append, List.map_singleton, run_concat] at hc
  rw [texts_concat, List.getLast?_concat, ← hc]
  refine hm.trans ?_
  rw [entries_navigate]
  show (if _ then _ else ((h.push c).run (ds.map .navigate)).entries[_]?) = _
  rw [entries_run_moves]
  rfl

end

/-- **The history is a bounded list with a clamped position.** After any calls on a new history: the entries
are the newest commands pushed, as many as the limit allows and at least one, the newest first; the position
is the one that the moves since the last push lead to, and lies between the prompt and the oldest entry; a
move gives the entry at the position it leads to, and nothing at the prompt. Directly after a push, moves to
older commands come to the command that is as old as they are many, or to the oldest one kept, and as many
moves back come to the prompt and give nothing there. -/
theorem refines_bounded_list (limit : Nat) (calls : List Call) :
    let h := (withLimit limit).run calls
    h.entries = (pushed calls).reverse.take (max limit 1) ∧
    h.cursor = position h.size (sincePush calls) ∧
    (-1 ≤ h.cursor ∧ h.cursor ≤ h.size - 1) ∧
    (∀ d, some (h.navigate d).2 = if (h.navigate d).1.cursor = -1 then some ""
      else (h.navigate d).1.entries[(h.navigate d).1.cursor.toNat]?) ∧
    ∀ c k,
      let top := h.push c
      let n := min (k + 1) top.size
      let older := List.replicate (k + 1) .older
      let back := older ++ List.replicate n .newer
      (top.texts older).getLast? = (c :: (pushed calls).reverse)[n - 1]? ∧
      (top.run (back.map .navigate)).cursor = -1 ∧ (top.texts back).getLast? = some "" := by
  intro h
  have hr : Refines limit calls h := refines_run limit calls
  have hb := position_bounds h.size (sincePush calls)
  rw [← hr.cursor] at hb
  refine ⟨hr.entries, hr.cursor, hb, hr.text_navigate, ?_⟩
  intro c k top n older back
  have he : top.entries = (c :: (pushed calls).reverse).take (max limit 1) := by
    have hp := (hr.call (.push c)).entries
    rw [pushed_push, List.reverse_concat] at hp
    exact hp
  have hs : 1 ≤ top.size ∧ top.size ≤ max limit 1 := by
    show 1 ≤ top.entries.length ∧ top.entries.length ≤ _
    rw [he, List.length_take, List.length_cons]
    omega
  have hn : n = min (k + 1) top.size := rfl
  have hold : position top.size older = n - 1 := position_older ..
  clear_value n
  have hback : position top.size back = -1 := by
    rw [position_newer, hold]
    omega
  refine ⟨?_, (hr.cursor_moves c back).trans hback, ?_⟩
  · have hl : older = List.replicate k .older ++ [.older] := List.replicate_succ'
    have ht := hr.getLast?_texts c (List.replicate k .older) .older
    rw [← hl] at ht
    have hp : ¬ position top.size older = -1 := by omega
    have hi : ((n : Int) - 1).toNat = n - 1 := by omega
    rw [ht, if_neg hp, hold, he, hi]
    exact List.getElem?_take_of_lt (by omega)
  · obtain ⟨m, hm⟩ : ∃ m, n = m + 1 := ⟨n - 1, by omega⟩
    have hl : back = (older ++ List.replicate m .newer) ++ [.newer] := by
      rw [List.append_assoc, ← List.replicate_succ', ← hm]
    rw [hl, hr.getLast?_texts, ← hl]
    exact if_pos hback

end ServerConsole.History
