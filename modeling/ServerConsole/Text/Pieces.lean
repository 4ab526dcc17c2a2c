/-!
# Pieces of a text

* `splitOn`   the texts between the occurrences of a separator;
* `joinWith`  texts joined by one;
* `cut`, `cutLast?`  the two sides of the first or the last occurrence of a mark.
-/

namespace ServerConsole.Text

def splitOn (separator : Char) : List Char → List (List Char)
  | [] => [[]]
  | c :: cs =>
    if c = separator then [] :: splitOn separator cs
    else match splitOn separator cs with
      | piece :: more => (c :: piece) :: more
      | [] => [[c]]

def joinWith (separator : Char) : List (List Char) → List Char
  | [] => []
  | [piece] => piece
  | piece :: more => piece ++ separator :: joinWith separator more

theorem splitOn_ne_nil (separator : Char) (cs : List Char) : splitOn separator cs ≠ [] := by
  cases cs with
  | nil => simp [splitOn]
  | cons c cs =>
    rw [splitOn]
    split
    · simp
    · split <;> simp

theorem joinWith_splitOn (separator : Char) (cs : List Char) :
    joinWith separator (splitOn separator cs) = cs := by
  induction cs with
  | nil => rfl
  | cons c cs ih =>
    rw [splitOn]
    split
    · rename_i h
      cases hp : splitOn separator cs with
      | nil => exact absurd hp (splitOn_ne_nil separator cs)
      | cons piece more =>
        rw [hp] at ih
        simp [joinWith, ih, h]
    · cases hp : splitOn separator cs with
      | nil => exact absurd hp (splitOn_ne_nil separator cs)
      | cons piece more =>
        rw [hp] at ih
        cases more with
        | nil => simpa [joinWith] using ih
        | cons q more => simpa [joinWith] using ih

theorem splitOn_of_not_mem {separator : Char} {cs : List Char} (h : separator ∉ cs) :
    splitOn separator cs = [cs] := by
  induction cs with
  | nil => rfl
  | cons c cs ih =>
    rw [List.mem_cons, not_or] at h
    rw [splitOn, if_neg (Ne.symm h.1), ih h.2]

theorem splitOn_append {separator : Char} {cs : List Char} (h : separator ∉ cs) (rest : List Char) :
    splitOn separator (cs ++ separator :: rest) = cs :: splitOn separator rest := by
  induction cs with
  | nil => rw [List.nil_append, splitOn, if_pos rfl]
  | cons c cs ih =>
    rw [List.mem_cons, not_or] at h
    rw [List.cons_append, splitOn, if_neg (Ne.symm h.1), ih h.2]

/-- what is joined comes apart again -/
theorem splitOn_joinWith {separator : Char} {pieces : List (List Char)} (hn : pieces ≠ [])
    (h : ∀ piece ∈ pieces, separator ∉ piece) :
    splitOn separator (joinWith separator pieces) = pieces := by
  induction pieces with
  | nil => exact absurd rfl hn
  | cons piece more ih =>
    rw [List.forall_mem_cons] at h
    cases more with
    | nil => exact splitOn_of_not_mem h.1
    | cons next more =>
      rw [joinWith, splitOn_append h.1, ih (List.cons_ne_nil _ _) h.2]
      exact List.cons_ne_nil _ _

/-- the pieces hold the characters of the text, without the separators -/
theorem mem_of_mem_splitOn {separator c : Char} {cs piece : List Char}
    (hp : piece ∈ splitOn separator cs) (hc : c ∈ piece) : c ∈ cs ∧ c ≠ separator := by
  induction cs generalizing piece with
  | nil =>
    rw [splitOn, List.mem_singleton] at hp
    rw [hp] at hc
    cases hc
  | cons d cs ih =>
    rw [splitOn] at hp
    split at hp
    · rcases List.mem_cons.mp hp with rfl | hp
      · cases hc
      · exact ⟨List.mem_cons_of_mem d (ih hp hc).1, (ih hp hc).2⟩
    · rename_i hd
      split at hp
      · rename_i first more hs
        rw [hs] at ih
        rcases List.mem_cons.mp hp with rfl | hp
        · rcases List.mem_cons.mp hc with rfl | hc
          · exact ⟨List.mem_cons_self, hd⟩
          · have hf := ih List.mem_cons_self hc
            exact ⟨List.mem_cons_of_mem d hf.1, hf.2⟩
        · have hm := ih (List.mem_cons_of_mem first hp) hc
          exact ⟨List.mem_cons_of_mem d hm.1, hm.2⟩
      · rename_i hs
        exact absurd hs (splitOn_ne_nil separator cs)

/-- the text up to a character and the text after it, if it occurs -/
def cut (mark : Char) (cs : List Char) : List Char × Option (List Char) :=
  match cs.dropWhile (· != mark) with
  | [] => (cs, none)
  | _ :: rest => (cs.takeWhile (· != mark), some rest)

/-- the text up to the last occurrence of a character and the text after it -/
def cutLast? (mark : Char) (cs : List Char) : Option (List Char × List Char) :=
  match cut mark cs.reverse with
  | (_, none) => none
  | (back, some front) => some (front.reverse, back.reverse)

theorem dropWhile_ne_of_not_mem {mark : Char} {cs : List Char} (h : mark ∉ cs) (rest : List Char) :
    (cs ++ rest).dropWhile (· != mark) = rest.dropWhile (· != mark) := by
  induction cs with
  | nil => rfl
  | cons c cs ih =>
    rw [List.mem_cons, not_or] at h
    have hc : (c != mark) = true := by simpa using Ne.symm h.1
    simp [hc, ih h.2]

theorem takeWhile_ne_of_not_mem {mark : Char} {cs : List Char} (h : mark ∉ cs) (rest : List Char) :
    (cs ++ mark :: rest).takeWhile (· != mark) = cs := by
  induction cs with
  | nil => simp
  | cons c cs ih =>
    rw [List.mem_cons, not_or] at h
    have hc : (c != mark) = true := by simpa using Ne.symm h.1
    simp [hc, ih h.2]

theorem cut_of_not_mem {mark : Char} {cs : List Char} (h : mark ∉ cs) : cut mark cs = (cs, none) := by
  have hdrop := dropWhile_ne_of_not_mem h []
  rw [List.append_nil] at hdrop
  rw [cut, hdrop]
  rfl

theorem cut_append {mark : Char} {cs : List Char} (h : mark ∉ cs) (rest : List Char) :
    cut mark (cs ++ mark :: rest) = (cs, some rest) := by
  rw [cut, dropWhile_ne_of_not_mem h, takeWhile_ne_of_not_mem h]
  simp

end ServerConsole.Text
