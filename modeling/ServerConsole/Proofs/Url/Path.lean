import Mathlib.Data.List.Induction
import ServerConsole.Proofs.Url.Percent
import ServerConsole.Url.Parse

/-!
# Paths that stay as they are

Reading a path resolves its dots and escapes its characters. What is left has no more dots to resolve and
nothing more to escape, so that it is read as it stands.

* `Settled`      a segment that reading leaves alone;
* `settled_walk`  every segment left is one;
* `SettledPath`  the written path of such segments;
* `settledPath_pathBehind`, `pathBehind_of_settled`  what is read behind an authority is such a path,
  and such a path is read unchanged.
-/

namespace ServerConsole.Url

open Text

/-! ## segments -/

/-- the characters of a segment that is read -/
def isSegmentChar (c : Char) : Bool := isAscii c && !pathSet c && c != '/' && c != '\\'

structure Settled (segment : List Char) : Prop where
  plain : ∀ c ∈ segment, isSegmentChar c = true
  notHere : isHere segment = false
  notAbove : isAbove segment = false

theorem plainDots_of_not_mem {cs : List Char} (h : '%' ∉ cs) : plainDots cs = cs := by
  induction cs with
  | nil => rfl
  | cons c cs ih =>
    rw [List.mem_cons, not_or] at h
    unfold plainDots
    split
    · rename_i he
      exact absurd (List.cons.inj he).1.symm h.1
    · rename_i he
      exact absurd (List.cons.inj he).1.symm h.1
    · rename_i he
      obtain ⟨rfl, rfl⟩ := List.cons.inj he
      rw [ih h.2]
    · rename_i he
      cases he

/-- a word without dots -/
theorem settled_of_dotless {segment : List Char} (h : ∀ c ∈ segment, isSegmentChar c = true)
    (hp : '%' ∉ segment) (hd : '.' ∉ segment) : Settled segment := by
  have hs : ∀ cs : List Char, (segment == '.' :: cs) = false := by
    intro cs
    rw [beq_eq_false_iff_ne]
    rintro rfl
    exact hd List.mem_cons_self
  refine ⟨h, ?_, ?_⟩
  · rw [isHere, plainDots_of_not_mem hp, hs]
  · rw [isAbove, plainDots_of_not_mem hp, hs]

theorem settled_nil : Settled [] := ⟨nofun, rfl, rfl⟩

theorem isSegmentChar_percentEncode {cs : List Char} (h : '/' ∉ cs ∧ '\\' ∉ cs) :
    ∀ c ∈ percentEncode pathSet cs, isSegmentChar c = true := by
  intro c hc
  rcases mem_percentEncode hc with ⟨hm, ha, hp⟩ | he
  · have hslash : c ≠ '/' := fun he => h.1 (he ▸ hm)
    have hback : c ≠ '\\' := fun he => h.2 (he ▸ hm)
    simp [isSegmentChar, ha, hp, hslash, hback]
  · have hd : escapeChars.all isSegmentChar = true := by decide
    exact List.all_eq_true.mp hd c he

theorem isBreak_of_isSegmentChar {c : Char} (h : isSegmentChar c = true) : isBreak c = false := by
  rw [Bool.eq_false_iff]
  intro hb
  have hs : ∀ d, d = '\t' ∨ d = '\n' ∨ d = '\r' → isSegmentChar d = false := by
    rintro d (rfl | rfl | rfl) <;> decide
  have hc : c = '\t' ∨ c = '\n' ∨ c = '\r' := by simpa [isBreak, or_assoc] using hb
  rw [hs c hc] at h
  cases h

theorem percentEncode_segment {cs : List Char} (h : ∀ c ∈ cs, isSegmentChar c = true) :
    percentEncode pathSet (withoutBreaks cs) = cs := by
  have hb : withoutBreaks cs = cs := by
    refine List.filter_eq_self.mpr fun c hc => ?_
    rw [isBreak_of_isSegmentChar (h c hc)]
    rfl
  rw [hb]
  refine percentEncode_of_all _ _ (List.all_eq_true.mpr fun c hc => ?_)
  have hs := h c hc
  simp only [isSegmentChar, Bool.and_eq_true] at hs
  rw [Bool.and_eq_true]
  exact hs.1.1

/-! ## walks -/

section
variable {w : Walk}

theorem settled_climb (hw : ∀ s ∈ w.done, Settled s) : ∀ s ∈ w.climb.done, Settled s := by
  unfold Walk.climb
  split
  · rename_i segment above hd
    split
    · exact hw
    · exact fun s hs => hw s (hd ▸ List.mem_cons_of_mem segment hs)
  · exact hw

theorem settled_enter (hw : ∀ s ∈ w.done, Settled s) {segment : List Char} (h : Settled segment) :
    ∀ s ∈ (w.enter segment).done, Settled s :=
  List.forall_mem_cons.mpr ⟨h, hw⟩

/-- dots leave segments that were there, or an empty one -/
theorem settled_step (hw : ∀ s ∈ w.done, Settled s) {segment : List Char}
    (h : ∀ c ∈ segment, isSegmentChar c = true) (last : Bool) :
    ∀ s ∈ (w.step segment last).done, Settled s := by
  have leave : ∀ w : Walk, (∀ s ∈ w.done, Settled s) →
      ∀ s ∈ (if last then w.enter [] else w).done, Settled s := by
    intro w hw
    split
    · exact settled_enter hw settled_nil
    · exact hw
  unfold Walk.step
  by_cases ha : isAbove segment = true
  · rw [if_pos ha]
    exact leave _ (settled_climb hw)
  rw [if_neg ha]
  by_cases hh : isHere segment = true
  · rw [if_pos hh]
    exact leave _ hw
  · rw [if_neg hh]
    exact settled_enter hw ⟨h, eq_false_of_ne_true hh, eq_false_of_ne_true ha⟩

/-- every segment left by a walk is settled -/
theorem settled_walk (hw : ∀ s ∈ w.done, Settled s) {segments : List (List Char)}
    (h : ∀ s ∈ segments, '/' ∉ s ∧ '\\' ∉ s) : ∀ s ∈ (walk false w segments).done, Settled s := by
  induction segments generalizing w with
  | nil => exact hw
  | cons written more ih =>
    rw [List.forall_mem_cons] at h
    have hc : '/' ∉ withoutBreaks written ∧ '\\' ∉ withoutBreaks written :=
      ⟨fun hm => h.1.1 (List.mem_filter.mp hm).1, fun hm => h.1.2 (List.mem_filter.mp hm).1⟩
    exact ih (settled_step hw (isSegmentChar_percentEncode hc) _) h.2

/-- settled segments are entered as they are -/
theorem walk_of_settled {segments : List (List Char)} (h : ∀ s ∈ segments, Settled s) :
    (walk false w segments).done = segments.reverse ++ w.done := by
  induction segments generalizing w with
  | nil => rfl
  | cons written more ih =>
    rw [List.forall_mem_cons] at h
    have hn : walk false w (written :: more) = walk false (w.enter written) more := by
      show walk false (w.step (percentEncode pathSet (withoutBreaks written)) more.isEmpty) more = _
      rw [percentEncode_segment h.1.plain]
      simp [Walk.step, h.1.notAbove, h.1.notHere]
    rw [hn, ih h.2, List.reverse_cons, List.append_assoc]
    rfl

end

/-! ## written paths -/

/-- each segment behind a slash -/
def slashed (segments : List (List Char)) : List Char := segments.flatMap ('/' :: ·)

theorem slashed_append (a b : List (List Char)) : slashed (a ++ b) = slashed a ++ slashed b :=
  List.flatMap_append

theorem slashed_cons (segment : List Char) (more : List (List Char)) :
    slashed (segment :: more) = '/' :: joinWith '/' (segment :: more) := by
  induction more generalizing segment with
  | nil => simp [slashed, joinWith]
  | cons next more ih =>
    rw [joinWith, ← ih]
    · rfl
    · exact List.cons_ne_nil _ _

theorem mem_slashed {segments : List (List Char)} (h : ∀ s ∈ segments, Settled s) {c : Char}
    (hc : c ∈ slashed segments) : c = '/' ∨ isSegmentChar c = true := by
  obtain ⟨s, hs, hm⟩ := List.mem_flatMap.mp hc
  rcases List.mem_cons.mp hm with hm | hm
  · exact .inl hm
  · exact .inr ((h s hs).plain c hm)

theorem withoutBreaks_slashed {segments : List (List Char)} (h : ∀ s ∈ segments, Settled s) :
    withoutBreaks (slashed segments) = slashed segments := by
  refine List.filter_eq_self.mpr fun c hc => ?_
  rcases mem_slashed h hc with rfl | hc
  · rfl
  · rw [isBreak_of_isSegmentChar hc]
    rfl

/-- no settled segment holds a slash, or a backslash that would count as one -/
theorem segmentsOf_joinWith {segments : List (List Char)} (hn : segments ≠ [])
    (h : ∀ s ∈ segments, Settled s) : segmentsOf true (joinWith '/' segments) = segments := by
  have hs : ∀ s ∈ segments, '/' ∉ s := by
    intro s hs hc
    exact absurd ((h s hs).plain _ hc) (by decide)
  have hb : '\\' ∉ joinWith '/' segments := by
    intro hc
    obtain ⟨first, more, rfl⟩ := List.exists_cons_of_ne_nil hn
    have hm : '\\' ∈ slashed (first :: more) := by
      rw [slashed_cons]
      exact List.mem_cons_of_mem _ hc
    exact absurd (mem_slashed h hm) (by decide)
  have hm : (joinWith '/' segments).map (fun c => if c == '\\' then '/' else c) =
      joinWith '/' segments := by
    refine (List.map_congr_left fun c hc => ?_).trans (List.map_id _)
    have hne : c ≠ '\\' := fun he => hb (he ▸ hc)
    rw [beq_false_of_ne hne]
    rfl
  rw [segmentsOf, if_pos rfl, hm, splitOn_joinWith hn hs]

def SettledPath (cs : List Char) : Prop :=
  ∃ segments, (∀ s ∈ segments, Settled s) ∧ cs = slashed segments

theorem settledPath_slashed {segments : List (List Char)} (h : ∀ s ∈ segments, Settled s) :
    SettledPath (slashed segments) :=
  ⟨segments, h, rfl⟩

theorem SettledPath.append {a b : List Char} (ha : SettledPath a) (hb : SettledPath b) :
    SettledPath (a ++ b) := by
  obtain ⟨as, ha, rfl⟩ := ha
  obtain ⟨bs, hb, rfl⟩ := hb
  exact ⟨as ++ bs, fun s hs => (List.mem_append.mp hs).elim (ha s) (hb s), (slashed_append as bs).symm⟩

/-- without the slashes at its end, which stand behind empty segments -/
theorem SettledPath.dropTail {cs : List Char} (h : SettledPath cs) :
    SettledPath (dropTail (· == '/') cs) := by
  obtain ⟨segments, h, rfl⟩ := h
  induction segments using List.reverseRecOn with
  | nil => exact ⟨[], h, rfl⟩
  | append_singleton front last ih =>
    rw [List.forall_mem_append] at h
    rw [slashed_append]
    cases last using List.reverseRecOn with
    | nil =>
      show SettledPath (Text.dropTail _ (slashed front ++ ['/']))
      rw [dropTail_append_of_pos _ _ _ rfl]
      exact ih h.1
    | append_singleton cs c =>
      have hc : c ≠ '/' := by
        have hp := (h.2 _ (List.mem_singleton_self _)).plain c (by simp)
        rintro rfl
        exact absurd hp (by decide)
      have hl : slashed front ++ slashed [cs ++ [c]] = slashed front ++ '/' :: cs ++ [c] := by
        simp [slashed]
      rw [hl, dropTail_append_of_neg (· == '/') _ c (beq_false_of_ne hc), ← hl, ← slashed_append]
      exact settledPath_slashed (List.forall_mem_append.mpr h)

/-- a special scheme reads a backslash as a slash, so that no segment holds one -/
theorem settledPath_parsePath (cs : List Char) : SettledPath (parsePath true cs) := by
  have hs : ∀ s ∈ segmentsOf true cs, '/' ∉ s ∧ '\\' ∉ s := by
    intro s hs
    refine ⟨fun hc => (mem_of_mem_splitOn hs hc).2 rfl, fun hc => ?_⟩
    obtain ⟨c, -, hc⟩ := List.mem_map.mp (mem_of_mem_splitOn hs hc).1
    split at hc
    · cases hc
    · rename_i hn
      exact hn (beq_iff_eq.mpr hc)
  have hw := settled_walk (w := ⟨[], false⟩) nofun hs
  unfold parsePath
  cases hd : (walk false ⟨[], false⟩ (segmentsOf true cs)).done.reverse with
  | nil => exact ⟨[[]], List.forall_mem_singleton.mpr settled_nil, rfl⟩
  | cons first more =>
    rw [← slashed_cons]
    refine settledPath_slashed fun s hs => hw s ?_
    rw [← List.mem_reverse, hd]
    exact hs

section
variable {scheme : List Char} (h : isSpecial scheme = true)
include h

/-- what is read behind the authority of a special scheme is settled -/
theorem settledPath_pathBehind (cs : List Char) : SettledPath (pathBehind scheme cs) := by
  unfold pathBehind
  cases cs with
  | nil =>
    rw [h]
    exact ⟨[[]], List.forall_mem_singleton.mpr settled_nil, rfl⟩
  | cons c rest =>
    rw [h]
    exact settledPath_parsePath _

/-- and a settled path is read as it stands -/
theorem pathBehind_of_settled {cs : List Char} (hs : SettledPath cs) (hn : cs ≠ []) :
    pathBehind scheme (withoutBreaks cs) = cs := by
  obtain ⟨segments, hs, rfl⟩ := hs
  cases segments with
  | nil => exact absurd rfl hn
  | cons first more =>
    rw [withoutBreaks_slashed hs, slashed_cons]
    show parsePath (isSpecial scheme) (joinWith '/' (first :: more)) = _
    rw [h, parsePath, segmentsOf_joinWith (List.cons_ne_nil _ _) hs, walk_of_settled hs,
      List.append_nil, List.reverse_reverse]

end

end ServerConsole.Url
