import Mathlib.Data.List.DropRight
import ServerConsole.Proofs.Json.Grammar

/-!
# Values that are passed over

Nothing is kept of a member that is not asked for. Its value is passed in one loop over the open brackets,
which ends where reading the value would have ended.

* `Skips`                  a reader and what passes over the same part of the text. Where both are chains of
                           `behind`, one passes what the other reads if each link does (`skips_behind`);
* `skipString_of_readString`, `skips_readNumber`, `skips_readScalar`  values without parts;
* `Point`, `Leads`         a state of the loop, and the states that it comes to within its budget;
* `leads_readItems`, `leads_readMembers`  lists and objects;
* `skipValue_of_readValue` what is passed is the value that would be read.
-/

namespace ServerConsole.Json

open Text

/-! ## strings -/

section
variable {c e : Char} {done s r : List Char} {n : Nat} {text : String}

theorem skipString_escape (h : skipEscape s = .ok r) : skipString ('\\' :: s) = skipString r := by
  rw [skipString, if_neg (by decide), if_pos rfl]
  split
  · next h' => cases h'.symm.trans h
  · next h' => cases h'.symm.trans h; rfl

theorem skipString_unicode (h : readHex4 s = .ok (n, r)) :
    skipString ('\\' :: 'u' :: s) = skipString r := by
  refine skipString_escape ?_
  rw [skipEscape, if_pos rfl, h]
  rfl

theorem skipString_char (hq : c ≠ '"') (hb : c ≠ '\\') (hc : ¬ c.val < 0x20) :
    skipString (c :: s) = skipString s := by
  rw [skipString, if_neg hq, if_neg hb, if_neg hc]

theorem skipString_lowHalf {high : Nat} (h : readLowHalf high s = .ok (e, r)) :
    skipString s = skipString r := by
  unfold readLowHalf at h
  split at h
  · cases h
  · cases h
  · split at h
    · cases h
    · next hx =>
      split at h
      · obtain ⟨-, rfl⟩ := Prod.mk.inj (Except.ok.inj h)
        exact skipString_unicode hx
      · cases h
  · cases h

/-- the two halves of a character outside the basic plane are two escapes here -/
theorem skipString_of_readEscape (h : readEscape s = .ok (e, r)) :
    skipString ('\\' :: s) = skipString r := by
  unfold readEscape at h
  split at h
  case h_10 s =>
    split at h
    · cases h
    · next hx =>
      rw [skipString_unicode hx]
      split at h
      · cases h
      · split at h
        · exact skipString_lowHalf h
        · obtain ⟨-, rfl⟩ := Prod.mk.inj (Except.ok.inj h)
          rfl
  case h_1 => cases h
  case h_11 => cases h
  all_goals
    cases h
    exact skipString_escape rfl

theorem skipString_of_readBody (h : readBody done s = .ok (text, r)) : skipString s = .ok r := by
  fun_induction readBody done s with
  | case1 => cases h
  | case2 done r =>
    cases h
    rw [skipString, if_pos rfl]
  | case3 => cases h
  | case4 done s e s' he hl hq ih => rw [skipString_of_readEscape he, ih h]
  | case5 => cases h
  | case6 done c s hq hb hc ih => rw [skipString_char hq hb hc, ih h]

theorem skipString_of_readString (h : readString s = .ok (text, r)) : skipString s = .ok r :=
  skipString_of_readBody h

end

/-! ## readers and what they pass -/

/-- what is passed is what would be read -/
def Skips {α : Type} (f : List Char → Except Fault (α × List Char))
    (g : List Char → Except Fault (List Char)) : Prop :=
  ∀ ⦃s x r⦄, f s = .ok (x, r) → g s = .ok r

section
variable {α β : Type} {f₁ f₂ : List Char → Except Fault (α × List Char)}
  {g₁ g₂ g₃ : List Char → Except Fault (List Char)}

theorem skips_error (e : List Char → Fault) :
    Skips (fun s => (.error (e s) : Except Fault (α × List Char))) g₁ := nofun

theorem skips_lift (x : Except Fault α) : Skips (fun s => x.map fun a => (a, s)) .ok := by
  intro s y r h
  cases x with
  | error e => cases h
  | ok a =>
    obtain ⟨-, rfl⟩ := Prod.mk.inj (Except.ok.inj h)
    rfl

theorem Skips.map (h : Skips f₁ g₁) (k : α → Except Fault β) :
    Skips (fun s => f₁ s >>= fun (x, r) => (k x).map fun y => (y, r)) g₁ := by
  intro s y r hr
  obtain ⟨⟨x, q⟩, hx, hr⟩ := bind_eq_ok hr
  exact (h hx).trans (skips_lift (k x) hr)

theorem skips_behind {a : Char} (h₁ : Skips f₁ g₁) (h₂ : Skips f₂ g₂) :
    Skips (behind a f₁ f₂) (behind a g₁ g₂) := by
  intro s x r h
  cases s with
  | nil => exact h₂ h
  | cons c s =>
    unfold behind at h ⊢
    dsimp only at h ⊢
    split at h
    · next hc => exact (if_pos hc).trans (h₁ h)
    · next hc => exact (if_neg hc).trans (h₂ h)

theorem behind_bind (a : Char) (s : List Char) :
    (behind a g₁ g₂ s >>= g₃) = behind a (fun s => g₁ s >>= g₃) (fun s => g₂ s >>= g₃) s := by
  cases s with
  | nil => rfl
  | cons c s =>
    unfold behind
    dsimp only
    split <;> rfl

theorem skips_digit (h₁ : Skips f₁ g₁) (h₂ : Skips f₂ g₂) :
    Skips (fun s => if startsWithDigit s then f₁ s else f₂ s)
      fun s => if startsWithDigit s then g₁ s else g₂ s := by
  intro s x r h
  dsimp only at h ⊢
  split at h
  · next hs => exact (if_pos hs).trans (h₁ h)
  · next hs => exact (if_neg hs).trans (h₂ h)

end

/-! ## numbers -/

section
variable {mark c : Char} {s : List Char}

theorem dropDigits_takeSignificand (m taken : Nat) (s : List Char) :
    dropDigits (takeSignificand m taken s).2.2 = dropDigits s := by
  induction s generalizing m taken with
  | nil => rfl
  | cons c s ih =>
    rw [takeSignificand]
    split
    · next h =>
      have hc : isDigit c = true := (Bool.and_eq_true_iff.mp h).1
      rw [ih, dropDigits, dropDigits, List.dropWhile_cons_of_pos hc]
    · rfl

theorem dropDigits_of_not (h : startsWithDigit s = false) : dropDigits s = s := by
  cases s with
  | nil => rfl
  | cons c s => exact List.dropWhile_cons_of_neg (by simpa [startsWithDigit] using h)

theorem skipDigits_of (h : startsWithDigit s = true) : skipDigits s = .ok (dropDigits s) := if_pos h

/-- the digits of an exponent, behind its sign -/
def skipPower : List Char → Except Fault (List Char) :=
  behind '+' skipDigits (behind '-' skipDigits skipDigits)

theorem skipExponent_eq : skipExponent = behind 'e' skipPower (behind 'E' skipPower .ok) := by
  funext s
  unfold skipExponent
  split
  · rfl
  · rfl
  · rfl
  · rfl
  · next r hp hm =>
    show skipDigits r = skipPower r
    rw [skipPower, behind_of_ne hp, behind_of_ne hm]
  · next r hp hm =>
    show skipDigits r = skipPower r
    rw [skipPower, behind_of_ne hp, behind_of_ne hm]
  · next he hE => rw [behind_of_ne he, behind_of_ne hE]

theorem skipExponent_bare (hm : mark = 'e' ∨ mark = 'E') (hp : c ≠ '+') (hn : c ≠ '-') (s : List Char) :
    skipExponent (mark :: c :: s) = skipDigits (c :: s) := by
  have hs : skipPower (c :: s) = skipDigits (c :: s) := by
    rw [skipPower, behind_cons hp, behind_cons hn]
  rw [skipExponent_eq, ← hs]
  rcases hm with rfl | rfl <;> rfl

theorem skipExponent_of_ne (he : ∀ q, s ≠ 'e' :: q) (hE : ∀ q, s ≠ 'E' :: q) :
    skipExponent s = .ok s := by
  rw [skipExponent_eq, behind_of_ne he, behind_of_ne hE]

theorem skipFraction_eq : skipFraction = behind '.' skipDigits .ok := by
  funext s
  unfold skipFraction
  split
  · rfl
  · next h => rw [behind_of_ne h]

/-- fraction and exponent -/
def skipBehind (s : List Char) : Except Fault (List Char) := skipFraction s >>= skipExponent

theorem skipBehind_eq : skipBehind = behind '.' (fun s => skipDigits s >>= skipExponent) skipExponent := by
  funext s
  rw [skipBehind, skipFraction_eq, behind_bind]
  rfl

theorem skipBehind_of_ne (h : ∀ q, s ≠ '.' :: q) : skipBehind s = skipExponent s := by
  rw [skipBehind_eq, behind_of_ne h]

/-- the digits in front of fraction and exponent -/
def skipWhole (s : List Char) : Except Fault (List Char) :=
  match s with
  | '0' :: r => if startsWithDigit r then .error .malformed else .ok r
  | _ => skipDigits s

theorem skipWhole_eq : skipWhole =
    behind '0' (fun s => if startsWithDigit s then .error .malformed else .ok s) skipDigits := by
  funext s
  unfold skipWhole
  split
  · rfl
  · next h => rw [behind_of_ne h]

theorem skipWhole_zero (h : ¬ startsWithDigit s = true) : skipWhole ('0' :: s) = .ok s := if_neg h

theorem skipWhole_of_ne (h : ∀ q, s ≠ '0' :: q) : skipWhole s = skipDigits s := by
  rw [skipWhole_eq, behind_of_ne h]

theorem skipNumber_eq (s : List Char) : skipNumber s = skipWhole s >>= skipBehind := by
  unfold skipNumber
  split
  · next q =>
    show _ = (if startsWithDigit q = true then .error .malformed else .ok q) >>= skipBehind
    split <;> rfl
  · next hz =>
    rw [skipWhole_of_ne hz]
    rfl

theorem skips_readPower (negative : Bool) : Skips (readPower negative) skipDigits := by
  refine skips_digit (fun s x r h => ?_) (skips_error unexpected)
  obtain ⟨-, rfl⟩ := Prod.mk.inj (Except.ok.inj h)
  rfl

theorem skips_readScale (positive : Bool) (m : Nat) (x : Int) :
    Skips (readScale positive m x) skipPower := by
  have he : Skips readExponent skipPower := by
    rw [readExponent_eq]
    exact skips_behind (skips_readPower false) (skips_behind (skips_readPower true) (skips_readPower false))
  exact he.map fun e => realOf positive m (x + e)

theorem skips_finishReal (positive : Bool) (m : Nat) (x : Int) :
    Skips (finishReal positive m x) skipExponent := by
  rw [finishReal_eq, skipExponent_eq]
  exact skips_behind (skips_readScale positive m x) (skips_behind (skips_readScale positive m x) (skips_lift _))

theorem skips_readFraction (positive : Bool) (m : Nat) (x : Int) :
    Skips (readFraction positive m x) fun s => skipDigits s >>= skipExponent := by
  intro s n r h
  unfold readFraction at h
  split at h
  · next hs =>
    have hd := skips_finishReal _ _ _ h
    rw [dropDigits_takeSignificand] at hd
    dsimp only
    rw [skipDigits_of hs]
    exact hd
  · cases h

theorem skips_finishInteger (positive : Bool) (m : Nat) : Skips (finishInteger positive m) skipBehind := by
  rw [finishInteger_eq, skipBehind_eq]
  refine skips_behind (skips_readFraction positive m 0) ?_
  rw [skipExponent_eq]
  exact skips_behind (skips_readScale positive m 0) (skips_behind (skips_readScale positive m 0) (skips_lift _))

theorem skips_finishScaled (positive : Bool) (m : Nat) (more : Int) :
    Skips (finishScaled positive m more) skipBehind := by
  rw [skipBehind_eq]
  exact skips_behind (skips_readFraction positive m more) (skips_finishReal positive m more)

/-- the digits that the significand has no room for are passed with the others -/
theorem skips_finishWhole (positive : Bool) (m : Nat) :
    Skips (finishWhole positive m) fun s => skipBehind (dropDigits s) := by
  intro s n r h
  unfold finishWhole at h
  split at h
  · rw [finishLong_eq] at h
    exact skips_finishScaled _ _ _ h
  · next hs =>
    dsimp only
    rw [dropDigits_of_not (Bool.eq_false_iff.mpr hs)]
    exact skips_finishInteger _ _ h

theorem skips_readNumber (positive : Bool) : Skips (readNumber positive) skipNumber := by
  intro s n r h
  rw [skipNumber_eq, skipWhole_eq, behind_bind]
  rw [readNumber_eq] at h
  refine skips_behind (fun s n r h => ?_) (fun s n r h => ?_) h
  · split at h
    · cases h
    · next hs =>
      rw [if_neg hs]
      exact skips_finishInteger _ _ h
  · split at h
    · next hs =>
      rw [skipDigits_of hs, ← dropDigits_takeSignificand 0 0 s]
      exact skips_finishWhole _ _ h
    · cases h

end

/-! ## values without parts -/

theorem skipScalar_eq : skipScalar =
    behind 'n' (readWord ['u', 'l', 'l']) (behind 't' (readWord ['r', 'u', 'e'])
      (behind 'f' (readWord ['a', 'l', 's', 'e']) (behind '"' skipString (behind '-' skipNumber
        fun s => if startsWithDigit s then skipNumber s else .error (unexpected s))))) := by
  funext s
  unfold skipScalar
  split
  · rfl
  · rfl
  · rfl
  · rfl
  · rfl
  · rfl
  · next hn ht hf hq hm =>
    rw [behind_of_ne fun _ he => hn (List.cons.inj he).1, behind_of_ne fun _ he => ht (List.cons.inj he).1,
      behind_of_ne fun _ he => hf (List.cons.inj he).1, behind_of_ne fun _ he => hq (List.cons.inj he).1,
      behind_of_ne fun _ he => hm (List.cons.inj he).1]
    rfl

/-- a word or a number -/
def skipPlain : List Char → Except Fault (List Char) :=
  behind 'n' (readWord ['u', 'l', 'l']) <|
  behind 't' (readWord ['r', 'u', 'e']) <|
  behind 'f' (readWord ['a', 'l', 's', 'e']) <|
  behind '-' skipNumber fun s => if startsWithDigit s then skipNumber s else .error (unexpected s)

theorem skipScalar_of_ne {c : Char} (hc : c ≠ '"') (s : List Char) :
    skipScalar (c :: s) = skipPlain (c :: s) := by
  rw [skipScalar_eq]
  simp only [skipPlain, behind, if_neg hc]

theorem skips_readWord (ws : List Char) (v : Value) :
    Skips (fun s => (readWord ws s).map fun r => (v, r)) (readWord ws) := by
  intro s w r h
  dsimp only at h
  rw [map_eq_bind] at h
  obtain ⟨q, hq, h⟩ := bind_eq_ok h
  obtain ⟨-, rfl⟩ := Prod.mk.inj (Except.ok.inj h)
  exact hq

theorem skips_readNumeral (positive : Bool) : Skips (readNumeral positive) skipNumber :=
  (skips_readNumber positive).map fun n => .ok (Value.number n)

theorem skips_readPlain : Skips readPlain skipPlain :=
  skips_behind (skips_readWord _ _) <|
  skips_behind (skips_readWord _ _) <|
  skips_behind (skips_readWord _ _) <|
  skips_behind (skips_readNumeral false) <|
  skips_digit (skips_readNumeral true) (skips_error unexpected)

theorem skips_readScalar : Skips readScalar skipScalar := by
  intro s v r h
  cases s with
  | nil => cases h
  | cons c s =>
    by_cases hq : c = '"'
    · subst hq
      obtain ⟨⟨text, q⟩, hx, h⟩ := bind_eq_ok h
      obtain ⟨-, rfl⟩ := Prod.mk.inj (Except.ok.inj h)
      exact skipString_of_readString hx
    · rw [readScalar_of_ne hq] at h
      rw [skipScalar_of_ne hq]
      exact skips_readPlain h

/-! ## lengths -/

section
variable {c : Char} {s r : List Char} {text : String}

theorem length_of_skipSpaces (h : skipSpaces s = c :: r) : r.length < s.length := by
  have hl : (c :: r).length ≤ s.length := h ▸ (List.dropWhile_sublist _).length_le
  exact hl

theorem skipSpaces_skipSpaces (s : List Char) : skipSpaces (skipSpaces s) = skipSpaces s :=
  List.dropWhile_idempotent _ _

theorem length_of_readString (h : readString s = .ok (text, r)) : r.length < s.length := by
  obtain ⟨body, rfl, -⟩ := readString_reads h
  simp only [List.length_append, List.length_cons]
  omega

theorem length_of_readColon (h : readColon s = .ok r) : r.length < s.length := by
  unfold readColon at h
  split at h
  · next hs =>
    obtain rfl := Except.ok.inj h
    exact length_of_skipSpaces hs
  · cases h

theorem length_of_readWord {ws : List Char} (h : readWord ws s = .ok r) : r.length ≤ s.length := by
  induction ws generalizing s with
  | nil =>
    obtain rfl := Except.ok.inj h
    exact Nat.le_refl _
  | cons w ws ih =>
    cases s with
    | nil => cases h
    | cons c s =>
      rw [readWord] at h
      split at h
      · exact Nat.le_succ_of_le (ih h)
      · cases h

theorem length_of_skipString (h : skipString s = .ok r) : r.length < s.length := by
  fun_induction skipString s with
  | case1 => cases h
  | case2 s =>
    obtain rfl := Except.ok.inj h
    exact Nat.lt_succ_self _
  | case3 => cases h
  | case4 s s' he hl hq ih =>
    have hr := ih h
    simp only [List.length_cons]
    omega
  | case5 => cases h
  | case6 c s hq hb hc ih => exact Nat.lt_succ_of_lt (ih h)

theorem length_of_skipDigits (h : skipDigits s = .ok r) : r.length < s.length := by
  unfold skipDigits at h
  split at h
  · next hs =>
    obtain rfl := Except.ok.inj h
    cases s with
    | nil => cases hs
    | cons c s =>
      rw [dropDigits, List.dropWhile_cons_of_pos (show isDigit c = true from hs)]
      exact Nat.lt_succ_of_le (List.dropWhile_sublist _).length_le
  · cases h

theorem length_of_skipExponent (h : skipExponent s = .ok r) : r.length ≤ s.length := by
  unfold skipExponent at h
  split at h
  case h_7 =>
    obtain rfl := Except.ok.inj h
    exact Nat.le_refl _
  all_goals
    have hr := length_of_skipDigits h
    simp only [List.length_cons]
    omega

theorem length_of_skipBehind (h : skipBehind s = .ok r) : r.length ≤ s.length := by
  obtain ⟨q, hq, h⟩ := bind_eq_ok h
  have hr := length_of_skipExponent h
  unfold skipFraction at hq
  split at hq
  · have hd := length_of_skipDigits hq
    simp only [List.length_cons]
    omega
  · obtain rfl := Except.ok.inj hq
    exact hr

theorem length_of_skipNumber (h : skipNumber s = .ok r) : r.length < s.length := by
  rw [skipNumber_eq] at h
  obtain ⟨q, hq, h⟩ := bind_eq_ok h
  have hr := length_of_skipBehind h
  unfold skipWhole at hq
  split at hq
  · split at hq
    · cases hq
    · obtain rfl := Except.ok.inj hq
      exact Nat.lt_succ_of_le hr
  · exact Nat.lt_of_le_of_lt hr (length_of_skipDigits hq)

theorem length_of_skipScalar (h : skipScalar s = .ok r) : r.length < s.length := by
  unfold skipScalar at h
  split at h
  · exact Nat.lt_succ_of_le (length_of_readWord h)
  · exact Nat.lt_succ_of_le (length_of_readWord h)
  · exact Nat.lt_succ_of_le (length_of_readWord h)
  · exact Nat.lt_succ_of_lt (length_of_skipString h)
  · exact Nat.lt_succ_of_lt (length_of_skipNumber h)
  · cases h
  · split at h
    · exact length_of_skipNumber h
    · cases h

end

/-! ## the loop -/

/-- a state of the loop: whether a value is next, the open brackets, and what is left of the text -/
structure Point where
  value : Bool
  outer : List Enclosure
  text : List Char

def Point.skip (p : Point) (fuel : Nat) : Except Fault (List Char) := skipFrom fuel p.value p.outer p.text

/-- the loop comes from one state to the other, and no step takes less than a character -/
def Leads (p q : Point) : Prop :=
  ∃ k, k + q.text.length ≤ p.text.length ∧ ∀ fuel, p.skip (fuel + k) = q.skip fuel

section
variable {p q t : Point}

theorem Leads.trans (h : Leads p q) (h' : Leads q t) : Leads p t := by
  obtain ⟨k, hk, hp⟩ := h
  obtain ⟨j, hj, hq⟩ := h'
  refine ⟨j + k, by omega, fun fuel => ?_⟩
  rw [← Nat.add_assoc, hp, hq]

theorem leads_of_step (hl : q.text.length < p.text.length)
    (h : ∀ fuel, p.skip (fuel + 1) = q.skip fuel) : Leads p q := ⟨1, by omega, h⟩

/-- the same state, with spaces in front of a value -/
theorem leads_skipSpaces (outer : List Enclosure) (s : List Char) :
    Leads ⟨true, outer, s⟩ ⟨true, outer, skipSpaces s⟩ := by
  refine ⟨0, ?_, fun fuel => ?_⟩
  · rw [Nat.zero_add]
    exact (List.dropWhile_sublist _).length_le
  · show skipFrom fuel true outer s = skipFrom fuel true outer (skipSpaces s)
    cases fuel with
    | zero => rfl
    | succ fuel => rw [skipFrom, skipFrom, skipSpaces_skipSpaces]

end

/-! ## separators -/

section
variable {s q q' r : List Char} {name : String}

theorem of_nextItem_first (h : nextItem true s = .ok (.more r)) :
    skipSpaces s = r ∧ ∃ c q, r = c :: q ∧ c ≠ ']' := by
  unfold nextItem at h
  split at h
  · cases h
  · cases h
  · next c q hn hs =>
    rw [if_pos rfl] at h
    cases h
    exact ⟨hs, c, q, rfl, hn⟩

theorem of_nextItem_comma (h : nextItem false s = .ok (.more r)) :
    ∃ q, skipSpaces s = ',' :: q ∧ skipSpaces q = r := by
  unfold nextItem at h
  split at h
  · cases h
  · cases h
  · next c q hn hs =>
    rw [if_neg Bool.false_ne_true] at h
    split at h
    · next hc =>
      split at h
      · cases h
      · cases h
      · cases h
        exact ⟨q, hc ▸ hs, rfl⟩
    · cases h

theorem of_nextMember_first (h : nextMember true s = .ok (.more r)) : skipSpaces s = '"' :: r := by
  unfold nextMember at h
  split at h
  · cases h
  · cases h
  · next hs =>
    cases h
    exact hs
  · cases h

theorem of_nextMember_comma (h : nextMember false s = .ok (.more r)) :
    ∃ q, skipSpaces s = ',' :: q ∧ skipSpaces q = '"' :: r := by
  unfold nextMember at h
  split at h
  · cases h
  · next q hs =>
    rw [if_neg Bool.false_ne_true] at h
    split at h
    · next hq =>
      cases h
      exact ⟨q, hs, hq⟩
    · cases h
  · cases h
  · cases h

theorem length_of_nextMember {first : Bool} (h : nextMember first s = .ok (.more r)) :
    r.length < s.length := by
  cases first with
  | true => exact length_of_skipSpaces (of_nextMember_first h)
  | false =>
    obtain ⟨q, hs, hq⟩ := of_nextMember_comma h
    exact Nat.lt_trans (length_of_skipSpaces hq) (length_of_skipSpaces hs)

theorem length_of_nextItem {first : Bool} (h : nextItem first s = .ok (.more r)) :
    r.length ≤ s.length := by
  cases first with
  | true => exact (of_nextItem_first h).1 ▸ (List.dropWhile_sublist _).length_le
  | false =>
    obtain ⟨q, hs, hq⟩ := of_nextItem_comma h
    exact Nat.le_trans (hq ▸ (List.dropWhile_sublist _).length_le)
      (Nat.le_of_lt (length_of_skipSpaces hs))

theorem skipName_of (hs : skipSpaces s = '"' :: q) (hn : readString q = .ok (name, q'))
    (hc : readColon q' = .ok r) : skipName s = .ok r ∧ r.length < s.length := by
  constructor
  · unfold skipName
    rw [hs]
    show skipString q >>= readColon = _
    rw [skipString_of_readString hn]
    exact hc
  · have h1 := length_of_skipSpaces hs
    have h2 := length_of_readString hn
    have h3 := length_of_readColon hc
    omega

end

/-! ## steps -/

section
variable {s q r : List Char} (outer : List Enclosure)

theorem leads_list_close (hs : skipSpaces s = ']' :: r) :
    Leads ⟨false, .list :: outer, s⟩ ⟨false, outer, r⟩ := by
  refine leads_of_step (length_of_skipSpaces hs) fun k => ?_
  show skipFrom (k + 1) false (.list :: outer) s = _
  rw [skipFrom, hs]
  rfl

theorem leads_list_comma (hs : skipSpaces s = ',' :: q) :
    Leads ⟨false, .list :: outer, s⟩ ⟨true, .list :: outer, q⟩ := by
  refine leads_of_step (length_of_skipSpaces hs) fun k => ?_
  show skipFrom (k + 1) false (.list :: outer) s = _
  rw [skipFrom, hs]
  rfl

theorem skipFrom_list (hs : skipSpaces s = '[' :: q) (fuel : Nat) : skipFrom (fuel + 1) true outer s =
    match skipSpaces q with
    | ']' :: r => skipFrom fuel false outer r
    | [] => .error .truncated
    | r => skipFrom fuel true (.list :: outer) r := by
  rw [skipFrom, hs]
  rfl

theorem leads_list_empty (hs : skipSpaces s = '[' :: q) (hq : skipSpaces q = ']' :: r) :
    Leads ⟨true, outer, s⟩ ⟨false, outer, r⟩ := by
  have hl := Nat.lt_trans (length_of_skipSpaces hq) (length_of_skipSpaces hs)
  refine leads_of_step hl fun k => (skipFrom_list outer hs k).trans ?_
  rw [hq]
  rfl

theorem leads_list_open (hs : skipSpaces s = '[' :: q) (hn : nextItem true q = .ok (.more r)) :
    Leads ⟨true, outer, s⟩ ⟨true, .list :: outer, r⟩ := by
  have hl := Nat.lt_of_le_of_lt (length_of_nextItem hn) (length_of_skipSpaces hs)
  obtain ⟨hq, c, p, rfl, hc⟩ := of_nextItem_first hn
  refine leads_of_step hl fun k => (skipFrom_list outer hs k).trans ?_
  rw [hq]
  split
  · next he => exact absurd (List.cons.inj he).1 hc
  · next he => cases he
  · rfl

theorem leads_object_close (hs : skipSpaces s = '}' :: r) :
    Leads ⟨false, .object :: outer, s⟩ ⟨false, outer, r⟩ := by
  refine leads_of_step (length_of_skipSpaces hs) fun k => ?_
  show skipFrom (k + 1) false (.object :: outer) s = _
  rw [skipFrom, hs]
  rfl

theorem leads_object_comma (hs : skipSpaces s = ',' :: q) (hq : skipName q = .ok r)
    (hl : r.length < q.length) : Leads ⟨false, .object :: outer, s⟩ ⟨true, .object :: outer, r⟩ := by
  refine leads_of_step (Nat.lt_trans hl (length_of_skipSpaces hs)) fun k => ?_
  show skipFrom (k + 1) false (.object :: outer) s = _
  rw [skipFrom, hs]
  show skipName q >>= _ = _
  rw [hq]
  rfl

theorem skipFrom_object (hs : skipSpaces s = '{' :: q) (fuel : Nat) : skipFrom (fuel + 1) true outer s =
    match skipSpaces q with
    | '}' :: r => skipFrom fuel false outer r
    | r => skipName r >>= skipFrom fuel true (.object :: outer) := by
  rw [skipFrom, hs]
  rfl

theorem leads_object_empty (hs : skipSpaces s = '{' :: q) (hq : skipSpaces q = '}' :: r) :
    Leads ⟨true, outer, s⟩ ⟨false, outer, r⟩ := by
  have hl := Nat.lt_trans (length_of_skipSpaces hq) (length_of_skipSpaces hs)
  refine leads_of_step hl fun k => (skipFrom_object outer hs k).trans ?_
  rw [hq]
  rfl

theorem leads_object_open {body : List Char} (hs : skipSpaces s = '{' :: q)
    (hq : skipSpaces q = '"' :: body) (hn : skipName ('"' :: body) = .ok r)
    (hl : r.length < ('"' :: body).length) : Leads ⟨true, outer, s⟩ ⟨true, .object :: outer, r⟩ := by
  have hlq := Nat.lt_of_lt_of_le hl (length_of_skipSpaces hq)
  refine leads_of_step (Nat.lt_trans hlq (length_of_skipSpaces hs)) fun k => ?_
  refine (skipFrom_object outer hs k).trans ?_
  rw [hq]
  show skipName ('"' :: body) >>= _ = _
  rw [hn]
  rfl

end

/-! ## lists and objects -/

/-- what is read is passed, whatever brackets are open -/
def Passed (item : Reader Value) : Prop :=
  ∀ {s v r}, item s = .ok (v, r) → ∀ outer, Leads ⟨true, outer, s⟩ ⟨false, outer, r⟩

section
variable {item : Reader Value} {fuel : Nat} {s q r : List Char} (outer : List Enclosure)

-- the reader pays with a budget of its own, on which the inductions are, the loop with characters
theorem leads_readItems (hi : Passed item) {done vs : List Value}
    (h : readItems item fuel false done s = .ok (vs, r)) :
    Leads ⟨false, .list :: outer, s⟩ ⟨false, outer, r⟩ := by
  induction fuel generalizing done s with
  | zero => cases h
  | succ fuel ih =>
    rw [readItems] at h
    obtain ⟨next, hn, h⟩ := bind_eq_ok h
    cases next with
    | done q =>
      obtain ⟨-, rfl⟩ := Prod.mk.inj (Except.ok.inj h)
      exact leads_list_close outer (of_nextItem_done hn)
    | more q =>
      obtain ⟨⟨v, q'⟩, hv, h⟩ := bind_eq_ok h
      replace h : readItems item fuel false (v :: done) q' = .ok (vs, r) := h
      obtain ⟨p, hs, hp⟩ := of_nextItem_comma hn
      have hspaces := leads_skipSpaces (.list :: outer) p
      rw [hp] at hspaces
      exact (((leads_list_comma outer hs).trans hspaces).trans (hi hv _)).trans (ih h)

theorem leads_list (hi : Passed item) {vs : List Value} (hs : skipSpaces s = '[' :: q)
    (h : readItems item fuel true [] q = .ok (vs, r)) : Leads ⟨true, outer, s⟩ ⟨false, outer, r⟩ := by
  cases fuel with
  | zero => cases h
  | succ fuel =>
    rw [readItems] at h
    obtain ⟨next, hn, h⟩ := bind_eq_ok h
    cases next with
    | done q' =>
      obtain ⟨-, rfl⟩ := Prod.mk.inj (Except.ok.inj h)
      exact leads_list_empty outer hs (of_nextItem_done hn)
    | more q' =>
      obtain ⟨⟨v, t⟩, hv, h⟩ := bind_eq_ok h
      replace h : readItems item fuel false [v] t = .ok (vs, r) := h
      exact ((leads_list_open outer hs hn).trans (hi hv _)).trans (leads_readItems outer hi h)

theorem leads_readMembers (hi : Passed item) {done ms : List (String × Value)}
    (h : readMembers item fuel false done s = .ok (ms, r)) :
    Leads ⟨false, .object :: outer, s⟩ ⟨false, outer, r⟩ := by
  induction fuel generalizing done s with
  | zero => cases h
  | succ fuel ih =>
    rw [readMembers] at h
    obtain ⟨next, hn, h⟩ := bind_eq_ok h
    cases next with
    | done q =>
      obtain ⟨-, rfl⟩ := Prod.mk.inj (Except.ok.inj h)
      exact leads_object_close outer (of_nextMember_done hn)
    | more q =>
      obtain ⟨⟨name, q1⟩, hname, h⟩ := bind_eq_ok h
      obtain ⟨q2, hcolon, h⟩ := bind_eq_ok h
      obtain ⟨⟨v, q3⟩, hv, h⟩ := bind_eq_ok h
      replace h : readMembers item fuel false ((name, v) :: done) q3 = .ok (ms, r) := h
      obtain ⟨p, hs, hp⟩ := of_nextMember_comma hn
      obtain ⟨hskip, hl⟩ := skipName_of hp hname hcolon
      exact ((leads_object_comma outer hs hskip hl).trans (hi hv _)).trans (ih h)

theorem leads_object (hi : Passed item) {ms : List (String × Value)} (hs : skipSpaces s = '{' :: q)
    (h : readMembers item fuel true [] q = .ok (ms, r)) : Leads ⟨true, outer, s⟩ ⟨false, outer, r⟩ := by
  cases fuel with
  | zero => cases h
  | succ fuel =>
    rw [readMembers] at h
    obtain ⟨next, hn, h⟩ := bind_eq_ok h
    cases next with
    | done q' =>
      obtain ⟨-, rfl⟩ := Prod.mk.inj (Except.ok.inj h)
      exact leads_object_empty outer hs (of_nextMember_done hn)
    | more q' =>
      obtain ⟨⟨name, q1⟩, hname, h⟩ := bind_eq_ok h
      obtain ⟨q2, hcolon, h⟩ := bind_eq_ok h
      obtain ⟨⟨v, q3⟩, hv, h⟩ := bind_eq_ok h
      replace h : readMembers item fuel false [(name, v)] q3 = .ok (ms, r) := h
      have hq := of_nextMember_first hn
      obtain ⟨hskip, hl⟩ := skipName_of (hq ▸ skipSpaces_skipSpaces q) hname hcolon
      exact ((leads_object_open outer hs hq hskip hl).trans (hi hv _)).trans
        (leads_readMembers outer hi h)

end

/-! ## values -/

section
variable {budget depth n : Nat} {s r : List Char} {v : Value}

theorem leads_skipScalar {c : Char} {q : List Char} (hs : skipSpaces s = c :: q)
    (h : skipScalar (c :: q) = .ok r) (hl : c ≠ '[') (ho : c ≠ '{') (outer : List Enclosure) :
    Leads ⟨true, outer, s⟩ ⟨false, outer, r⟩ := by
  refine leads_of_step ?_ fun k => ?_
  · exact Nat.lt_of_lt_of_le (length_of_skipScalar h) (length_of_skipSpaces hs)
  · show skipFrom (k + 1) true outer s = _
    rw [skipFrom, hs]
    split
    · next he => exact absurd (List.cons.inj he).1 hl
    · next he => exact absurd (List.cons.inj he).1 ho
    · rw [h]
      rfl

theorem leads_scalar {c : Char} {q : List Char} (hs : skipSpaces s = c :: q)
    (h : readScalar (c :: q) = .ok (v, r)) (outer : List Enclosure) :
    Leads ⟨true, outer, s⟩ ⟨false, outer, r⟩ := by
  have hl : c ≠ '[' := by rintro rfl; cases h
  have ho : c ≠ '{' := by rintro rfl; cases h
  exact leads_skipScalar hs (skips_readScalar h) hl ho outer

theorem leads_readValue (budget depth : Nat) : Passed (readValue budget depth) := by
  induction depth with
  | zero =>
    intro s v r h outer
    cases reads_of_readValue h with
    | scalar c q hs h => exact leads_scalar hs h outer
  | succ depth ih =>
    intro s v r h outer
    cases reads_of_readValue h with
    | list _ q items hs h => exact leads_list outer ih hs h
    | object _ q members hs h => exact leads_object outer ih hs h
    | scalar c q hs h => exact leads_scalar hs h outer

theorem length_of_readValue (h : readValue budget depth s = .ok (v, r)) : r.length ≤ s.length := by
  obtain ⟨k, hk, -⟩ := leads_readValue budget depth h []
  exact Nat.le_trans (Nat.le_add_left _ _) hk

/-- a loop that comes to the end of a value is done -/
theorem skipValue_of_leads (h : Leads ⟨true, [], s⟩ ⟨false, [], r⟩) (hn : s.length ≤ n) :
    skipValue n s = .ok r := by
  obtain ⟨k, hk, hp⟩ := h
  dsimp only at hk
  have hf : n + 1 = n - k + 1 + k := by omega
  show skipFrom (n + 1) true [] s = .ok r
  rw [hf]
  exact hp (n - k + 1)

/-- **What is passed over.** A value that can be read is passed, up to where reading it ends. -/
theorem skipValue_of_readValue (h : readValue budget depth s = .ok (v, r)) (hn : s.length ≤ n) :
    skipValue n s = .ok r := skipValue_of_leads (leads_readValue budget depth h []) hn

end

end ServerConsole.Json
