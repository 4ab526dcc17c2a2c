import ServerConsole.Json.Bytes
import ServerConsole.Proofs.Json.Passed

/-!
# Texts that differ in ill-formed pieces

One text has its ill-formed pieces spelled, so that no string that is kept holds one, the other has them
replaced. A reader that gets through the first text goes the same way in the second, and one that passes
strings over does so the other way round as well.

* `Alike`    two such texts, and `Similar`, what they share with the same two taken the other way round;
* `Follows`  what the one outcome gives, the other one gives as well;
* `Keeps`    a reader that goes the same way in both texts. A reader that looks at the next character
             only is a chain of `behind`, and keeps where its links do (`keeps_behind`);
* `keeps_readString`, `keeps_skipString`, `keeps_readNumber`, `keeps_skipNumber`,
  `keeps_nextItem`, `keeps_nextMember`  strings, numbers and separators.
-/

namespace ServerConsole.Json

open Text

/-! ## texts that are alike -/

/-- ill-formed pieces are spelled on the left and replaced on the right -/
inductive Alike : List Char → List Char → Prop
  | nil : Alike [] []
  | char (c : Char) {s t : List Char} (h : Alike s t) : Alike (c :: s) (c :: t)
  | piece {s t : List Char} (h : Alike s t) : Alike (replacement :: (loneHalf ++ s)) (replacement :: t)

theorem alike_spelled (ps : List (Option Char)) : Alike (spelled ps) (ps.map (·.getD replacement)) := by
  induction ps with
  | nil => exact .nil
  | cons p ps ih =>
    cases p with
    | none => exact .piece ih
    | some c => exact .char c ih

theorem readHex4_loneHalf (s : List Char) : readHex4 (['d', 'c', '0', '0'] ++ s) = .ok (0xdc00, s) :=
  readHex4_append rfl (by decide +kernel) s

theorem skipString_loneHalf (s : List Char) : skipString (loneHalf ++ s) = skipString s :=
  skipString_unicode (readHex4_loneHalf s)

/-- the texts start with the same character. Behind any but one they are similar again, and behind this
one they are so for all that is passed over in a string. -/
class Similar (A : List Char → List Char → Prop) : Prop where
  nil : ∀ {t}, A [] t → t = []
  cons : ∀ {c s t}, A (c :: s) t → ∃ t', t = c :: t' ∧ (c ≠ replacement → A s t')
  inside : ∀ {s t}, A (replacement :: s) (replacement :: t) → ∃ s' t', s'.length ≤ s.length ∧
    skipString s = skipString s' ∧ skipString t = skipString t' ∧ A s' t'

instance : Similar Alike where
  nil h := by cases h; rfl
  cons h := by
    cases h with
    | char _ h => exact ⟨_, rfl, fun _ => h⟩
    | piece h => exact ⟨_, rfl, fun hc => absurd rfl hc⟩
  inside h := by
    cases h with
    | char _ h => exact ⟨_, _, Nat.le_refl _, rfl, rfl, h⟩
    | piece h => exact ⟨_, _, (List.sublist_append_right _ _).length_le, skipString_loneHalf _, rfl, h⟩

instance : Similar (flip Alike) where
  nil h := by cases h; rfl
  cons h := by
    cases h with
    | char _ h => exact ⟨_, rfl, fun _ => h⟩
    | piece h => exact ⟨_, rfl, fun hc => absurd rfl hc⟩
  inside h := by
    cases h with
    | char _ h => exact ⟨_, _, Nat.le_refl _, rfl, rfl, h⟩
    | piece h => exact ⟨_, _, Nat.le_refl _, rfl, skipString_loneHalf _, h⟩

namespace Similar

variable {A : List Char → List Char → Prop} [Similar A] {c : Char} {s t q : List Char}

theorem head (h : A s t) (hs : s = c :: q) (hc : c ≠ replacement) : ∃ q', t = c :: q' ∧ A q q' := by
  obtain ⟨q', rfl, hq⟩ := cons (hs ▸ h)
  exact ⟨q', rfl, hq hc⟩

theorem ne_replacement {p : Char → Bool} (hp : p replacement = false) (hc : p c = true) :
    c ≠ replacement := by
  rintro rfl
  cases hp.symm.trans hc

theorem startsWithDigit (h : A s t) : startsWithDigit s = startsWithDigit t := by
  cases s with
  | nil => rw [nil h]
  | cons c s =>
    obtain ⟨t, rfl, -⟩ := cons h
    rfl

theorem takeWhile {p : Char → Bool} (hp : p replacement = false) (h : A s t) :
    s.takeWhile p = t.takeWhile p := by
  induction s generalizing t with
  | nil => rw [nil h]
  | cons c s ih =>
    obtain ⟨t, rfl, ht⟩ := cons h
    rw [List.takeWhile_cons, List.takeWhile_cons]
    split
    · next hc => rw [ih (ht (ne_replacement hp hc))]
    · rfl

theorem dropWhile {p : Char → Bool} (hp : p replacement = false) (h : A s t) :
    A (s.dropWhile p) (t.dropWhile p) := by
  induction s generalizing t with
  | nil =>
    obtain rfl := nil h
    exact h
  | cons c s ih =>
    obtain ⟨t, rfl, ht⟩ := cons h
    rw [List.dropWhile_cons, List.dropWhile_cons]
    split
    · next hc => exact ih (ht (ne_replacement hp hc))
    · exact h

theorem skipSpaces (h : A s t) : A (skipSpaces s) (skipSpaces t) := dropWhile (by decide) h

theorem dropDigits (h : A s t) : A (dropDigits s) (dropDigits t) := dropWhile (by decide) h

theorem takeSignificand (h : A s t) (n taken : Nat) :
    ∃ m k r r', takeSignificand n taken s = (m, k, r) ∧ takeSignificand n taken t = (m, k, r') ∧
      A r r' := by
  induction s generalizing t n taken with
  | nil =>
    obtain rfl := nil h
    exact ⟨n, taken, [], [], rfl, rfl, h⟩
  | cons c s ih =>
    obtain ⟨t, rfl, ht⟩ := cons h
    rw [Json.takeSignificand, Json.takeSignificand]
    split
    · next hc =>
      have hr : isDigit replacement = false := by decide
      exact ih (ht (ne_replacement hr (Bool.and_eq_true_iff.mp hc).1)) _ _
    · exact ⟨n, taken, _, _, rfl, rfl, h⟩

end Similar

/-! ## outcomes -/

/-- what the one gives, the other one gives as well -/
def Follows {α β : Type} (R : α → β → Prop) (x : Except Fault α) (y : Except Fault β) : Prop :=
  ∀ a, x = .ok a → ∃ b, y = .ok b ∧ R a b

section
variable {α β γ δ : Type} {R : α → β → Prop} {S : γ → δ → Prop}

theorem follows_ok {a : α} {b : β} (h : R a b) : Follows R (.ok a) (.ok b) := by
  intro a' ha
  cases ha
  exact ⟨b, rfl, h⟩

theorem follows_error (f : Fault) (y : Except Fault β) : Follows R (.error f) y := nofun

theorem Follows.bind {x : Except Fault α} {y : Except Fault β} (h : Follows R x y)
    {f : α → Except Fault γ} {g : β → Except Fault δ} (hk : ∀ a b, R a b → Follows S (f a) (g b)) :
    Follows S (x >>= f) (y >>= g) := by
  intro c hc
  obtain ⟨a, ha, hc⟩ := bind_eq_ok hc
  obtain ⟨b, hb, hr⟩ := h a ha
  obtain ⟨d, hd, hs⟩ := hk a b hr c hc
  exact ⟨d, by rw [hb]; exact hd, hs⟩

end

/-! ## readers -/

/-- goes the same way in both texts -/
def Keeps {α : Type} (A : List Char → List Char → Prop) (R : α → α → Prop)
    (f : List Char → Except Fault α) : Prop :=
  ∀ ⦃s t⦄, A s t → Follows R (f s) (f t)

/-- the same is taken, and what is left is related -/
def Taken {α : Type} (A : List Char → List Char → Prop) (p q : α × List Char) : Prop :=
  p.1 = q.1 ∧ A p.2 q.2

/-- both texts end here, or both go on -/
inductive NextAlike (A : List Char → List Char → Prop) : Next → Next → Prop
  | done {r r' : List Char} (h : A r r') : NextAlike A (.done r) (.done r')
  | more {r r' : List Char} (h : A r r') : NextAlike A (.more r) (.more r')

/-- goes on unless the text is at its end -/
def within {α : Type} (f : List Char → Except Fault α) : List Char → Except Fault α
  | [] => .error .truncated
  | c :: s => f (c :: s)

theorem within_of_ne {α : Type} {f : List Char → Except Fault α} {s : List Char} (h : s = [] → False) :
    within f s = f s := by
  cases s with
  | nil => exact (h rfl).elim
  | cons c s => rfl

variable {A : List Char → List Char → Prop}

section
variable {α β : Type} {R : α → α → Prop} {f g : List Char → Except Fault α}

theorem keeps_error (e : List Char → Fault) : Keeps A R fun s => .error (e s) := fun _ _ _ =>
  follows_error _ _

theorem keeps_ok : Keeps A A .ok := fun _ _ h => follows_ok h

theorem keeps_done : Keeps A (NextAlike A) fun r => .ok (.done r) := fun _ _ h => follows_ok (.done h)

theorem keeps_more : Keeps A (NextAlike A) fun r => .ok (.more r) := fun _ _ h => follows_ok (.more h)

/-- reads nothing -/
theorem keeps_lift (x : Except Fault α) : Keeps A (Taken A) fun s => x.map fun a => (a, s) := by
  intro s t h
  cases x with
  | error e => exact follows_error _ _
  | ok a => exact follows_ok ⟨rfl, h⟩

theorem Keeps.bind {f : List Char → Except Fault (α × List Char)} (hf : Keeps A (Taken A) f)
    {k : α → List Char → Except Fault (β × List Char)} (hk : ∀ x, Keeps A (Taken A) (k x)) :
    Keeps A (Taken A) fun s => f s >>= fun p => k p.1 p.2 := by
  refine fun s t h => (hf h).bind ?_
  rintro ⟨x, r⟩ ⟨y, r'⟩ ⟨rfl, hr⟩
  exact hk x hr

/-- one after the other -/
theorem Keeps.andThen {f : List Char → Except Fault (List Char)} (hf : Keeps A A f) (hg : Keeps A R g) :
    Keeps A R fun s => f s >>= g := fun _ _ h => (hf h).bind fun _ _ hr => hg hr

/-- what is passed stands for a value -/
theorem Keeps.map {f : List Char → Except Fault (List Char)} (hf : Keeps A A f) (x : β) :
    Keeps A (Taken A) fun s => (f s).map fun r => (x, r) := by
  intro s t h
  simp only [map_eq_bind]
  exact (hf h).bind fun _ _ hr => follows_ok ⟨rfl, hr⟩

variable [Similar A]

theorem Keeps.spaced (hf : Keeps A R f) : Keeps A R fun s => f (skipSpaces s) := fun _ _ h =>
  hf (Similar.skipSpaces h)

theorem keeps_within (hf : Keeps A R f) : Keeps A R (within f) := by
  intro s t h
  cases s with
  | nil => exact follows_error _ _
  | cons c s =>
    obtain ⟨t, rfl, -⟩ := Similar.cons h
    exact hf h

theorem keeps_behind {a : Char} (ha : a ≠ replacement) (hf : Keeps A R f) (hg : Keeps A R g) :
    Keeps A R (behind a f g) := by
  intro s t h
  cases s with
  | nil =>
    obtain rfl := Similar.nil h
    exact hg h
  | cons c s =>
    obtain ⟨t, rfl, ht⟩ := Similar.cons h
    unfold behind
    dsimp only
    split
    · next hc => exact hf (ht (hc ▸ ha))
    · exact hg h

theorem keeps_digit (hf : Keeps A R f) (hg : Keeps A R g) :
    Keeps A R fun s => if startsWithDigit s then f s else g s := by
  intro s t h
  dsimp only
  rw [Similar.startsWithDigit h]
  split
  · exact hf h
  · exact hg h

end

/-! ## strings that are passed over -/

section
variable [Similar A]

theorem keeps_readHex4 : Keeps A (Taken A) readHex4 := by
  rintro s t h ⟨n, r⟩ hr
  unfold readHex4 at hr
  split at hr
  · next a b c d rest =>
    split at hr
    · next hn =>
      cases hr
      have hd : ∀ x ∈ [a, b, c, d], x ≠ replacement := by
        rintro x hx rfl
        exact absurd (isHex_of_hexNumber? hn _ hx) (by decide)
      obtain ⟨t1, rfl, h1⟩ := Similar.head h rfl (hd a (by simp))
      obtain ⟨t2, rfl, h2⟩ := Similar.head h1 rfl (hd b (by simp))
      obtain ⟨t3, rfl, h3⟩ := Similar.head h2 rfl (hd c (by simp))
      obtain ⟨t4, rfl, h4⟩ := Similar.head h3 rfl (hd d (by simp))
      exact ⟨(n, t4), by rw [readHex4, hn], rfl, h4⟩
    · cases hr
  · cases hr

theorem keeps_skipEscape : Keeps A A skipEscape := by
  intro s t h r hr
  cases s with
  | nil => cases hr
  | cons c s =>
    rw [skipEscape] at hr
    split at hr
    · next hc =>
      subst hc
      obtain ⟨t, rfl, ht⟩ := Similar.head h rfl (by decide)
      rw [map_eq_bind] at hr
      obtain ⟨⟨n, q⟩, hq, hr⟩ := bind_eq_ok hr
      cases hr
      obtain ⟨⟨_, q'⟩, hq', rfl, hl⟩ := keeps_readHex4 ht _ hq
      refine ⟨q', ?_, hl⟩
      rw [skipEscape, if_pos rfl, hq']
      rfl
    · next hu =>
      split at hr
      · next hc =>
        have hne : c ≠ replacement := by
          rintro rfl
          exact absurd hc (by decide)
        cases hr
        obtain ⟨t, rfl, ht⟩ := Similar.head h rfl hne
        exact ⟨t, by rw [skipEscape, if_neg hu, if_pos hc], ht⟩
      · cases hr

theorem of_skipString_escape {s r : List Char} (h : skipString ('\\' :: s) = .ok r) :
    ∃ q, skipEscape s = .ok q ∧ skipString q = .ok r := by
  rw [skipString, if_neg (by decide), if_pos rfl] at h
  split at h
  · cases h
  · next q hq => exact ⟨q, hq, h⟩

-- on the length of a text, as behind the replacement character it goes on with a part of the rest
theorem keeps_skipString : Keeps A A skipString := by
  intro s t h
  induction hn : s.length using Nat.strong_induction_on generalizing s t with
  | _ n ih =>
  subst hn
  cases s with
  | nil =>
    rw [skipString]
    exact follows_error _ _
  | cons c s =>
    obtain ⟨t, rfl, ht⟩ := Similar.cons h
    by_cases hr : c = replacement
    · subst hr
      obtain ⟨s', t', hl, hs, ht, h'⟩ := Similar.inside h
      rw [skipString_char (by decide) (by decide) (by decide),
        skipString_char (by decide) (by decide) (by decide), hs, ht]
      exact ih _ (Nat.lt_succ_of_le hl) h' rfl
    replace ht := ht hr
    by_cases hq : c = '"'
    · subst hq
      rw [skipString, skipString, if_pos rfl, if_pos rfl]
      exact follows_ok ht
    by_cases hb : c = '\\'
    · subst hb
      intro r hskip
      obtain ⟨q, hq, hskip⟩ := of_skipString_escape hskip
      obtain ⟨q', hq', hA⟩ := keeps_skipEscape ht q hq
      rw [skipString_escape hq']
      exact ih _ (Nat.lt_succ_of_lt (skipEscape_length hq)) hA rfl r hskip
    by_cases hc : c.val < 0x20
    · rw [skipString, if_neg hq, if_neg hb, if_pos hc]
      exact follows_error _ _
    · rw [skipString_char hq hb hc, skipString_char hq hb hc]
      exact ih _ (Nat.lt_succ_self _) ht rfl

end

/-! ## strings that are kept -/

theorem keeps_readLowHalf (high : Nat) : Keeps Alike (Taken Alike) (readLowHalf high) := by
  rintro s t h ⟨c, r⟩ hr
  unfold readLowHalf at hr
  split at hr
  · cases hr
  · cases hr
  · split at hr
    · cases hr
    · next hx =>
      obtain ⟨t1, rfl, h1⟩ := Similar.head h rfl (by decide)
      obtain ⟨t2, rfl, h2⟩ := Similar.head h1 rfl (by decide)
      obtain ⟨⟨low, q⟩, hq, rfl, hl⟩ := keeps_readHex4 h2 _ hx
      rw [readLowHalf_unicode hq]
      split at hr
      · next hlow =>
        obtain ⟨rfl, rfl⟩ := Prod.mk.inj (Except.ok.inj hr)
        rw [if_pos hlow]
        exact ⟨(_, q), rfl, rfl, hl⟩
      · cases hr
  · cases hr

theorem keeps_readEscape : Keeps Alike (Taken Alike) readEscape := by
  rintro s t h ⟨c, r⟩ hr
  unfold readEscape at hr
  split at hr
  case h_10 =>
    obtain ⟨t, rfl, ht⟩ := Similar.head h rfl (by decide)
    split at hr
    · cases hr
    · next hx =>
      obtain ⟨⟨n, q⟩, hq, rfl, hl⟩ := keeps_readHex4 ht _ hx
      rw [readEscape_unicode hq]
      split at hr
      · cases hr
      · next hlow =>
        rw [if_neg hlow]
        split at hr
        · next hhigh =>
          rw [if_pos hhigh]
          exact keeps_readLowHalf _ hl _ hr
        · next hhigh =>
          rw [if_neg hhigh]
          cases hr
          exact ⟨(_, q), rfl, rfl, hl⟩
  case h_1 => cases hr
  case h_11 => cases hr
  all_goals
    cases hr
    obtain ⟨t, rfl, ht⟩ := Similar.head h rfl (by decide)
    exact ⟨(_, t), rfl, rfl, ht⟩

/-- a string that is kept holds no ill-formed piece -/
theorem readBody_loneHalf (done s : List Char) : readBody done (loneHalf ++ s) = .error .malformed := by
  have he : readEscape ('u' :: ['d', 'c', '0', '0'] ++ s) = .error .malformed :=
    readEscape_unicode (readHex4_loneHalf s)
  show readBody done ('\\' :: ('u' :: ['d', 'c', '0', '0'] ++ s)) = _
  rw [readBody, if_neg (by decide), if_pos rfl]
  split
  · next h => rw [he] at h; cases h; rfl
  · next h => rw [he] at h; cases h

theorem keeps_readBody (done : List Char) : Keeps Alike (Taken Alike) (readBody done) := by
  rintro s t h ⟨text, r⟩ hr
  fun_induction readBody done s generalizing t with
  | case1 => cases hr
  | case2 done s =>
    cases hr
    obtain ⟨t, rfl, ht⟩ := Similar.head h rfl (by decide)
    exact ⟨(_, t), readBody_quote, rfl, ht⟩
  | case3 => cases hr
  | case4 done s e s' he _ _ ih =>
    obtain ⟨t, rfl, ht⟩ := Similar.head h rfl (by decide)
    obtain ⟨⟨_, q⟩, hq, rfl, hl⟩ := keeps_readEscape ht _ he
    rw [readBody_escape hq]
    exact ih hl hr
  | case5 => cases hr
  | case6 done c s hq hb hc ih =>
    cases h with
    | char _ h =>
      rw [readBody_char hq hb hc]
      exact ih h hr
    | piece h =>
      rw [readBody_loneHalf] at hr
      cases hr

theorem keeps_readString : Keeps Alike (Taken Alike) readString := keeps_readBody []

/-! ## numbers -/

variable [Similar A]

theorem keeps_readPower (negative : Bool) : Keeps A (Taken A) (readPower negative) := by
  refine keeps_digit (fun s t h => ?_) (keeps_error unexpected)
  rw [Similar.takeWhile (by decide) h]
  exact follows_ok ⟨rfl, Similar.dropDigits h⟩

theorem keeps_readExponent : Keeps A (Taken A) readExponent := by
  rw [readExponent_eq]
  exact keeps_behind (by decide) (keeps_readPower false)
    (keeps_behind (by decide) (keeps_readPower true) (keeps_readPower false))

theorem keeps_readScale (positive : Bool) (n : Nat) (x : Int) : Keeps A (Taken A) (readScale positive n x) :=
  keeps_readExponent.bind fun e => keeps_lift (realOf positive n (x + e))

theorem keeps_finishReal (positive : Bool) (n : Nat) (x : Int) : Keeps A (Taken A) (finishReal positive n x) := by
  rw [finishReal_eq]
  exact keeps_behind (by decide) (keeps_readScale positive n x)
    (keeps_behind (by decide) (keeps_readScale positive n x) (keeps_lift _))

theorem keeps_readFraction (positive : Bool) (n : Nat) (x : Int) :
    Keeps A (Taken A) (readFraction positive n x) := by
  refine keeps_digit (fun s t h => ?_) (keeps_error unexpected)
  obtain ⟨m, k, r, r', hs, ht, hr⟩ := Similar.takeSignificand h n 0
  rw [hs, ht]
  exact keeps_finishReal _ _ _ (Similar.dropDigits hr)

theorem keeps_finishInteger (positive : Bool) (n : Nat) : Keeps A (Taken A) (finishInteger positive n) := by
  rw [finishInteger_eq]
  exact keeps_behind (by decide) (keeps_readFraction positive n 0)
    (keeps_behind (by decide) (keeps_readScale positive n 0)
      (keeps_behind (by decide) (keeps_readScale positive n 0) (keeps_lift _)))

theorem keeps_finishScaled (positive : Bool) (n : Nat) (more : Int) :
    Keeps A (Taken A) (finishScaled positive n more) :=
  keeps_behind (by decide) (keeps_readFraction positive n more) (keeps_finishReal positive n more)

theorem keeps_finishLong (positive : Bool) (n : Nat) : Keeps A (Taken A) (finishLong positive n) := by
  intro s t h
  rw [finishLong_eq, finishLong_eq, Similar.takeWhile (by decide) h]
  exact keeps_finishScaled _ _ _ (Similar.dropDigits h)

theorem keeps_finishWhole (positive : Bool) (n : Nat) : Keeps A (Taken A) (finishWhole positive n) :=
  keeps_digit (keeps_finishLong positive n) (keeps_finishInteger positive n)

theorem keeps_readNumber (positive : Bool) : Keeps A (Taken A) (readNumber positive) := by
  rw [readNumber_eq]
  refine keeps_behind (by decide) (keeps_digit (keeps_error _) (keeps_finishInteger positive 0))
    (keeps_digit (fun s t h => ?_) (keeps_error unexpected))
  obtain ⟨m, k, r, r', hs, ht, hr⟩ := Similar.takeSignificand h 0 0
  rw [hs, ht]
  exact keeps_finishWhole _ _ hr

theorem keeps_skipDigits : Keeps A A skipDigits :=
  keeps_digit (fun _ _ h => follows_ok (Similar.dropDigits h)) (keeps_error _)

theorem keeps_skipExponent : Keeps A A skipExponent := by
  have hp : Keeps A A skipPower :=
    keeps_behind (by decide) keeps_skipDigits (keeps_behind (by decide) keeps_skipDigits keeps_skipDigits)
  rw [skipExponent_eq]
  exact keeps_behind (by decide) hp (keeps_behind (by decide) hp keeps_ok)

theorem keeps_skipBehind : Keeps A A skipBehind := by
  refine Keeps.andThen ?_ keeps_skipExponent
  rw [skipFraction_eq]
  exact keeps_behind (by decide) keeps_skipDigits keeps_ok

theorem keeps_skipNumber : Keeps A A skipNumber := by
  have hw : Keeps A A skipWhole := by
    rw [skipWhole_eq]
    exact keeps_behind (by decide) (keeps_digit (keeps_error _) keeps_ok) keeps_skipDigits
  rw [funext skipNumber_eq]
  exact hw.andThen keeps_skipBehind

/-! ## words and separators -/

theorem keeps_readWord {ws : List Char} (hw : replacement ∉ ws) : Keeps A A (readWord ws) := by
  induction ws with
  | nil => exact keeps_ok
  | cons w ws ih =>
    rw [List.mem_cons, not_or] at hw
    intro s t h
    cases s with
    | nil => exact follows_error _ _
    | cons c s =>
      obtain ⟨t, rfl, ht⟩ := Similar.cons h
      rw [readWord, readWord]
      split
      · next hc => exact ih hw.2 (ht (hc ▸ Ne.symm hw.1))
      · exact follows_error _ _

theorem readColon_eq (s : List Char) :
    readColon s = behind ':' .ok (fun r => .error (unexpected r)) (skipSpaces s) := by
  unfold readColon
  split
  · next h => rw [h]; rfl
  · next h => rw [behind_of_ne h]

theorem keeps_readColon : Keeps A A readColon := by
  rw [funext readColon_eq]
  exact (keeps_behind (by decide) keeps_ok (keeps_error _)).spaced

/-- a text that comes next is an item -/
def itemNext : List Char → Except Fault Next := within fun r => .ok (.more r)

theorem keeps_itemNext : Keeps A (NextAlike A) itemNext := keeps_within keeps_more

theorem nextItem_first (s : List Char) : nextItem true s =
    behind ']' (fun r => .ok (.done r)) itemNext (skipSpaces s) := by
  unfold nextItem
  split
  · next h => rw [h]; rfl
  · next h => rw [h]; rfl
  · next c r hc h =>
    rw [h, behind_of_ne fun q he => hc (List.cons.inj he).1]
    rfl

theorem nextItem_later (s : List Char) : nextItem false s =
    behind ']' (fun r => .ok (.done r))
      (behind ',' (fun r => behind ']' (fun _ => .error .malformed) itemNext (skipSpaces r))
        fun r => .error (unexpected r)) (skipSpaces s) := by
  unfold nextItem
  split
  · next h => rw [h]; rfl
  · next h => rw [h]; rfl
  · next c r hc h =>
    rw [h, behind_of_ne fun q he => hc (List.cons.inj he).1, if_neg Bool.false_ne_true]
    unfold behind
    dsimp only
    split
    · show _ = behind ']' _ itemNext (skipSpaces r)
      split
      · next hr => rw [hr]; rfl
      · next hr => rw [hr]; rfl
      · next hn hb => rw [behind_of_ne hb, itemNext, within_of_ne hn]
    · rfl

theorem keeps_nextItem (first : Bool) : Keeps A (NextAlike A) (nextItem first) := by
  cases first with
  | true =>
    rw [funext nextItem_first]
    exact (keeps_behind (by decide) keeps_done keeps_itemNext).spaced
  | false =>
    have hc : Keeps A (NextAlike A) fun r => behind ']' (fun _ => .error .malformed) itemNext (skipSpaces r) :=
      (keeps_behind (by decide) (keeps_error _) keeps_itemNext).spaced
    rw [funext nextItem_later]
    exact (keeps_behind (by decide) keeps_done (keeps_behind (by decide) hc (keeps_error _))).spaced

/-- the name of a member, from its opening quote -/
def nameNext : List Char → Except Fault Next :=
  behind '"' (fun r => .ok (.more r)) fun r => .error (unexpected r)

theorem keeps_nameNext : Keeps A (NextAlike A) nameNext := keeps_behind (by decide) keeps_more (keeps_error _)

theorem nextMember_first (s : List Char) : nextMember true s =
    behind '}' (fun r => .ok (.done r)) nameNext (skipSpaces s) := by
  unfold nextMember
  split
  · next h => rw [h]; rfl
  · next h => rw [h]; rfl
  · next h => rw [h]; rfl
  · next hb hc hq =>
    rw [behind_of_ne hb, nameNext, behind_of_ne hq]

theorem nextMember_later (s : List Char) : nextMember false s =
    behind '}' (fun r => .ok (.done r)) (behind ',' (fun r => nameNext (skipSpaces r))
      fun r => .error (unexpected r)) (skipSpaces s) := by
  unfold nextMember
  split
  · next h => rw [h]; rfl
  · next r h =>
    rw [h, behind_of_ne (by simp), behind_self, if_neg Bool.false_ne_true]
    split
    · next hq => rw [hq]; rfl
    · next hq => rw [nameNext, behind_of_ne hq]
  · next h => rw [h]; rfl
  · next hb hc hq => rw [behind_of_ne hb, behind_of_ne hc]

theorem keeps_nextMember (first : Bool) : Keeps A (NextAlike A) (nextMember first) := by
  cases first with
  | true =>
    rw [funext nextMember_first]
    exact (keeps_behind (by decide) keeps_done keeps_nameNext).spaced
  | false =>
    rw [funext nextMember_later]
    exact (keeps_behind (by decide) keeps_done
      (keeps_behind (by decide) keeps_nameNext.spaced (keeps_error _))).spaced

end ServerConsole.Json
