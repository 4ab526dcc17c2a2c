import ServerConsole.Proofs.Json.Quoted
import ServerConsole.Proofs.Outcome

/-!
# Words and numbers by themselves

* `Local`              a reader that does not look behind the run it reads;
* `local_readNumber`   reading a number is so;
* `readScalar_append`  a run that is a value stays this value in front of any clean text;
* `readScalar_run`     a value read in front of a clean text is the value of the whole run.
-/

namespace ServerConsole.Json

open Text

/-! ## clean texts -/

/-- the characters no plain run goes on with -/
def stops : List Char := [' ', '\n', '\t', '\r', '{', '}', '[', ']', ':', ',', '"']

theorem mem_stops {c : Char} (h : isPlain c = false) : c ∈ stops := by
  have hc : isSpace c = true ∨ isMark c = true ∨ c = '"' := by
    by_cases hs : isSpace c = true
    · exact .inl hs
    · by_cases hm : isMark c = true
      · exact .inr (.inl hm)
      · by_cases hq : c = '"'
        · exact .inr (.inr hq)
        · rw [isPlain_eq_true (Bool.eq_false_iff.mpr hs) (Bool.eq_false_iff.mpr hm) hq] at h
          cases h
  rcases hc with hs | hm | rfl
  · have hc : ((c = ' ' ∨ c = '\n') ∨ c = '\t') ∨ c = '\r' := by simpa [isSpace] using hs
    rcases hc with ((rfl | rfl) | rfl) | rfl <;> decide
  · have hc : c = '{' ∨ c = '}' ∨ c = '[' ∨ c = ']' ∨ c = ':' ∨ c = ',' := by
      simpa [isMark] using hm
    rcases hc with rfl | rfl | rfl | rfl | rfl | rfl <;> decide
  · decide

/-- a clean text is empty or starts with a character that no number goes on with -/
theorem Clean.cases {q : List Char} (h : Clean q) :
    q = [] ∨ ∃ c r, q = c :: r ∧ isDigit c = false ∧ c ≠ '.' ∧ c ≠ 'e' ∧ c ≠ 'E' ∧ c ≠ '+' ∧
      c ≠ '-' := by
  cases q with
  | nil => exact .inl rfl
  | cons c r =>
    have hs : ∀ d ∈ stops, isDigit d = false ∧ d ≠ '.' ∧ d ≠ 'e' ∧ d ≠ 'E' ∧ d ≠ '+' ∧ d ≠ '-' := by
      simp [stops, isDigit]
    exact .inr ⟨c, r, rfl, hs c (mem_stops (h c rfl))⟩

section
variable {q s : List Char}

theorem Clean.startsWithDigit (h : Clean q) : startsWithDigit q = false := by
  rcases h.cases with rfl | ⟨c, r, rfl, hd, -⟩
  · rfl
  · exact hd

theorem startsWithDigit_append (h : Clean q) : startsWithDigit (s ++ q) = startsWithDigit s := by
  cases s with
  | nil => exact h.startsWithDigit
  | cons c s => rfl

theorem Clean.takeDigits (h : Clean q) : q.takeWhile isDigit = [] := by
  rcases h.cases with rfl | ⟨c, r, rfl, hd, -⟩
  · rfl
  · exact List.takeWhile_cons_of_neg (by simp [hd])

theorem Clean.dropDigits (h : Clean q) : q.dropWhile isDigit = q := by
  rcases h.cases with rfl | ⟨c, r, rfl, hd, -⟩
  · rfl
  · exact List.dropWhile_cons_of_neg (by simp [hd])

theorem takeDigits_append (h : Clean q) : (s ++ q).takeWhile isDigit = s.takeWhile isDigit := by
  rw [List.takeWhile_append]
  split
  · next hl =>
    rw [h.takeDigits, List.append_nil, (List.takeWhile_prefix isDigit).eq_of_length hl]
  · rfl

theorem dropDigits_append (h : Clean q) : dropDigits (s ++ q) = dropDigits s ++ q := by
  unfold dropDigits
  rw [List.dropWhile_append]
  split
  · next hl => rw [h.dropDigits, List.isEmpty_iff.mp hl, List.nil_append]
  · rfl

theorem dropDigits_suffix (s : List Char) : dropDigits s <:+ s := List.dropWhile_suffix isDigit

theorem takeSignificand_append (h : Clean q) (n taken : Nat) :
    takeSignificand n taken (s ++ q) =
      ((takeSignificand n taken s).1, (takeSignificand n taken s).2.1,
        (takeSignificand n taken s).2.2 ++ q) := by
  induction s generalizing n taken with
  | nil =>
    rcases h.cases with rfl | ⟨c, r, rfl, hd, -⟩
    · rfl
    · simp [takeSignificand, hd]
  | cons c s ih =>
    rw [List.cons_append, takeSignificand, takeSignificand]
    split
    · exact ih _ _
    · rfl

theorem takeSignificand_suffix (n taken : Nat) (s : List Char) :
    (takeSignificand n taken s).2.2 <:+ s := by
  induction s generalizing n taken with
  | nil => exact List.suffix_refl []
  | cons c s ih =>
    rw [takeSignificand]
    split
    · exact (ih _ _).trans (List.suffix_cons c s)
    · exact List.suffix_refl _

end

/-! ## local readers -/

/-- a reader that meets the end of what it reads, and a clean text there, in the same way -/
structure Local {α : Type} (f : List Char → Except Fault (α × List Char)) : Prop where
  append : ∀ {s q}, Clean q →
    (f (s ++ q)).toOption = (f s).toOption.map fun (x, r) => (x, r ++ q)
  suffix : ∀ {s x r}, f s = .ok (x, r) → r <:+ s

/-- goes on behind a character if it comes next -/
def behind {β : Type} (a : Char) (f g : List Char → β) : List Char → β
  | [] => g []
  | c :: s => if c = a then f s else g (c :: s)

theorem behind_of_ne {β : Type} {a : Char} {f g : List Char → β} {s : List Char}
    (h : ∀ r, s = a :: r → False) : behind a f g s = g s := by
  cases s with
  | nil => rfl
  | cons c s =>
    have hc : c ≠ a := by
      rintro rfl
      exact h s rfl
    exact if_neg hc

theorem behind_self {β : Type} (a : Char) (f g : List Char → β) (s : List Char) :
    behind a f g (a :: s) = f s := if_pos rfl

theorem behind_cons {β : Type} {a c : Char} (h : c ≠ a) (f g : List Char → β) (s : List Char) :
    behind a f g (c :: s) = g (c :: s) := if_neg h

section
variable {α β : Type} {f g : List Char → Except Fault (α × List Char)}

theorem local_error (e : List Char → Fault) :
    Local fun s => (.error (e s) : Except Fault (α × List Char)) where
  append _ := rfl
  suffix h := by cases h

/-- reads nothing -/
theorem local_lift (x : Except Fault α) : Local fun s => x.map fun a => (a, s) where
  append _ := by cases x <;> rfl
  suffix h := by
    cases x with
    | error e => cases h
    | ok a =>
      obtain ⟨-, rfl⟩ := Prod.mk.inj (Except.ok.inj h)
      exact List.suffix_refl _

theorem Local.bind (hf : Local f) {k : α → List Char → Except Fault (β × List Char)}
    (hk : ∀ x, Local (k x)) : Local fun s => f s >>= fun (x, r) => k x r where
  append {s q} hq := by
    rw [toOption_bind, toOption_bind, hf.append hq]
    cases (f s).toOption with
    | none => rfl
    | some p => exact (hk p.1).append hq
  suffix {s y r} h := by
    obtain ⟨⟨x, t⟩, hx, hy⟩ := bind_eq_ok h
    exact ((hk x).suffix hy).trans (hf.suffix hx)

theorem local_behind {a : Char} (ha : isPlain a = true) (hf : Local f) (hg : Local g) :
    Local (behind a f g) where
  append {s q} hq := by
    cases s with
    | nil =>
      have he : behind a f g q = g q := by
        cases q with
        | nil => rfl
        | cons c q =>
          have hc : c ≠ a := by
            rintro rfl
            rw [hq c rfl] at ha
            cases ha
          exact if_neg hc
      rw [List.nil_append, he]
      exact hg.append (s := []) hq
    | cons c s =>
      unfold behind
      rw [List.cons_append]
      dsimp only
      split
      · exact hf.append hq
      · exact hg.append (s := c :: s) hq
  suffix {s x r} h := by
    cases s with
    | nil => exact hg.suffix h
    | cons c s =>
      unfold behind at h
      dsimp only at h
      split at h
      · exact (hf.suffix h).trans (List.suffix_cons c s)
      · exact hg.suffix h

theorem local_digit (hf : Local f) (hg : Local g) :
    Local fun s => if startsWithDigit s then f s else g s where
  append {s q} hq := by
    rw [startsWithDigit_append hq]
    split
    · exact hf.append hq
    · exact hg.append hq
  suffix {s x r} h := by
    split at h
    · exact hf.suffix h
    · exact hg.suffix h

end

/-! ## numbers -/

/-- an exponent, its sign already taken off -/
def readPower (negative : Bool) (body : List Char) : Except Fault (Int × List Char) :=
  if startsWithDigit body then
    let e : Int := ofDigits (body.takeWhile isDigit)
    .ok (if negative then -e else e, dropDigits body)
  else .error (unexpected body)

theorem local_readPower (negative : Bool) : Local (readPower negative) := by
  refine local_digit ⟨fun {s q} hq => ?_, fun {s x r} h => ?_⟩ (local_error _)
  · rw [takeDigits_append hq, dropDigits_append hq]
    rfl
  · obtain ⟨-, rfl⟩ := Prod.mk.inj (Except.ok.inj h)
    exact dropDigits_suffix s

theorem readExponent_eq :
    readExponent = behind '+' (readPower false) (behind '-' (readPower true) (readPower false)) := by
  funext s
  unfold readExponent
  split
  next negative body he =>
    split at he <;> obtain ⟨rfl, rfl⟩ := Prod.mk.inj he
    · rfl
    · rfl
    · next hp hm =>
      rw [behind_of_ne hp, behind_of_ne hm]
      rfl

theorem local_readExponent : Local readExponent := by
  rw [readExponent_eq]
  exact local_behind rfl (local_readPower false)
    (local_behind rfl (local_readPower true) (local_readPower false))

/-- the exponent behind its letter, and the number -/
def readScale (positive : Bool) (n : Nat) (x : Int) (s : List Char) :
    Except Fault (Number × List Char) :=
  readExponent s >>= fun (e, r) => (realOf positive n (x + e)).map fun y => (y, r)

theorem local_readScale (positive : Bool) (n : Nat) (x : Int) : Local (readScale positive n x) :=
  local_readExponent.bind fun e => local_lift (realOf positive n (x + e))

theorem map_eq_bind {ε α β : Type} (x : Except ε α) (f : α → β) :
    x.map f = (do let y ← x; pure (f y)) := by
  cases x <;> rfl

theorem finishReal_eq (positive : Bool) (n : Nat) (x : Int) :
    finishReal positive n x =
      behind 'e' (readScale positive n x) (behind 'E' (readScale positive n x) fun s =>
        (realOf positive n x).map fun y => (y, s)) := by
  funext s
  unfold finishReal
  split
  · simp only [behind, if_true, readScale, map_eq_bind]
  · rw [behind_of_ne (by simp)]
    simp only [behind, if_true, readScale, map_eq_bind]
  · next he hE => rw [behind_of_ne he, behind_of_ne hE, map_eq_bind]

theorem local_finishReal (positive : Bool) (n : Nat) (x : Int) :
    Local (finishReal positive n x) := by
  rw [finishReal_eq]
  exact local_behind rfl (local_readScale positive n x)
    (local_behind rfl (local_readScale positive n x) (local_lift _))

theorem local_readFraction (positive : Bool) (n : Nat) (x : Int) :
    Local (readFraction positive n x) := by
  refine local_digit ⟨fun {s q} hq => ?_, fun {s y r} h => ?_⟩ (local_error _)
  · rw [takeSignificand_append hq]
    dsimp only
    rw [dropDigits_append hq]
    exact (local_finishReal _ _ _).append hq
  · exact (((local_finishReal _ _ _).suffix h).trans (dropDigits_suffix _)).trans
      (takeSignificand_suffix n 0 s)

/-- a number without fraction and exponent -/
def whole (positive : Bool) (n : Nat) : Number :=
  if positive then .natural n.toUInt64
  else if n = 0 ∨ UInt64.size / 2 < n then .real (-n.toUInt64.toFloat)
  else .negative n.toUInt64

theorem finishInteger_eq (positive : Bool) (n : Nat) : finishInteger positive n =
    behind '.' (readFraction positive n 0) (behind 'e' (readScale positive n 0)
      (behind 'E' (readScale positive n 0) fun s =>
        (Except.ok (whole positive n) : Except Fault Number).map fun x => (x, s))) := by
  funext s
  unfold finishInteger
  split
  · rfl
  · rw [finishReal_eq]
    rfl
  · rw [finishReal_eq]
    rfl
  · next hp he hE =>
    rw [behind_of_ne hp, behind_of_ne he, behind_of_ne hE]
    unfold whole
    split
    · rfl
    · split <;> rfl

theorem local_finishInteger (positive : Bool) (n : Nat) : Local (finishInteger positive n) := by
  rw [finishInteger_eq]
  exact local_behind rfl (local_readFraction positive n 0)
    (local_behind rfl (local_readScale positive n 0)
      (local_behind rfl (local_readScale positive n 0) (local_lift _)))

/-- what follows all digits, of which some count for their number only -/
def finishScaled (positive : Bool) (n : Nat) (more : Int) : List Char → Except Fault (Number × List Char) :=
  behind '.' (readFraction positive n more) (finishReal positive n more)

theorem finishLong_eq (positive : Bool) (n : Nat) (s : List Char) : finishLong positive n s =
    finishScaled positive n (s.takeWhile isDigit).length (dropDigits s) := by
  unfold finishLong countDigits finishScaled
  dsimp only
  split
  · next h => rw [show dropDigits s = _ from h]; rfl
  · next h => exact (behind_of_ne h).symm

theorem local_finishScaled (positive : Bool) (n : Nat) (more : Int) :
    Local (finishScaled positive n more) :=
  local_behind rfl (local_readFraction positive n more) (local_finishReal positive n more)

theorem local_finishLong (positive : Bool) (n : Nat) : Local (finishLong positive n) where
  append {s q} hq := by
    rw [finishLong_eq, finishLong_eq, takeDigits_append hq, dropDigits_append hq]
    exact (local_finishScaled _ _ _).append hq
  suffix {s x r} h := by
    rw [finishLong_eq] at h
    exact ((local_finishScaled _ _ _).suffix h).trans (dropDigits_suffix s)

/-- what follows a significand, whether or not all digits fit -/
def finishWhole (positive : Bool) (n : Nat) (s : List Char) : Except Fault (Number × List Char) :=
  if startsWithDigit s then finishLong positive n s else finishInteger positive n s

theorem local_finishWhole (positive : Bool) (n : Nat) : Local (finishWhole positive n) :=
  local_digit (local_finishLong positive n) (local_finishInteger positive n)

theorem readNumber_eq (positive : Bool) : readNumber positive =
    behind '0' (fun s => if startsWithDigit s then .error .malformed else finishInteger positive 0 s)
      fun s => if startsWithDigit s then
        (fun s => finishWhole positive (takeSignificand 0 0 s).1 (takeSignificand 0 0 s).2.2) s
      else .error (unexpected s) := by
  funext s
  unfold readNumber
  split
  · rfl
  · next h => rw [behind_of_ne h]; rfl

theorem local_readNumber (positive : Bool) : Local (readNumber positive) := by
  rw [readNumber_eq]
  refine local_behind rfl (local_digit (local_error _) (local_finishInteger positive 0))
    (local_digit ⟨fun {s q} hq => ?_, fun {s y r} h => ?_⟩ (local_error _))
  · rw [takeSignificand_append hq]
    exact (local_finishWhole _ _).append hq
  · exact ((local_finishWhole _ _).suffix h).trans (takeSignificand_suffix 0 0 s)

/-! ## values without parts -/

theorem local_readWord {ws : List Char} (hw : ws.all isPlain = true) (v : Value) :
    Local fun s => (readWord ws s).map fun r => (v, r) := by
  induction ws with
  | nil => exact local_lift (.ok v)
  | cons w ws ih =>
    have he : (fun s => (readWord (w :: ws) s).map fun r => (v, r)) =
        behind w (fun s => (readWord ws s).map fun r => (v, r)) fun s => .error (unexpected s) := by
      funext s
      cases s with
      | nil => rfl
      | cons c s =>
        by_cases hc : w = c
        · rw [readWord, if_pos hc, behind, if_pos hc.symm]
        · rw [readWord, if_neg hc, behind, if_neg (Ne.symm hc)]
          rfl
    rw [List.all_cons, Bool.and_eq_true] at hw
    rw [he]
    exact local_behind hw.1 (ih hw.2) (local_error unexpected)

/-- the value of a number -/
def readNumeral (positive : Bool) (s : List Char) : Except Fault (Value × List Char) :=
  readNumber positive s >>= fun (n, r) => .ok (.number n, r)

theorem local_readNumeral (positive : Bool) : Local (readNumeral positive) :=
  (local_readNumber positive).bind fun n => local_lift (.ok (Value.number n))

/-- a word or a number -/
def readPlain : List Char → Except Fault (Value × List Char) :=
  behind 'n' (fun s => (readWord ['u', 'l', 'l'] s).map fun r => (.null, r)) <|
  behind 't' (fun s => (readWord ['r', 'u', 'e'] s).map fun r => (.bool true, r)) <|
  behind 'f' (fun s => (readWord ['a', 'l', 's', 'e'] s).map fun r => (.bool false, r)) <|
  behind '-' (readNumeral false) fun s =>
    if startsWithDigit s then readNumeral true s else .error (unexpected s)

theorem local_readPlain : Local readPlain :=
  local_behind rfl (local_readWord rfl _) <|
  local_behind rfl (local_readWord rfl _) <|
  local_behind rfl (local_readWord rfl _) <|
  local_behind rfl (local_readNumeral false) <|
  local_digit (local_readNumeral true) (local_error unexpected)

theorem readScalar_of_ne {c : Char} (hc : c ≠ '"') (s : List Char) :
    readScalar (c :: s) = readPlain (c :: s) := by
  by_cases hn : c = 'n'
  · rw [hn]
    exact (map_eq_bind _ _).symm
  by_cases ht : c = 't'
  · rw [ht]
    exact (map_eq_bind _ _).symm
  by_cases hf : c = 'f'
  · rw [hf]
    exact (map_eq_bind _ _).symm
  by_cases hm : c = '-'
  · rw [hm]
    rfl
  have hne : ∀ {d : Char}, c ≠ d → ∀ r, c :: s = d :: r → False :=
    fun hd r he => hd (List.cons.inj he).1
  unfold readScalar readPlain
  rw [behind_of_ne (hne hn), behind_of_ne (hne ht), behind_of_ne (hne hf), behind_of_ne (hne hm)]
  split
  · next he => exact (hne hn _ he).elim
  · next he => exact (hne ht _ he).elim
  · next he => exact (hne hf _ he).elim
  · next he => exact (hne hc _ he).elim
  · next he => exact (hne hm _ he).elim
  · next he => cases he
  · next he =>
    cases he
    rfl

section
variable {c : Char} {s q r : List Char} {v : Value}

/-- what does not start with a quote is a word or a number -/
theorem cases_of_readScalar (hc : c ≠ '"') (h : readScalar (c :: s) = .ok (v, r)) :
    v = .null ∨ (∃ b, v = .bool b) ∨ ∃ n, v = .number n := by
  have hw : ∀ (ws : List Char) (w : Value) (t : List Char),
      ((readWord ws t).map fun r => (w, r)) = .ok (v, r) → v = w := by
    intro ws w t he
    cases hx : readWord ws t with
    | error f => rw [hx] at he; cases he
    | ok q => rw [hx] at he; cases he; rfl
  have hn : ∀ (positive : Bool) (t : List Char),
      readNumeral positive t = .ok (v, r) → ∃ n, v = .number n := by
    intro positive t he
    obtain ⟨⟨n, q⟩, -, he⟩ := bind_eq_ok he
    cases he
    exact ⟨n, rfl⟩
  rw [readScalar_of_ne hc] at h
  simp only [readPlain, behind] at h
  split at h
  · exact .inl (hw _ _ _ h)
  split at h
  · exact .inr (.inl ⟨_, hw _ _ _ h⟩)
  split at h
  · exact .inr (.inl ⟨_, hw _ _ _ h⟩)
  split at h
  · exact .inr (.inr (hn _ _ h))
  split at h
  · exact .inr (.inr (hn _ _ h))
  · cases h

theorem readScalar_ne_object (s r : List Char) (ms : List (String × Value)) :
    readScalar s ≠ .ok (.object ms, r) := by
  intro h
  cases s with
  | nil => cases h
  | cons c s =>
    by_cases hc : c = '"'
    · subst hc
      obtain ⟨⟨text, q⟩, -, he⟩ := bind_eq_ok h
      cases he
    · rcases cases_of_readScalar hc h with he | ⟨x, he⟩ | ⟨x, he⟩ <;> cases he

theorem readScalar_append (hc : isPlain c = true) (h : readScalar (c :: s) = .ok (v, []))
    (hq : Clean q) : readScalar (c :: s ++ q) = .ok (v, q) := by
  have hn := (of_isPlain hc).2.2
  rw [readScalar_of_ne hn] at h
  have ha := local_readPlain.append (s := c :: s) hq
  rw [h] at ha
  exact (readScalar_of_ne hn (s ++ q)).trans (eq_ok_of_toOption ha)

theorem readScalar_run (hc : isPlain c = true) (h : readScalar (c :: s) = .ok (v, r))
    (hr : Clean r) :
    r = s.dropWhile isPlain ∧ readScalar (c :: s.takeWhile isPlain) = .ok (v, []) := by
  have hn := (of_isPlain hc).2.2
  have hs : c :: s = c :: s.takeWhile isPlain ++ s.dropWhile isPlain := by
    rw [List.cons_append, List.takeWhile_append_dropWhile]
  have ha := local_readPlain.append (s := c :: s.takeWhile isPlain) (clean_dropWhile s)
  rw [← hs, ← readScalar_of_ne hn, h] at ha
  obtain ⟨⟨w, t⟩, hw, he⟩ := Option.map_eq_some_iff.mp ha.symm
  obtain ⟨rfl, rfl⟩ := Prod.mk.inj he
  have hw := eq_ok_of_toOption hw
  -- what is left of the run is plain, but starts a clean text
  have ht : t = [] := by
    cases t with
    | nil => rfl
    | cons d t =>
      have hd : d ∈ c :: s.takeWhile isPlain :=
        (local_readPlain.suffix hw).subset (List.mem_cons_self ..)
      have hp : isPlain d = true := by
        rcases List.mem_cons.mp hd with rfl | hd
        · exact hc
        · exact List.all_eq_true.mp List.all_takeWhile d hd
      rw [hr d rfl] at hp
      cases hp
  rw [ht] at hw ⊢
  exact ⟨rfl, (readScalar_of_ne hn _).trans hw⟩

end

end ServerConsole.Json
