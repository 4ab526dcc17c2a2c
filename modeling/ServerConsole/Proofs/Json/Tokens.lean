import ServerConsole.Json.Reader

/-!
# The tokens of a JSON text

A text is cut into marks, strings and plain runs; spaces between two of them are not kept.

* `cutString?`  the body of a string and what follows its closing quote;
* `tokens`      the tokens of a text, whether or not they make up a value;
* `Clean`       a text whose start does not go on with a plain run;
* `tokens_cases`        the first token of a text;
* `tokens_append`       the tokens of two texts, one after the other;
* `tokens_insertSpaces` spaces between two tokens change nothing.
-/

namespace ServerConsole.Json

inductive Token
  /-- a bracket, a colon or a comma -/
  | mark (c : Char)
  /-- what stands between two quotes, escapes as they are written -/
  | quoted (body : List Char)
  /-- what follows a quote that is never closed -/
  | unclosed (body : List Char)
  /-- a number, a word, or any other run without spaces, marks and quotes -/
  | plain (run : List Char)
  deriving DecidableEq

def isMark (c : Char) : Bool := ['{', '}', '[', ']', ':', ','].contains c

def isPlain (c : Char) : Bool := !(isSpace c || isMark c || c == '"')

/-- what is behind a backslash does not close the string -/
def cutString? : List Char → Option (List Char × List Char)
  | [] => none
  | c :: s =>
    if c = '"' then some ([], s)
    else if c = '\\' then
      match s with
      | [] => none
      | e :: s => (cutString? s).map fun (body, r) => (c :: e :: body, r)
    else (cutString? s).map fun (body, r) => (c :: body, r)

theorem cutString?_quote (s : List Char) : cutString? ('"' :: s) = some ([], s) := by
  unfold cutString?
  rfl

theorem cutString?_escape (e : Char) (s : List Char) :
    cutString? ('\\' :: e :: s) = (cutString? s).map fun (body, r) => ('\\' :: e :: body, r) := by
  rw [cutString?]
  rfl

theorem cutString?_cons {c : Char} (hq : c ≠ '"') (hb : c ≠ '\\') (s : List Char) :
    cutString? (c :: s) = (cutString? s).map fun (body, r) => (c :: body, r) := by
  cases s <;> simp [cutString?, hq, hb]

theorem eq_of_cutString? {s body r : List Char} (h : cutString? s = some (body, r)) :
    s = body ++ '"' :: r := by
  fun_induction cutString? s generalizing body with
  | case1 => cases h
  | case2 s => cases h; rfl
  | case3 => cases h
  | case4 e s hq ih =>
    obtain ⟨⟨b, q⟩, hb, he⟩ := Option.map_eq_some_iff.mp h
    obtain ⟨rfl, rfl⟩ := Prod.mk.inj he
    rw [ih hb]
    rfl
  | case5 c s hq hc ih =>
    obtain ⟨⟨b, q⟩, hb, he⟩ := Option.map_eq_some_iff.mp h
    obtain ⟨rfl, rfl⟩ := Prod.mk.inj he
    rw [ih hb]
    rfl

theorem cutString?_length {s body r : List Char} (h : cutString? s = some (body, r)) :
    r.length < s.length := by
  rw [eq_of_cutString? h, List.length_append, List.length_cons]
  omega

/-- what follows does not matter to a string that is closed -/
theorem cutString?_append {s body r : List Char} (h : cutString? s = some (body, r))
    (q : List Char) : cutString? (s ++ q) = some (body, r ++ q) := by
  fun_induction cutString? s generalizing body with
  | case1 => cases h
  | case2 s => cases h; exact cutString?_quote _
  | case3 => cases h
  | case4 e s hq ih =>
    obtain ⟨⟨b, r'⟩, hb, he⟩ := Option.map_eq_some_iff.mp h
    obtain ⟨rfl, rfl⟩ := Prod.mk.inj he
    rw [List.cons_append, List.cons_append, cutString?_escape, ih hb]
    rfl
  | case5 c s hq hc ih =>
    obtain ⟨⟨b, r'⟩, hb, he⟩ := Option.map_eq_some_iff.mp h
    obtain ⟨rfl, rfl⟩ := Prod.mk.inj he
    rw [List.cons_append, cutString?_cons hq hc, ih hb]
    rfl

/-! ## tokens -/

def tokens : List Char → List Token
  | [] => []
  | c :: s =>
    if isSpace c then tokens s
    else if isMark c then .mark c :: tokens s
    else if c = '"' then
      match h : cutString? s with
      | some (body, r) =>
        have := cutString?_length h
        .quoted body :: tokens r
      | none => [.unclosed s]
    else
      have := (List.dropWhile_sublist isPlain (l := s)).length_le
      .plain (c :: s.takeWhile isPlain) :: tokens (s.dropWhile isPlain)
termination_by s => s.length
decreasing_by all_goals simp only [List.length_cons]; omega

/-- an escaped quote does not close a string -/
example : tokens ['[', ' ', '"', '\\', '"', '"', ',', '1', '2', ']'] =
    [.mark '[', .quoted ['\\', '"'], .mark ',', .plain ['1', '2'], .mark ']'] := by cbv

/-- nothing of a plain run is left -/
def Clean (s : List Char) : Prop := ∀ c ∈ s.head?, isPlain c = false

section
variable {c : Char} {s body r : List Char} {ts : List Token}

theorem isPlain_eq_true (hs : isSpace c = false) (hm : isMark c = false) (hq : c ≠ '"') :
    isPlain c = true := by
  simp [isPlain, hs, hm, hq]

theorem of_isPlain (h : isPlain c = true) : isSpace c = false ∧ isMark c = false ∧ c ≠ '"' := by
  simpa [isPlain, and_assoc] using h

theorem isPlain_of_isSpace (h : isSpace c = true) : isPlain c = false := by simp [isPlain, h]

theorem isSpace_of_isMark (h : isMark c = true) : isSpace c = false := by
  have hc : c = '{' ∨ c = '}' ∨ c = '[' ∨ c = ']' ∨ c = ':' ∨ c = ',' := by simpa [isMark] using h
  rcases hc with rfl | rfl | rfl | rfl | rfl | rfl <;> rfl

theorem tokens_nil : tokens [] = [] := by rw [tokens]

theorem tokens_space (h : isSpace c = true) : tokens (c :: s) = tokens s := by
  rw [tokens, if_pos h]

theorem tokens_mark (h : isMark c = true) : tokens (c :: s) = .mark c :: tokens s := by
  rw [tokens, if_neg (by simp [isSpace_of_isMark h]), if_pos h]

theorem tokens_quoted (h : cutString? s = some (body, r)) :
    tokens ('"' :: s) = .quoted body :: tokens r := by
  rw [tokens, if_neg (by decide), if_neg (by decide), if_pos rfl]
  split
  · next body' r' h' =>
    obtain ⟨rfl, rfl⟩ := Prod.mk.inj (Option.some.inj (h'.symm.trans h))
    rfl
  · next h' => cases h'.symm.trans h

theorem tokens_unclosed (h : cutString? s = none) : tokens ('"' :: s) = [.unclosed s] := by
  rw [tokens, if_neg (by decide), if_neg (by decide), if_pos rfl]
  split
  · next h' => cases h'.symm.trans h
  · rfl

theorem tokens_plain (h : isPlain c = true) :
    tokens (c :: s) = .plain (c :: s.takeWhile isPlain) :: tokens (s.dropWhile isPlain) := by
  obtain ⟨hs, hm, hq⟩ := of_isPlain h
  rw [tokens, if_neg (by simp [hs]), if_neg (by simp [hm]), if_neg hq]

theorem tokens_skipSpaces (s : List Char) : tokens (skipSpaces s) = tokens s := by
  induction s with
  | nil => rfl
  | cons c s ih =>
    by_cases h : isSpace c = true
    · rw [tokens_space h, ← ih, skipSpaces, List.dropWhile_cons_of_pos h]
      rfl
    · rw [skipSpaces, List.dropWhile_cons_of_neg h]

theorem isSpace_head_skipSpaces (h : skipSpaces s = c :: r) : isSpace c = false := by
  have hd := List.head?_dropWhile_not isSpace s
  rw [show s.dropWhile isSpace = c :: r from h] at hd
  simpa using hd

/-! ## the first token -/

/-- what a text starts with, spaces aside -/
inductive Starts (s : List Char) : List Token → Prop
  | nothing (hs : skipSpaces s = []) : Starts s []
  | mark (c : Char) (r : List Char) (hc : isMark c = true) (hs : skipSpaces s = c :: r) :
      Starts s (.mark c :: tokens r)
  | quoted (q body r : List Char) (hq : cutString? q = some (body, r))
      (hs : skipSpaces s = '"' :: q) : Starts s (.quoted body :: tokens r)
  | unclosed (q : List Char) (hs : skipSpaces s = '"' :: q) : Starts s [.unclosed q]
  | plain (c : Char) (q : List Char) (hc : isPlain c = true) (hs : skipSpaces s = c :: q) :
      Starts s (.plain (c :: q.takeWhile isPlain) :: tokens (q.dropWhile isPlain))

theorem tokens_cases (s : List Char) : Starts s (tokens s) := by
  rw [← tokens_skipSpaces]
  cases hs : skipSpaces s with
  | nil =>
    rw [tokens_nil]
    exact .nothing hs
  | cons c q =>
    have hc := isSpace_head_skipSpaces hs
    by_cases hm : isMark c = true
    · rw [tokens_mark hm]
      exact .mark c q hm hs
    · by_cases hq : c = '"'
      · subst hq
        cases hb : cutString? q with
        | none =>
          rw [tokens_unclosed hb]
          exact .unclosed q hs
        | some p =>
          obtain ⟨body, r⟩ := p
          rw [tokens_quoted hb]
          exact .quoted q body r hb hs
      · have hp := isPlain_eq_true hc (Bool.eq_false_iff.mpr hm) hq
        rw [tokens_plain hp]
        exact .plain c q hp hs

theorem skipSpaces_of_nil (h : tokens s = []) : skipSpaces s = [] := by
  have hs := tokens_cases s
  rw [h] at hs
  cases hs with
  | nothing hs => exact hs

theorem skipSpaces_of_mark (h : tokens s = .mark c :: ts) :
    ∃ r, skipSpaces s = c :: r ∧ tokens r = ts := by
  have hs := tokens_cases s
  rw [h] at hs
  cases hs with
  | mark c r hc hs => exact ⟨r, hs, rfl⟩

theorem skipSpaces_of_quoted (h : tokens s = .quoted body :: ts) :
    ∃ r, skipSpaces s = '"' :: (body ++ '"' :: r) ∧ tokens r = ts := by
  have hs := tokens_cases s
  rw [h] at hs
  cases hs with
  | quoted q body r hq hs => exact ⟨r, by rw [hs, eq_of_cutString? hq], rfl⟩

end

theorem clean_nil : Clean [] := nofun

theorem clean_cons {c : Char} {s : List Char} (h : isPlain c = false) : Clean (c :: s) := by
  intro d hd
  cases hd
  exact h

theorem clean_dropWhile (s : List Char) : Clean (s.dropWhile isPlain) := by
  intro c hc
  have hd := List.head?_dropWhile_not isPlain s
  rw [Option.mem_def.mp hc] at hd
  simpa using hd

/-- a text is clean whose first token is not plain -/
theorem clean_of_skipSpaces {s r : List Char} {c : Char} (h : skipSpaces s = c :: r)
    (hc : isPlain c = false) : Clean s := by
  cases s with
  | nil => exact clean_nil
  | cons d s =>
    by_cases hd : isSpace d = true
    · exact clean_cons (isPlain_of_isSpace hd)
    · rw [skipSpaces, List.dropWhile_cons_of_neg hd] at h
      cases h
      exact clean_cons hc

theorem clean_of_skipSpaces_nil {s : List Char} (h : skipSpaces s = []) : Clean s := by
  cases s with
  | nil => exact clean_nil
  | cons d s =>
    by_cases hd : isSpace d = true
    · exact clean_cons (isPlain_of_isSpace hd)
    · rw [skipSpaces, List.dropWhile_cons_of_neg hd] at h
      cases h

theorem skipSpaces_of_plain {s run : List Char} {ts : List Token} (h : tokens s = .plain run :: ts) :
    ∃ c q r, run = c :: q ∧ (∀ d ∈ run, isPlain d = true) ∧ skipSpaces s = run ++ r ∧ Clean r ∧
      tokens r = ts := by
  have hs := tokens_cases s
  rw [h] at hs
  cases hs with
  | plain c q hc hs =>
    refine ⟨c, _, q.dropWhile isPlain, rfl, ?_, ?_, clean_dropWhile q, rfl⟩
    · intro d hd
      rcases List.mem_cons.mp hd with rfl | hd
      · exact hc
      · exact List.all_eq_true.mp List.all_takeWhile d hd
    · rw [hs, List.cons_append, List.takeWhile_append_dropWhile]

theorem length_tokens_le (s : List Char) : (tokens s).length ≤ s.length := by
  fun_induction tokens s with
  | case1 => exact Nat.le_refl _
  | case2 c s hc ih => exact Nat.le_succ_of_le ih
  | case3 c s hs hc ih => exact Nat.succ_le_succ ih
  | case4 s hs hm body r h hr ih => simp only [List.length_cons]; omega
  | case5 s => simp
  | case6 c s hs hm hq hl ih => simp only [List.length_cons]; omega

/-! ## texts one after the other -/

/-- no string is left open -/
def Closed (ts : List Token) : Prop := ∀ body, .unclosed body ∉ ts

theorem closed_nil : Closed [] := nofun

theorem Closed.tail {t : Token} {ts : List Token} (h : Closed (t :: ts)) : Closed ts :=
  fun body hb => h body (List.mem_cons_of_mem t hb)

theorem Closed.append {a b : List Token} (ha : Closed a) (hb : Closed b) : Closed (a ++ b) :=
  fun body h => (List.mem_append.mp h).elim (ha body) (hb body)

theorem Closed.of_append {a b : List Token} (h : Closed (a ++ b)) : Closed a ∧ Closed b :=
  ⟨fun body hb => h body (List.mem_append_left b hb),
    fun body hb => h body (List.mem_append_right a hb)⟩

theorem tokens_append {a b : List Char} (ha : Closed (tokens a)) (hb : Clean b) :
    tokens (a ++ b) = tokens a ++ tokens b := by
  fun_induction tokens a with
  | case1 => rfl
  | case2 c s hc ih => rw [List.cons_append, tokens_space hc, ih ha]
  | case3 c s hs hc ih => rw [List.cons_append, tokens_mark hc, ih ha.tail, List.cons_append]
  | case4 s body r h hr hs hm ih =>
    rw [List.cons_append, tokens_quoted (cutString?_append h b), ih ha.tail, List.cons_append]
  | case5 s => exact absurd (List.mem_singleton.mpr rfl) (ha s)
  | case6 c s hs hm hq hl ih =>
    have hc := isPlain_eq_true (Bool.eq_false_iff.mpr hs) (Bool.eq_false_iff.mpr hm) hq
    have hw : b.takeWhile isPlain = [] ∧ b.dropWhile isPlain = b := by
      cases b with
      | nil => exact ⟨rfl, rfl⟩
      | cons d b =>
        have hd : ¬ isPlain d = true := by simp [hb d rfl]
        exact ⟨List.takeWhile_cons_of_neg hd, List.dropWhile_cons_of_neg hd⟩
    have h1 : (s ++ b).takeWhile isPlain = s.takeWhile isPlain := by
      rw [List.takeWhile_append]
      split
      · next h => rw [hw.1, List.append_nil, (List.takeWhile_prefix isPlain).eq_of_length h]
      · rfl
    have h2 : (s ++ b).dropWhile isPlain = s.dropWhile isPlain ++ b := by
      rw [List.dropWhile_append]
      split
      · next h => rw [hw.2, List.isEmpty_iff.mp h, List.nil_append]
      · rfl
    rw [List.cons_append, tokens_plain hc, h1, h2, ih ha.tail, List.cons_append]

theorem tokens_spaces {w : List Char} (h : ∀ c ∈ w, isSpace c = true) (s : List Char) :
    tokens (w ++ s) = tokens s := by
  induction w with
  | nil => rfl
  | cons c w ih =>
    rw [List.cons_append, tokens_space (h c (List.mem_cons_self ..)),
      ih fun d hd => h d (List.mem_cons_of_mem c hd)]

/-- spaces at a place that is not inside a token -/
theorem tokens_insertSpaces {a b w : List Char} (h : tokens (a ++ b) = tokens a ++ tokens b)
    (hc : Closed (tokens (a ++ b))) (hw : ∀ c ∈ w, isSpace c = true) :
    tokens (a ++ (w ++ b)) = tokens (a ++ b) := by
  have ha : Closed (tokens a) := by
    rw [h] at hc
    exact hc.of_append.1
  cases w with
  | nil => rfl
  | cons c w =>
    have hs : Clean (c :: w ++ b) := clean_cons (isPlain_of_isSpace (hw c (List.mem_cons_self ..)))
    rw [tokens_append ha hs, tokens_spaces hw, h]

end ServerConsole.Json
