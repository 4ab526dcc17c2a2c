import ServerConsole.Proofs.Json.Passed

/-!
# Every value can be passed over

The grammar of values says nothing of how deep they are nested, how large their numbers are and what
characters their escapes stand for. Nothing of this is asked either of a value that is passed over.

* `Body`, `Numeral`, `Plain`  the parts of values, as the grammar has them;
* `WellFormed`             the token lists of values;
* `leads_wellFormed`       the loop comes to the end of each of them, whatever brackets are open;
* `skipValue_of_wellFormed`  each of them is passed over.
-/

namespace ServerConsole.Json

open Text

/-! ## the grammar -/

/-- what may stand between two quotes -/
inductive Body : List Char → Prop
  | nil : Body []
  | char {c : Char} {cs : List Char} (hq : c ≠ '"') (hb : c ≠ '\\') (hc : ¬ c.val < 0x20) (h : Body cs) :
      Body (c :: cs)
  | short {c : Char} {cs : List Char} (hc : c ∈ ['"', '\\', '/', 'b', 'f', 'n', 'r', 't'])
      (h : Body cs) : Body ('\\' :: c :: cs)
  | unicode {ds cs : List Char} (hl : ds.length = 4) (hd : ∀ d ∈ ds, isHex d = true) (h : Body cs) :
      Body ('\\' :: 'u' :: (ds ++ cs))

/-- one digit or more -/
def IsDigits (cs : List Char) : Prop := cs ≠ [] ∧ ∀ c ∈ cs, isDigit c = true

/-- the digits in front of the point; none stands behind a leading zero -/
def Whole (cs : List Char) : Prop := cs = ['0'] ∨ IsDigits cs ∧ cs.head? ≠ some '0'

inductive Fraction : List Char → Prop
  | none : Fraction []
  | digits {ds : List Char} (hd : IsDigits ds) : Fraction ('.' :: ds)

inductive Exponent : List Char → Prop
  | none : Exponent []
  | digits {mark : Char} {sign ds : List Char} (hm : mark = 'e' ∨ mark = 'E')
      (hs : sign ∈ [[], ['+'], ['-']]) (hd : IsDigits ds) : Exponent (mark :: (sign ++ ds))

/-- a number without its sign -/
def Numeral (cs : List Char) : Prop :=
  ∃ w f x, cs = w ++ (f ++ x) ∧ Whole w ∧ Fraction f ∧ Exponent x

/-- words and numbers -/
inductive Plain : List Char → Prop
  | null : Plain ['n', 'u', 'l', 'l']
  | true : Plain ['t', 'r', 'u', 'e']
  | false : Plain ['f', 'a', 'l', 's', 'e']
  | positive {cs : List Char} (h : Numeral cs) : Plain cs
  | negative {cs : List Char} (h : Numeral cs) : Plain ('-' :: cs)

/-- the tokens of a member with such a label and such a value -/
def labelled (m : List Char × List Token) : List Token := .quoted m.1 :: .mark ':' :: m.2

/-- the tokens are those of a value -/
inductive WellFormed : List Token → Prop
  | string {body : List Char} (h : Body body) : WellFormed [.quoted body]
  | plain {run : List Char} (h : Plain run) : WellFormed [.plain run]
  | array (items : List (List Token)) (h : ∀ ts ∈ items, WellFormed ts) :
      WellFormed (.mark '[' :: (separated true items ++ [.mark ']']))
  | object (members : List (List Char × List Token)) (hb : ∀ m ∈ members, Body m.1)
      (h : ∀ m ∈ members, WellFormed m.2) :
      WellFormed (.mark '{' :: (separated true (members.map labelled) ++ [.mark '}']))

/-- a value does not start with a closing bracket -/
theorem WellFormed.head {ts : List Token} (h : WellFormed ts) :
    ∃ t rest, ts = t :: rest ∧ t ≠ .mark ']' := by
  cases h with
  | string h => exact ⟨_, _, rfl, nofun⟩
  | plain h => exact ⟨_, _, rfl, nofun⟩
  | array items h => exact ⟨_, _, rfl, by decide⟩
  | object members hb h => exact ⟨_, _, rfl, by decide⟩

/-! ## strings -/

theorem exists_hexNumber? {cs : List Char} (h : ∀ c ∈ cs, isHex c = true) :
    ∃ n, hexNumber? cs = some n := by
  induction cs using List.reverseRecOn with
  | nil => exact ⟨0, rfl⟩
  | append_singleton cs c ih =>
    obtain ⟨n, hn⟩ := ih fun d hd => h d (List.mem_append_left _ hd)
    have hc : isHex c = true := h c (List.mem_append_right _ (List.mem_singleton.mpr rfl))
    obtain ⟨x, hx⟩ := Option.isSome_iff_exists.mp hc
    exact ⟨16 * n + x, by rw [hexNumber?_append_singleton, hn, Option.bind_some, hx]; rfl⟩

theorem skipEscape_short {c : Char} (hc : c ∈ ['"', '\\', '/', 'b', 'f', 'n', 'r', 't']) (s : List Char) :
    skipEscape (c :: s) = .ok s := by
  have hu : c ≠ 'u' := by
    rintro rfl
    exact absurd hc (by decide)
  rw [skipEscape, if_neg hu, if_pos (List.contains_iff_mem.mpr hc)]

theorem skipString_body {body : List Char} (h : Body body) (q : List Char) :
    skipString (body ++ '"' :: q) = .ok q := by
  induction h with
  | nil => rw [List.nil_append, skipString, if_pos rfl]
  | char hq hb hc h ih => rw [List.cons_append, skipString_char hq hb hc, ih]
  | short hc h ih =>
    rw [List.cons_append, List.cons_append, skipString_escape (skipEscape_short hc _), ih]
  | unicode hl hd h ih =>
    obtain ⟨n, hn⟩ := exists_hexNumber? hd
    rw [List.cons_append, List.cons_append, List.append_assoc,
      skipString_unicode (readHex4_append hl hn _), ih]

/-! ## numbers -/

section
variable {cs q : List Char}

theorem skipDigits_append (h : IsDigits cs) (hq : startsWithDigit q = false) :
    skipDigits (cs ++ q) = .ok q := by
  have hs : startsWithDigit (cs ++ q) = true := by
    cases cs with
    | nil => exact absurd rfl h.1
    | cons c cs => exact h.2 c (List.mem_cons_self ..)
  rw [skipDigits_of hs, dropDigits, List.dropWhile_append_of_pos h.2]
  exact congrArg _ (dropDigits_of_not hq)

theorem skipWhole_append (h : Whole cs) (hq : startsWithDigit q = false) : skipWhole (cs ++ q) = .ok q := by
  rcases h with rfl | ⟨hd, hz⟩
  · exact skipWhole_zero (Bool.eq_false_iff.mp hq)
  · refine (skipWhole_of_ne fun r hr => ?_).trans (skipDigits_append hd hq)
    cases cs with
    | nil => exact hd.1 rfl
    | cons c cs => exact hz (congrArg some (List.cons.inj hr).1)

theorem skipExponent_append (h : Exponent cs) (hq : Clean q) : skipExponent (cs ++ q) = .ok q := by
  cases h with
  | none =>
    rcases hq.cases with rfl | ⟨c, r, rfl, -, -, he, hE, -⟩
    · rfl
    · exact skipExponent_of_ne (fun p hp => he (List.cons.inj hp).1) fun p hp => hE (List.cons.inj hp).1
  | @digits mark sign ds hm hs hd =>
    have hx := skipDigits_append hd hq.startsWithDigit
    rw [List.mem_cons, List.mem_cons, List.mem_singleton] at hs
    rcases hs with rfl | rfl | rfl
    · cases ds with
      | nil => exact absurd rfl hd.1
      | cons d ds =>
        have hdigit := hd.2 d (List.mem_cons_self ..)
        have hp : d ≠ '+' := by rintro rfl; exact absurd hdigit (by decide)
        have hn : d ≠ '-' := by rintro rfl; exact absurd hdigit (by decide)
        exact (skipExponent_bare hm hp hn _).trans hx
    · rcases hm with rfl | rfl <;> exact hx
    · rcases hm with rfl | rfl <;> exact hx

/-- what stands behind the digits of a number is no digit -/
theorem Exponent.startsWithDigit (h : Exponent cs) (hq : Clean q) : startsWithDigit (cs ++ q) = false := by
  cases h with
  | none => exact hq.startsWithDigit
  | digits hm => rcases hm with rfl | rfl <;> rfl

theorem Exponent.ne_point (h : Exponent cs) (hq : Clean q) (r : List Char) : cs ++ q ≠ '.' :: r := by
  cases h with
  | none =>
    rcases hq.cases with rfl | ⟨c, p, rfl, -, hd, -⟩
    · exact nofun
    · exact fun he => hd (List.cons.inj he).1
  | digits hm =>
    intro he
    rcases hm with rfl | rfl <;> exact absurd (List.cons.inj he).1 (by decide)

theorem skipNumber_append (h : Numeral cs) (hq : Clean q) : skipNumber (cs ++ q) = .ok q := by
  obtain ⟨w, f, x, rfl, hw, hf, hx⟩ := h
  rw [skipNumber_eq, List.append_assoc, List.append_assoc]
  cases hf with
  | none =>
    rw [List.nil_append, skipWhole_append hw (hx.startsWithDigit hq)]
    exact (skipBehind_of_ne (hx.ne_point hq)).trans (skipExponent_append hx hq)
  | @digits ds hd =>
    rw [skipWhole_append hw rfl]
    show skipDigits (ds ++ (x ++ q)) >>= skipExponent = _
    rw [skipDigits_append hd (hx.startsWithDigit hq)]
    exact skipExponent_append hx hq

/-- a number starts with a digit -/
theorem Numeral.head (h : Numeral cs) : ∃ c r, cs = c :: r ∧ isDigit c = true := by
  obtain ⟨w, f, x, rfl, rfl | ⟨⟨hn, hd⟩, -⟩, -, -⟩ := h
  · exact ⟨'0', f ++ x, rfl, rfl⟩
  · cases w with
    | nil => exact absurd rfl hn
    | cons c w => exact ⟨c, _, rfl, hd c (List.mem_cons_self ..)⟩

theorem readWord_append (ws q : List Char) : readWord ws (ws ++ q) = .ok q := by
  induction ws with
  | nil => rfl
  | cons w ws ih => rw [List.cons_append, readWord, if_pos rfl, ih]

theorem skipScalar_digit {c : Char} (hc : isDigit c = true) (s : List Char) :
    skipScalar (c :: s) = skipNumber (c :: s) := by
  have hne : ∀ d, isDigit d = false → ∀ r, c :: s ≠ d :: r := by
    rintro d hd r he
    rw [(List.cons.inj he).1, hd] at hc
    cases hc
  rw [skipScalar_eq, behind_of_ne (hne _ rfl), behind_of_ne (hne _ rfl), behind_of_ne (hne _ rfl),
    behind_of_ne (hne _ rfl), behind_of_ne (hne _ rfl)]
  exact if_pos hc

theorem skipScalar_append (h : Plain cs) (hq : Clean q) : skipScalar (cs ++ q) = .ok q := by
  cases h with
  | null => exact readWord_append ['u', 'l', 'l'] q
  | true => exact readWord_append ['r', 'u', 'e'] q
  | false => exact readWord_append ['a', 'l', 's', 'e'] q
  | positive h =>
    have hn := skipNumber_append h hq
    obtain ⟨c, r, rfl, hc⟩ := h.head
    exact (skipScalar_digit hc (r ++ q)).trans hn
  | negative h => exact skipNumber_append h hq

end

/-! ## the loop -/

/-- the loop comes to the end of these tokens, whatever brackets are open -/
def Ends (ts : List Token) : Prop :=
  ∀ {s rest}, tokens s = ts ++ rest →
    ∃ r, tokens r = rest ∧ ∀ outer, Leads ⟨true, outer, s⟩ ⟨false, outer, r⟩

section
variable {s : List Char} {ts rest : List Token}

theorem ends_string {body : List Char} (h : Body body) : Ends [.quoted body] := by
  intro s rest ht
  obtain ⟨r, hs, hr⟩ := skipSpaces_of_quoted ht
  exact ⟨r, hr, leads_skipScalar hs (skipString_body h r) (by decide) (by decide)⟩

theorem ends_plain {run : List Char} (h : Plain run) : Ends [.plain run] := by
  intro s rest ht
  obtain ⟨c, q, r, rfl, hp, hs, hr, htr⟩ := skipSpaces_of_plain ht
  have hc := hp c (List.mem_cons_self ..)
  have hl : c ≠ '[' := by rintro rfl; cases hc
  have ho : c ≠ '{' := by rintro rfl; cases hc
  exact ⟨r, htr, leads_skipScalar hs (skipScalar_append h hr) hl ho⟩

/-- the name and the colon of a member -/
theorem skipName_of_tokens {label : List Char} (hb : Body label)
    (h : tokens s = .quoted label :: .mark ':' :: ts) :
    ∃ q r, skipSpaces s = '"' :: q ∧ skipName ('"' :: q) = .ok r ∧ r.length < ('"' :: q).length ∧
      tokens r = ts := by
  obtain ⟨q, hs, hq⟩ := skipSpaces_of_quoted h
  obtain ⟨r, hr, htr⟩ := readColon_of_tokens hq
  refine ⟨label ++ '"' :: q, r, hs, ?_, ?_, htr⟩
  · show skipString _ >>= readColon = _
    rw [skipString_body hb]
    exact hr
  · have hl := length_of_readColon hr
    simp only [List.length_cons, List.length_append]
    omega

theorem skipName_skipSpaces (s : List Char) : skipName (skipSpaces s) = skipName s := by
  unfold skipName
  rw [skipSpaces_skipSpaces]

/-- the items behind the first one, and the bracket -/
theorem ends_items {items : List (List Token)} (hi : ∀ ts ∈ items, Ends ts)
    (h : tokens s = separated false items ++ .mark ']' :: rest) :
    ∃ r, tokens r = rest ∧ ∀ outer, Leads ⟨false, .list :: outer, s⟩ ⟨false, outer, r⟩ := by
  induction items generalizing s with
  | nil =>
    obtain ⟨r, hs, hr⟩ := skipSpaces_of_mark h
    exact ⟨r, hr, fun outer => leads_list_close outer hs⟩
  | cons ts items ih =>
    rw [List.forall_mem_cons] at hi
    rw [separated, List.cons_append, List.append_assoc] at h
    obtain ⟨q, hs, hq⟩ := skipSpaces_of_mark h
    obtain ⟨p, hp, hl⟩ := hi.1 hq
    obtain ⟨r, hr, hlr⟩ := ih hi.2 hp
    exact ⟨r, hr, fun outer => ((leads_list_comma outer hs).trans (hl _)).trans (hlr outer)⟩

theorem ends_array {items : List (List Token)} (hw : ∀ ts ∈ items, WellFormed ts)
    (hi : ∀ ts ∈ items, Ends ts) : Ends (.mark '[' :: (separated true items ++ [.mark ']'])) := by
  intro s rest ht
  rw [List.cons_append, List.append_assoc] at ht
  obtain ⟨q, hs, hq⟩ := skipSpaces_of_mark ht
  cases items with
  | nil =>
    obtain ⟨r, hr, htr⟩ := skipSpaces_of_mark hq
    exact ⟨r, htr, fun outer => leads_list_empty outer hs hr⟩
  | cons ts items =>
    rw [List.forall_mem_cons] at hi hw
    obtain ⟨t, ts', rfl, hn⟩ := hw.1.head
    rw [separated_cons, List.append_assoc, List.append_assoc] at hq
    obtain ⟨p, hp, htp⟩ := nextItem_more hq hn
    obtain ⟨p', hp', hl⟩ := hi.1 htp
    obtain ⟨r, hr, hlr⟩ := ends_items hi.2 hp'
    exact ⟨r, hr, fun outer => ((leads_list_open outer hs hp).trans (hl _)).trans (hlr outer)⟩

/-- the members behind the first one, and the bracket -/
theorem ends_members {members : List (List Char × List Token)} (hb : ∀ m ∈ members, Body m.1)
    (hi : ∀ m ∈ members, Ends m.2)
    (h : tokens s = separated false (members.map labelled) ++ .mark '}' :: rest) :
    ∃ r, tokens r = rest ∧ ∀ outer, Leads ⟨false, .object :: outer, s⟩ ⟨false, outer, r⟩ := by
  induction members generalizing s with
  | nil =>
    obtain ⟨r, hs, hr⟩ := skipSpaces_of_mark h
    exact ⟨r, hr, fun outer => leads_object_close outer hs⟩
  | cons m members ih =>
    rw [List.forall_mem_cons] at hi hb
    rw [List.map_cons, separated, List.cons_append, List.append_assoc] at h
    obtain ⟨q, hs, hq⟩ := skipSpaces_of_mark h
    obtain ⟨q', p, hq', hp, hlen, htp⟩ := skipName_of_tokens hb.1 hq
    obtain ⟨p', htp', hl⟩ := hi.1 htp
    obtain ⟨r, hr, hlr⟩ := ih hb.2 hi.2 htp'
    have hname : skipName q = .ok p := by rw [← skipName_skipSpaces, hq', hp]
    have hlq : p.length < q.length := Nat.lt_of_lt_of_le hlen (length_of_skipSpaces hq')
    refine ⟨r, hr, fun outer => ?_⟩
    exact ((leads_object_comma outer hs hname hlq).trans (hl _)).trans (hlr outer)

theorem ends_object {members : List (List Char × List Token)} (hb : ∀ m ∈ members, Body m.1)
    (hi : ∀ m ∈ members, Ends m.2) :
    Ends (.mark '{' :: (separated true (members.map labelled) ++ [.mark '}'])) := by
  intro s rest ht
  rw [List.cons_append, List.append_assoc] at ht
  obtain ⟨q, hs, hq⟩ := skipSpaces_of_mark ht
  cases members with
  | nil =>
    obtain ⟨r, hr, htr⟩ := skipSpaces_of_mark hq
    exact ⟨r, htr, fun outer => leads_object_empty outer hs hr⟩
  | cons m members =>
    rw [List.forall_mem_cons] at hi hb
    rw [List.map_cons, separated, List.append_assoc] at hq
    obtain ⟨q', p, hq', hp, hlen, htp⟩ := skipName_of_tokens hb.1 hq
    obtain ⟨p', htp', hl⟩ := hi.1 htp
    obtain ⟨r, hr, hlr⟩ := ends_members hb.2 hi.2 htp'
    exact ⟨r, hr, fun outer => ((leads_object_open outer hs hq' hp hlen).trans (hl _)).trans (hlr outer)⟩

/-- by the grammar, with one case for each of its rules -/
theorem leads_wellFormed (h : WellFormed ts) : Ends ts := by
  induction h with
  | string h => exact ends_string h
  | plain h => exact ends_plain h
  | array items hw ih => exact ends_array hw ih
  | object members hb _ ih => exact ends_object hb ih

end

/-- **What may be ignored.** Every value that the grammar allows is passed over, up to its end: nested as
deep as it likes, with numbers of any size and escapes that stand for no character. -/
theorem skipValue_of_wellFormed {s : List Char} {ts rest : List Token} {n : Nat} (h : WellFormed ts)
    (ht : tokens s = ts ++ rest) (hn : s.length ≤ n) :
    ∃ r, skipValue n s = .ok r ∧ r.length ≤ s.length ∧ tokens r = rest := by
  obtain ⟨r, hr, hl⟩ := leads_wellFormed h ht
  have hlen : r.length ≤ s.length := by
    obtain ⟨k, hk, -⟩ := hl []
    exact Nat.le_trans (Nat.le_add_left _ _) hk
  exact ⟨r, skipValue_of_leads (hl []) hn, hlen, hr⟩

end ServerConsole.Json
