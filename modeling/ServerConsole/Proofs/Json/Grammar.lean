import ServerConsole.Proofs.Json.Scalars

/-!
# What is read is what the tokens spell

* `Given`, `Entry`  a member of an object as it stands in a text, and with the value that is read of it;
* `Spells`        the values that token lists stand for, nested at most so deep;
* `spells_of_readValue`, `readValue_of_spells`  the reader takes the first spelled value, and only that;
* `parse_eq_ok_iff`  a text reads as a value exactly if its tokens spell this value.

So nothing but its tokens decides what a text is read as.
-/

namespace ServerConsole.Json

/-! ## spelled values -/

/-- parts with a comma in front of each, the first one excepted where `first` is set -/
def separated : Bool → List (List Token) → List Token
  | _, [] => []
  | true, p :: ps => p ++ separated false ps
  | false, p :: ps => .mark ',' :: (p ++ separated false ps)

/-- a member in a text: its name as it is written and as it is read, and the tokens of its value -/
structure Given where
  label : List Char
  name : String
  spelling : List Token
  deriving DecidableEq

namespace Given

def tokens (g : Given) : List Token := .quoted g.label :: .mark ':' :: g.spelling

def IsNamed (g : Given) : Prop := readString (g.label ++ ['"']) = .ok (g.name, [])

end Given

/-- a member in a text, and the value that is read of it -/
structure Entry extends Given where
  value : Value

def Entry.member (e : Entry) : String × Value := (e.name, e.value)

/-- the tokens stand for the value, in at most so many levels of brackets -/
inductive Spells : Nat → List Token → Value → Prop
  | string {depth : Nat} {body : List Char} {text : String}
      (h : readString (body ++ ['"']) = .ok (text, [])) : Spells depth [.quoted body] (.string text)
  | plain {depth : Nat} {run : List Char} {v : Value} (h : readScalar run = .ok (v, [])) :
      Spells depth [.plain run] v
  | array {depth : Nat} (items : List (List Token × Value))
      (h : ∀ p ∈ items, Spells depth p.1 p.2) :
      Spells (depth + 1) (.mark '[' :: (separated true (items.map Prod.fst) ++ [.mark ']']))
        (.array (items.map Prod.snd))
  | object {depth : Nat} (entries : List Entry) (hn : ∀ e ∈ entries, e.IsNamed)
      (h : ∀ e ∈ entries, Spells depth e.spelling e.value) :
      Spells (depth + 1) (.mark '{' :: (separated true (entries.map (·.tokens)) ++ [.mark '}']))
        (.object (entries.map Entry.member))

section
variable {depth : Nat} {ts : List Token} {v : Value}

/-- a value does not start with a closing bracket -/
theorem Spells.head (h : Spells depth ts v) :
    ∃ t rest, ts = t :: rest ∧ t ≠ .mark ']' ∧ t ≠ .mark '}' := by
  cases h with
  | string h => exact ⟨_, _, rfl, nofun, nofun⟩
  | plain h => exact ⟨_, _, rfl, nofun, nofun⟩
  | array items h => exact ⟨_, _, rfl, by decide, by decide⟩
  | object entries hn h => exact ⟨_, _, rfl, by decide, by decide⟩

theorem closed_separated {first : Bool} {ps : List (List Token)} (h : ∀ p ∈ ps, Closed p) :
    Closed (separated first ps) := by
  induction ps generalizing first with
  | nil => cases first <;> exact closed_nil
  | cons p ps ih =>
    have hp := h p (List.mem_cons_self ..)
    have hs : Closed (separated false ps) := ih fun q hq => h q (List.mem_cons_of_mem p hq)
    cases first with
    | true => exact hp.append hs
    | false => exact Closed.append (a := [.mark ',']) (by simp [Closed]) (hp.append hs)

theorem Spells.closed (h : Spells depth ts v) : Closed ts := by
  induction h with
  | string h => simp [Closed]
  | plain h => simp [Closed]
  | array items h ih =>
    have hs : Closed (separated true (items.map Prod.fst)) := by
      refine closed_separated fun p hp => ?_
      obtain ⟨q, hq, rfl⟩ := List.mem_map.mp hp
      exact ih q hq
    exact Closed.append (a := [.mark '[']) (by simp [Closed]) (hs.append (by simp [Closed]))
  | object entries hn h ih =>
    have hs : Closed (separated true (entries.map (·.tokens))) := by
      refine closed_separated fun p hp => ?_
      obtain ⟨e, he, rfl⟩ := List.mem_map.mp hp
      exact Closed.append (a := [.quoted e.label, .mark ':']) (by simp [Closed]) (ih e he)
    exact Closed.append (a := [.mark '{']) (by simp [Closed]) (hs.append (by simp [Closed]))

end

/-! ## separators -/

section
variable {first : Bool} {s r : List Char} {f : Fault}

/-- the comma in front of a part that is not the first -/
def comma (first : Bool) : List Token := if first then [] else [.mark ',']

theorem separated_cons (first : Bool) (p : List Token) (ps : List (List Token)) :
    separated first (p :: ps) = comma first ++ (p ++ separated false ps) := by
  cases first <;> rfl

theorem tokens_of_skipSpaces {c : Char} (hc : isMark c = true) (h : skipSpaces s = c :: r) :
    tokens s = .mark c :: tokens r := by
  rw [← tokens_skipSpaces, h, tokens_mark hc]

theorem of_nextItem_done (h : nextItem first s = .ok (.done r)) : skipSpaces s = ']' :: r := by
  unfold nextItem at h
  split at h
  · cases h
  · next hs => cases h; exact hs
  · split at h
    · cases h
    · split at h
      · split at h <;> cases h
      · cases h

theorem of_nextItem_more (h : nextItem first s = .ok (.more r)) :
    tokens s = comma first ++ tokens r := by
  unfold nextItem at h
  split at h
  · cases h
  · cases h
  · next c q hn hs =>
    split at h
    · next hf =>
      cases h
      rw [hf, ← tokens_skipSpaces s, hs]
      rfl
    · next hf =>
      split at h
      · next hc =>
        have ht := tokens_of_skipSpaces rfl (hs.trans (by rw [hc]))
        rw [Bool.eq_false_iff.mpr hf, ht, ← tokens_skipSpaces q]
        split at h
        · cases h
        · cases h
        · cases h; rfl
      · cases h

theorem clean_of_nextItem {next : Next} (h : nextItem false s = .ok next) : Clean s := by
  unfold nextItem at h
  split at h
  · cases h
  · next hs => exact clean_of_skipSpaces hs rfl
  · next hs =>
    split at h
    · next hf => cases hf
    · split at h
      · next hc => exact clean_of_skipSpaces (hs.trans (by rw [hc])) rfl
      · cases h

theorem of_nextMember_done (h : nextMember first s = .ok (.done r)) : skipSpaces s = '}' :: r := by
  unfold nextMember at h
  split at h
  · next hs => cases h; exact hs
  · split at h
    · cases h
    · split at h <;> cases h
  · split at h <;> cases h
  · cases h

theorem of_nextMember_more (h : nextMember first s = .ok (.more r)) :
    tokens s = comma first ++ tokens ('"' :: r) := by
  unfold nextMember at h
  split at h
  · cases h
  · next q hs =>
    split at h
    · cases h
    · next hf =>
      split at h
      · next q' hq =>
        cases h
        rw [Bool.eq_false_iff.mpr hf, tokens_of_skipSpaces rfl hs, ← tokens_skipSpaces q, hq]
        rfl
      · cases h
  · next q hs =>
    split at h
    · next hf =>
      cases h
      rw [hf, ← tokens_skipSpaces s, hs]
      rfl
    · cases h
  · cases h

theorem clean_of_nextMember {next : Next} (h : nextMember false s = .ok next) : Clean s := by
  unfold nextMember at h
  split at h
  · next hs => exact clean_of_skipSpaces hs rfl
  · next hs => exact clean_of_skipSpaces hs rfl
  · next hs => exact clean_of_skipSpaces hs rfl
  · cases h

theorem of_readColon (h : readColon s = .ok r) : tokens s = .mark ':' :: tokens r := by
  unfold readColon at h
  split at h
  · next hs =>
    cases h
    exact tokens_of_skipSpaces rfl hs
  · cases h

end

/-! ## what the reader takes is spelled -/

/-- what the reader takes in front of a clean text is spelled by the tokens it passes -/
def Sound (item : Reader Value) (depth : Nat) : Prop :=
  ∀ {s v r}, item s = .ok (v, r) → Clean r → ∃ ts, tokens s = ts ++ tokens r ∧ Spells depth ts v

section
variable {item : Reader Value} {depth fuel : Nat} {first : Bool} {s r : List Char}

theorem clean_of_readItems {done vs : List Value}
    (h : readItems item fuel false done s = .ok (vs, r)) : Clean s := by
  cases fuel with
  | zero => cases h
  | succ fuel =>
    rw [readItems] at h
    obtain ⟨next, hn, -⟩ := bind_eq_ok h
    exact clean_of_nextItem hn

theorem clean_of_readMembers {done ms : List (String × Value)}
    (h : readMembers item fuel false done s = .ok (ms, r)) : Clean s := by
  cases fuel with
  | zero => cases h
  | succ fuel =>
    rw [readMembers] at h
    obtain ⟨next, hn, -⟩ := bind_eq_ok h
    exact clean_of_nextMember hn

theorem readItems_sound (hi : Sound item depth) {done vs : List Value}
    (h : readItems item fuel first done s = .ok (vs, r)) :
    ∃ items : List (List Token × Value), (∀ p ∈ items, Spells depth p.1 p.2) ∧
      vs = done.reverse ++ items.map Prod.snd ∧
      tokens s = separated first (items.map Prod.fst) ++ .mark ']' :: tokens r := by
  induction fuel generalizing first done s with
  | zero => cases h
  | succ fuel ih =>
    rw [readItems] at h
    obtain ⟨next, hn, h⟩ := bind_eq_ok h
    cases next with
    | done q =>
      obtain ⟨rfl, rfl⟩ := Prod.mk.inj (Except.ok.inj h)
      refine ⟨[], nofun, (List.append_nil _).symm, ?_⟩
      rw [tokens_of_skipSpaces rfl (of_nextItem_done hn)]
      cases first <;> rfl
    | more q =>
      obtain ⟨⟨v, q'⟩, hv, h⟩ := bind_eq_ok h
      replace h : readItems item fuel false (v :: done) q' = .ok (vs, r) := h
      obtain ⟨ts, ht, hs⟩ := hi hv (clean_of_readItems h)
      obtain ⟨items, hp, rfl, hl⟩ := ih h
      refine ⟨(ts, v) :: items, ?_, by simp, ?_⟩
      · intro p hm
        rcases List.mem_cons.mp hm with rfl | hm
        · exact hs
        · exact hp p hm
      · rw [of_nextItem_more hn, ht, hl, List.map_cons, separated_cons]
        simp only [List.append_assoc]

theorem readMembers_sound (hi : Sound item depth) {done ms : List (String × Value)}
    (h : readMembers item fuel first done s = .ok (ms, r)) :
    ∃ entries : List Entry, (∀ e ∈ entries, e.IsNamed) ∧
      (∀ e ∈ entries, Spells depth e.spelling e.value) ∧
      ms = done.reverse ++ entries.map Entry.member ∧
      tokens s = separated first (entries.map (·.tokens)) ++ .mark '}' :: tokens r := by
  induction fuel generalizing first done s with
  | zero => cases h
  | succ fuel ih =>
    rw [readMembers] at h
    obtain ⟨next, hn, h⟩ := bind_eq_ok h
    cases next with
    | done q =>
      obtain ⟨rfl, rfl⟩ := Prod.mk.inj (Except.ok.inj h)
      refine ⟨[], nofun, nofun, (List.append_nil _).symm, ?_⟩
      rw [tokens_of_skipSpaces rfl (of_nextMember_done hn)]
      cases first <;> rfl
    | more q =>
      obtain ⟨⟨name, q1⟩, hname, h⟩ := bind_eq_ok h
      obtain ⟨q2, hcolon, h⟩ := bind_eq_ok h
      obtain ⟨⟨v, q3⟩, hv, h⟩ := bind_eq_ok h
      replace h : readMembers item fuel false ((name, v) :: done) q3 = .ok (ms, r) := h
      obtain ⟨label, hl, hp, hr⟩ := readString_reads hname
      obtain ⟨ts, ht, hs⟩ := hi hv (clean_of_readMembers h)
      obtain ⟨entries, hnames, hspells, rfl, hrest⟩ := ih h
      refine ⟨⟨⟨label, name, ts⟩, v⟩ :: entries, ?_, ?_, by simp [Entry.member], ?_⟩
      · intro e hm
        rcases List.mem_cons.mp hm with rfl | hm
        · exact hr []
        · exact hnames e hm
      · intro e hm
        rcases List.mem_cons.mp hm with rfl | hm
        · exact hs
        · exact hspells e hm
      · rw [of_nextMember_more hn, hl, tokens_quoted (hp.cutString? q1), of_readColon hcolon, ht,
          hrest, List.map_cons, separated_cons]
        simp only [Given.tokens, List.cons_append, List.append_assoc]

end

/-! ## values -/

section
variable {budget depth : Nat} {s r q : List Char} {v : Value}

theorem readValue_list (h : skipSpaces s = '[' :: q) :
    readValue budget (depth + 1) s = (do
      let (items, r) ← readItems (readValue budget depth) budget true [] q
      pure (.array items, r)) := by
  rw [readValue, h]
  rfl

theorem readValue_object (h : skipSpaces s = '{' :: q) :
    readValue budget (depth + 1) s = (do
      let (members, r) ← readMembers (readValue budget depth) budget true [] q
      pure (.object members, r)) := by
  rw [readValue, h]
  rfl

theorem readValue_scalar {c : Char} (h : skipSpaces s = c :: q) (hl : c ≠ '[') (ho : c ≠ '{') :
    readValue budget depth s = readScalar (c :: q) := by
  cases depth with
  | zero =>
    rw [readValue, h]
    split
    · next he => exact absurd (List.cons.inj he).1 hl
    · next he => exact absurd (List.cons.inj he).1 ho
    · rfl
  | succ depth =>
    rw [readValue, h]
    split
    · next he => exact absurd (List.cons.inj he).1 hl
    · next he => exact absurd (List.cons.inj he).1 ho
    · rfl

/-- everything that reading a value can come to -/
inductive Reads (budget : Nat) : Nat → List Char → Value → List Char → Prop
  | list {s r : List Char} (depth : Nat) (q : List Char) (items : List Value)
      (hs : skipSpaces s = '[' :: q)
      (h : readItems (readValue budget depth) budget true [] q = .ok (items, r)) :
      Reads budget (depth + 1) s (.array items) r
  | object {s r : List Char} (depth : Nat) (q : List Char) (members : List (String × Value))
      (hs : skipSpaces s = '{' :: q)
      (h : readMembers (readValue budget depth) budget true [] q = .ok (members, r)) :
      Reads budget (depth + 1) s (.object members) r
  | scalar {depth : Nat} {s r : List Char} {v : Value} (c : Char) (q : List Char)
      (hs : skipSpaces s = c :: q) (h : readScalar (c :: q) = .ok (v, r)) : Reads budget depth s v r

theorem reads_of_readValue (h : readValue budget depth s = .ok (v, r)) :
    Reads budget depth s v r := by
  cases hs : skipSpaces s with
  | nil => cases depth <;> simp [readValue, hs, readScalar] at h
  | cons c q =>
    by_cases hl : c = '['
    · subst hl
      cases depth with
      | zero => simp [readValue, hs] at h
      | succ depth =>
        rw [readValue_list hs] at h
        obtain ⟨⟨items, r'⟩, hi, he⟩ := bind_eq_ok h
        obtain ⟨rfl, rfl⟩ := Prod.mk.inj (Except.ok.inj he)
        exact .list depth q items hs hi
    · by_cases ho : c = '{'
      · subst ho
        cases depth with
        | zero => simp [readValue, hs] at h
        | succ depth =>
          rw [readValue_object hs] at h
          obtain ⟨⟨members, r'⟩, hm, he⟩ := bind_eq_ok h
          obtain ⟨rfl, rfl⟩ := Prod.mk.inj (Except.ok.inj he)
          exact .object depth q members hs hm
      · rw [readValue_scalar hs hl ho] at h
        exact .scalar c q hs h

theorem spells_of_readScalar {c : Char} (hs : skipSpaces s = c :: q)
    (h : readScalar (c :: q) = .ok (v, r)) (hr : Clean r) :
    ∃ ts, tokens s = ts ++ tokens r ∧ Spells depth ts v := by
  have hc := isSpace_head_skipSpaces hs
  rw [← tokens_skipSpaces, hs]
  by_cases hq : c = '"'
  · subst hq
    obtain ⟨⟨text, r'⟩, ht, he⟩ := bind_eq_ok h
    obtain ⟨rfl, rfl⟩ := Prod.mk.inj (Except.ok.inj he)
    obtain ⟨body, rfl, hp, hb⟩ := readString_reads ht
    exact ⟨[.quoted body], tokens_quoted (hp.cutString? _), .string (hb [])⟩
  · have hm : isMark c = false := by
      rw [← Bool.not_eq_true]
      intro hm
      have hc : c = '{' ∨ c = '}' ∨ c = '[' ∨ c = ']' ∨ c = ':' ∨ c = ',' := by
        simpa [isMark] using hm
      rcases hc with rfl | rfl | rfl | rfl | rfl | rfl <;> cases h
    have hp := isPlain_eq_true hc hm hq
    obtain ⟨rfl, hv⟩ := readScalar_run hp h hr
    exact ⟨[.plain (c :: q.takeWhile isPlain)], tokens_plain hp, .plain hv⟩

theorem spells_of_readValue (h : readValue budget depth s = .ok (v, r)) (hr : Clean r) :
    ∃ ts, tokens s = ts ++ tokens r ∧ Spells depth ts v := by
  induction depth generalizing s v r with
  | zero =>
    cases reads_of_readValue h with
    | scalar c q hs h => exact spells_of_readScalar hs h hr
  | succ depth ih =>
    cases reads_of_readValue h with
    | list depth q items hs h =>
      obtain ⟨parts, hp, rfl, hl⟩ := readItems_sound ih h
      refine ⟨_, ?_, .array parts hp⟩
      rw [tokens_of_skipSpaces rfl hs, hl]
      simp
    | object depth q members hs h =>
      obtain ⟨entries, hn, hp, rfl, hl⟩ := readMembers_sound ih h
      refine ⟨_, ?_, .object entries hn hp⟩
      rw [tokens_of_skipSpaces rfl hs, hl]
      simp
    | scalar c q hs h => exact spells_of_readScalar hs h hr

end

/-! ## what is spelled is taken -/

/-- the reader takes the value off a text that starts with the given tokens -/
def Complete (item : Reader Value) (budget : Nat) (ts : List Token) (v : Value) : Prop :=
  ∀ {s rest}, tokens s = ts ++ rest → (tokens s).length ≤ budget →
    ∃ r, item s = .ok (v, r) ∧ tokens r = rest

section
variable {s r : List Char} {t : Token} {ts rest : List Token}

theorem skipSpaces_of_head {c : Char} (h : tokens s = t :: ts) (hc : isMark c = true)
    (ht : t ≠ .mark c) : ∃ d q, skipSpaces s = d :: q ∧ d ≠ c := by
  cases hs : skipSpaces s with
  | nil =>
    rw [← tokens_skipSpaces, hs, tokens_nil] at h
    cases h
  | cons d q =>
    refine ⟨d, q, rfl, ?_⟩
    rintro rfl
    rw [tokens_of_skipSpaces hc hs] at h
    exact ht (List.cons.inj h).1.symm

theorem nextItem_done {first : Bool} (h : skipSpaces s = ']' :: r) :
    nextItem first s = .ok (.done r) := by
  rw [nextItem, h]
  rfl

/-- an item is met where its tokens are next -/
theorem nextItem_more {first : Bool} (h : tokens s = comma first ++ (t :: ts))
    (ht : t ≠ .mark ']') : ∃ q, nextItem first s = .ok (.more q) ∧ tokens q = t :: ts := by
  cases first with
  | true =>
    obtain ⟨d, q, hs, hd⟩ := skipSpaces_of_head h rfl ht
    refine ⟨d :: q, ?_, by rw [← hs, tokens_skipSpaces]; exact h⟩
    unfold nextItem
    rw [hs]
    split
    · next he => cases he
    · next he => exact absurd (List.cons.inj he).1 hd
    · next he => cases he; rfl
  | false =>
    have hc : tokens s = .mark ',' :: t :: ts := h
    obtain ⟨q, hs, hq⟩ := skipSpaces_of_mark hc
    obtain ⟨d, q', hs', hd⟩ := skipSpaces_of_head hq rfl ht
    refine ⟨d :: q', ?_, by rw [← hs', tokens_skipSpaces]; exact hq⟩
    unfold nextItem
    rw [hs]
    split
    · next he => cases he
    · next he => cases he
    · next he =>
      cases he
      rw [if_neg Bool.false_ne_true, if_pos rfl, hs']
      split
      · next he => cases he
      · next he => exact absurd (List.cons.inj he).1 hd
      · rfl

theorem nextMember_done {first : Bool} (h : skipSpaces s = '}' :: r) :
    nextMember first s = .ok (.done r) := by
  rw [nextMember, h]
  rfl

theorem nextMember_more {first : Bool} {label : List Char}
    (h : tokens s = comma first ++ (.quoted label :: ts)) :
    ∃ r, nextMember first s = .ok (.more (label ++ '"' :: r)) ∧ tokens r = ts := by
  cases first with
  | true =>
    obtain ⟨r, hs, hr⟩ := skipSpaces_of_quoted h
    exact ⟨r, by rw [nextMember, hs]; rfl, hr⟩
  | false =>
    have hc : tokens s = .mark ',' :: .quoted label :: ts := h
    obtain ⟨q, hs, hq⟩ := skipSpaces_of_mark hc
    obtain ⟨r, hs', hr⟩ := skipSpaces_of_quoted hq
    refine ⟨r, ?_, hr⟩
    simp only [nextMember, hs, Bool.false_eq_true, if_false, hs']

theorem readColon_of_tokens (h : tokens s = .mark ':' :: ts) :
    ∃ r, readColon s = .ok r ∧ tokens r = ts := by
  obtain ⟨r, hs, hr⟩ := skipSpaces_of_mark h
  exact ⟨r, by rw [readColon, hs]; rfl, hr⟩

end

section
variable {item : Reader Value} {budget depth fuel : Nat} {first : Bool} {s : List Char}
  {rest : List Token}

theorem readItems_complete {items : List (List Token × Value)} (done : List Value)
    (hi : ∀ p ∈ items, Complete item budget p.1 p.2)
    (hp : ∀ p ∈ items, Spells depth p.1 p.2)
    (h : tokens s = separated first (items.map Prod.fst) ++ .mark ']' :: rest)
    (hb : (tokens s).length ≤ budget) (hf : (tokens s).length ≤ fuel) :
    ∃ r, readItems item fuel first done s = .ok (done.reverse ++ items.map Prod.snd, r) ∧
      tokens r = rest := by
  induction items generalizing first done s fuel with
  | nil =>
    have hs : tokens s = .mark ']' :: rest := by
      rw [h]
      cases first <;> rfl
    obtain ⟨r, hr, ht⟩ := skipSpaces_of_mark hs
    cases fuel with
    | zero => rw [hs] at hf; cases hf
    | succ fuel =>
      refine ⟨r, ?_, ht⟩
      rw [readItems, nextItem_done hr]
      simp [bind, Except.bind, pure, Except.pure]
  | cons p items ih =>
    obtain ⟨t, ts, hts, hn, -⟩ := (hp p (List.mem_cons_self ..)).head
    rw [List.map_cons, separated_cons, List.append_assoc, List.append_assoc, hts,
      List.cons_append] at h
    obtain ⟨q, hq, htq⟩ := nextItem_more h hn
    rw [← List.cons_append, ← hts] at htq
    have hl : (tokens q).length ≤ (tokens s).length := by
      rw [h, htq, hts]
      simp
    obtain ⟨r, hr, htr⟩ := hi p (List.mem_cons_self ..) htq (by omega)
    cases fuel with
    | zero => rw [h] at hf; simp at hf
    | succ fuel =>
      have hlr : (tokens r).length < (tokens q).length := by
        rw [htq, htr, hts]
        simp only [List.cons_append, List.length_cons, List.length_append]
        omega
      have hf' : (tokens r).length ≤ fuel := by omega
      obtain ⟨r', hr', ht'⟩ := ih (p.2 :: done) (fun x hx => hi x (List.mem_cons_of_mem p hx))
        (fun x hx => hp x (List.mem_cons_of_mem p hx)) htr (by omega) hf'
      refine ⟨r', ?_, ht'⟩
      rw [readItems, hq]
      show item q >>= _ = _
      rw [hr]
      show readItems item fuel false (p.2 :: done) r = _
      rw [hr']
      simp

theorem readMembers_complete {entries : List Entry} (done : List (String × Value))
    (hi : ∀ e ∈ entries, Complete item budget e.spelling e.value)
    (hn : ∀ e ∈ entries, e.IsNamed)
    (h : tokens s = separated first (entries.map (·.tokens)) ++ .mark '}' :: rest)
    (hb : (tokens s).length ≤ budget) (hf : (tokens s).length ≤ fuel) :
    ∃ r, readMembers item fuel first done s = .ok (done.reverse ++ entries.map Entry.member, r) ∧
      tokens r = rest := by
  induction entries generalizing first done s fuel with
  | nil =>
    have hs : tokens s = .mark '}' :: rest := by
      rw [h]
      cases first <;> rfl
    obtain ⟨r, hr, ht⟩ := skipSpaces_of_mark hs
    cases fuel with
    | zero => rw [hs] at hf; cases hf
    | succ fuel =>
      refine ⟨r, ?_, ht⟩
      rw [readMembers, nextMember_done hr]
      simp [bind, Except.bind, pure, Except.pure]
  | cons e entries ih =>
    rw [List.map_cons, separated_cons, List.append_assoc, List.append_assoc, Given.tokens,
      List.cons_append, List.cons_append] at h
    obtain ⟨q, hq, htq⟩ := nextMember_more h
    obtain ⟨q', hq', htq'⟩ := readColon_of_tokens htq
    have hname := (readString_append (hn e (List.mem_cons_self ..)) q).2
    have hl : (tokens q').length < (tokens s).length := by
      rw [h, htq']
      simp
      omega
    obtain ⟨r, hr, htr⟩ := hi e (List.mem_cons_self ..) htq' (by omega)
    cases fuel with
    | zero => omega
    | succ fuel =>
      have hlr : (tokens r).length ≤ (tokens q').length := by
        rw [htq', htr]
        exact (List.sublist_append_right e.spelling _).length_le
      have hf' : (tokens r).length ≤ fuel := by omega
      obtain ⟨r', hr', ht'⟩ := ih (e.member :: done) (fun x hx => hi x (List.mem_cons_of_mem e hx))
        (fun x hx => hn x (List.mem_cons_of_mem e hx)) htr (by omega) hf'
      refine ⟨r', ?_, ht'⟩
      rw [readMembers, hq]
      show readString _ >>= _ = _
      rw [hname]
      show readColon q >>= _ = _
      rw [hq']
      show item q' >>= _ = _
      rw [hr]
      show readMembers item fuel false (e.member :: done) r = _
      rw [hr']
      simp

end

theorem readValue_of_spells {budget depth : Nat} {ts : List Token} {v : Value}
    (h : Spells depth ts v) : Complete (readValue budget depth) budget ts v := by
  induction h with
  | string h =>
    intro s rest ht _
    obtain ⟨r, hs, hr⟩ := skipSpaces_of_quoted ht
    refine ⟨r, ?_, hr⟩
    rw [readValue_scalar hs (by decide) (by decide)]
    show readString _ >>= _ = _
    rw [(readString_append h r).2]
    rfl
  | plain h =>
    intro s rest ht _
    obtain ⟨c, q, r, rfl, hp, hs, hr, htr⟩ := skipSpaces_of_plain ht
    have hc := hp c (List.mem_cons_self ..)
    refine ⟨r, ?_, htr⟩
    have hl : c ≠ '[' := by rintro rfl; cases hc
    have ho : c ≠ '{' := by rintro rfl; cases hc
    rw [readValue_scalar hs hl ho]
    exact readScalar_append hc h hr
  | array items hp ih =>
    intro s rest ht hb
    rw [List.cons_append, List.append_assoc] at ht
    obtain ⟨q, hs, hq⟩ := skipSpaces_of_mark ht
    have hl : (tokens q).length ≤ budget := by
      rw [tokens_of_skipSpaces rfl hs] at hb
      exact Nat.le_of_succ_le hb
    obtain ⟨r, hr, htr⟩ := readItems_complete [] ih hp hq hl hl
    refine ⟨r, ?_, htr⟩
    rw [readValue_list hs, hr]
    rfl
  | object entries hn hp ih =>
    intro s rest ht hb
    rw [List.cons_append, List.append_assoc] at ht
    obtain ⟨q, hs, hq⟩ := skipSpaces_of_mark ht
    have hl : (tokens q).length ≤ budget := by
      rw [tokens_of_skipSpaces rfl hs] at hb
      exact Nat.le_of_succ_le hb
    obtain ⟨r, hr, htr⟩ := readMembers_complete [] ih hn hq hl hl
    refine ⟨r, ?_, htr⟩
    rw [readValue_object hs, hr]
    rfl

/-! ## whole texts -/

/-- **The grammar of texts.** A text is read as a value exactly if its tokens spell this value within
the levels of brackets that are allowed. -/
theorem parse_eq_ok_iff {s : List Char} {v : Value} :
    parse s = .ok v ↔ Spells maxDepth (tokens s) v := by
  constructor
  · intro h
    obtain ⟨⟨w, r⟩, hr, he⟩ := bind_eq_ok h
    dsimp only at he
    split at he
    · next hr' =>
      obtain rfl := Except.ok.inj he
      have hn : skipSpaces r = [] := List.isEmpty_iff.mp hr'
      obtain ⟨ts, ht, hs⟩ := spells_of_readValue hr (clean_of_skipSpaces_nil hn)
      rw [← tokens_skipSpaces r, hn, tokens_nil, List.append_nil] at ht
      rw [ht]
      exact hs
    · cases he
  · intro h
    have hc : Complete (readValue s.length maxDepth) s.length (tokens s) v := readValue_of_spells h
    obtain ⟨r, hr, ht⟩ := hc (List.append_nil _).symm (length_tokens_le s)
    show readValue s.length maxDepth s >>= _ = _
    rw [hr]
    show (if (skipSpaces r).isEmpty then pure v else _ : Except Fault Value) = _
    rw [skipSpaces_of_nil ht]
    rfl

end ServerConsole.Json
