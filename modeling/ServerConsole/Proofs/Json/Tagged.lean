import ServerConsole.Json.Shape
import ServerConsole.Proofs.Json.Grammar

/-!
# Tagged values, read from a text and from a value

A tagged object is read in one pass: the tag is taken as soon as it is met, and the other members are
kept. The same comes out when the whole value is read first and the tag is looked for afterwards.

* `collect`                 one pass over members already read;
* `tagged?_object`          it finds the same tag and content as looking at all members;
* `readTagged_of_readValue` reading with a tag in view, where a value can be read;
* `complete_readContent`    whole texts: both ways take the same ones.
-/

namespace ServerConsole.Json

section
variable {τ : Type} (tag? : String → Option τ)

/-! ## one pass over members -/

def isTag (m : String × Value) : Bool := m.1 == tagName

/-- the tag of a value, if it is one -/
def tagOf? (v : Value) : Option τ := v.string?.bind tag?

/-- `done` are the members passed so far, last first -/
def collect : Option τ → List (String × Value) → List (String × Value) → Option (τ × Value)
  | tag, done, [] => tag.map (·, .object done.reverse)
  | tag, done, m :: ms =>
    if isTag m then
      if tag.isSome then none
      else (tagOf? tag? m.2).bind fun t => collect (some t) done ms
    else collect tag (m :: done) ms

/-- with the tag known, no second one may follow -/
theorem collect_some (t : τ) (done ms : List (String × Value)) :
    collect tag? (some t) done ms =
      if (ms.filter isTag).isEmpty then some (t, .object (done.reverse ++ ms)) else none := by
  induction ms generalizing done with
  | nil => simp [collect]
  | cons m ms ih =>
    by_cases hm : isTag m = true
    · rw [collect, if_pos hm, List.filter_cons_of_pos hm]
      rfl
    · rw [collect, if_neg hm, ih, List.filter_cons_of_neg hm, List.reverse_cons, List.append_assoc]
      rfl

theorem tagged?_eq (ms : List (String × Value)) :
    tagged? tag? (.object ms) =
      match ms.filter isTag with
      | [m] => (tagOf? tag? m.2).map (·, .object (ms.filter (!isTag ·)))
      | _ => none := by
  have hp : ms.partition (·.1 == tagName) = (ms.filter isTag, ms.filter (!isTag ·)) :=
    List.partition_eq_filter_filter ..
  rw [tagged?, hp]
  generalize ms.filter isTag = tags
  match tags with
  | [] => rfl
  | [(_, v)] | (_, v) :: _ :: _ => cases v <;> rfl

theorem filter_not_isTag {ms : List (String × Value)} (h : ms.filter isTag = []) :
    ms.filter (!isTag ·) = ms := by
  rw [List.filter_eq_self]
  intro m hm
  rw [List.filter_eq_nil_iff] at h
  simpa using h m hm

theorem tagged?_append {done : List (String × Value)} (hd : done.filter isTag = [])
    (ms : List (String × Value)) :
    tagged? tag? (.object (done.reverse ++ ms)) = collect tag? none done ms := by
  have hr : done.reverse.filter isTag = [] := by rw [List.filter_reverse, hd]; rfl
  induction ms generalizing done with
  | nil =>
    rw [tagged?_eq, List.append_nil, hr]
    rfl
  | cons m ms ih =>
    by_cases hm : isTag m = true
    · rw [collect, if_pos hm, if_neg nofun, tagged?_eq, List.filter_append, List.filter_append, hr,
        List.nil_append, filter_not_isTag hr, List.filter_cons_of_pos hm,
        List.filter_cons_of_neg (by simp [hm])]
      cases hs : ms.filter isTag with
      | nil =>
        rw [filter_not_isTag hs]
        simp only [collect_some, hs, List.isEmpty_nil, if_true]
        cases tagOf? tag? m.2 <;> rfl
      | cons m' tags =>
        simp only [collect_some, hs, List.isEmpty_cons, Bool.false_eq_true, if_false]
        cases tagOf? tag? m.2 <;> rfl
    · have hd' : (m :: done).filter isTag = [] := by rw [List.filter_cons_of_neg hm, hd]
      rw [collect, if_neg hm, ← ih hd' (by rw [List.filter_reverse, hd']; rfl), List.reverse_cons,
        List.append_assoc]
      rfl

theorem tagged?_object (ms : List (String × Value)) :
    tagged? tag? (.object ms) = collect tag? none [] ms := by
  have hn : ([] : List (String × Value)).filter isTag = [] := rfl
  exact tagged?_append tag? hn ms

/-! ## one pass over a text -/

/-- what comes of a value or a fault where a value could be read -/
def settle {α : Type} (x : Option α) (r : List Char) : Except Fault (α × List Char) :=
  match x with
  | some a => .ok (a, r)
  | none => .error .mismatched

section
variable {tag?} {budget depth fuel : Nat} {s r : List Char} {v : Value}

theorem wrongKind_of_readScalar {c : Char} (h : readScalar (c :: s) = .ok (v, r)) :
    wrongKind (c :: s) = .mismatched := by
  unfold wrongKind
  split
  · rfl
  · rfl
  · rw [h]

theorem word_read {c : Char} {q : List Char} (hs : skipSpaces s = c :: q) (b d : Nat) :
    (Shape.word tag?).read b d s =
      if c = '"' then readString q >>= fun p => settle (tag? p.1) p.2
      else .error (wrongKind (c :: q)) := by
  unfold Shape.word
  dsimp only
  rw [hs]
  split
  · next he => cases he
  · next he =>
    cases he
    rw [if_pos rfl]
    refine congrArg (readString q >>= ·) (funext fun p => ?_)
    obtain ⟨text, r⟩ := p
    dsimp only
    cases tag? text <;> rfl
  · next hq =>
    have hc : c ≠ '"' := by
      rintro rfl
      exact hq q rfl
    rw [if_neg hc]

/-- a tag is read where any value can be read -/
theorem word_of_readValue (h : readValue budget depth s = .ok (v, r)) (b d : Nat) :
    (Shape.word tag?).read b d s = settle (tagOf? tag? v) r := by
  cases reads_of_readValue h with
  | list _ q items hs h => exact word_read hs b d
  | object _ q members hs h => exact word_read hs b d
  | scalar c q hs h =>
    rw [word_read hs]
    by_cases hc : c = '"'
    · subst hc
      obtain ⟨⟨text, r'⟩, ht, he⟩ := bind_eq_ok h
      cases he
      rw [if_pos rfl, ht]
      rfl
    · rw [if_neg hc, wrongKind_of_readScalar h]
      rcases cases_of_readScalar hc h with rfl | ⟨x, rfl⟩ | ⟨x, rfl⟩ <;> rfl

/-- and a tag that is read is a string -/
theorem readValue_of_word {t : τ} (h : (Shape.word tag?).read budget depth s = .ok (t, r))
    (b d : Nat) : ∃ text, readValue b d s = .ok (.string text, r) ∧ tag? text = some t := by
  cases hs : skipSpaces s with
  | nil =>
    have he : (Shape.word tag?).read budget depth s = .error .truncated := by
      unfold Shape.word
      dsimp only
      rw [hs]
    rw [he] at h
    cases h
  | cons c q =>
    rw [word_read hs] at h
    split at h
    · next hc =>
      subst hc
      obtain ⟨⟨text, r'⟩, hq, he⟩ := bind_eq_ok h
      dsimp only at he
      cases ht : tag? text with
      | none => rw [ht] at he; cases he
      | some t' =>
        rw [ht] at he
        cases he
        refine ⟨text, ?_, ht⟩
        rw [readValue_scalar hs (by decide) (by decide)]
        show readString q >>= _ = _
        rw [hq]
        rfl
    · cases h

/-- with a tag in view, members are read as they would be without -/
theorem readTaggedMembers_of_readMembers (tag? : String → Option τ) {first : Bool}
    (tag : Option τ) (done : List (String × Value)) {acc ms : List (String × Value)}
    (h : readMembers (readValue budget depth) fuel first acc s = .ok (ms, r)) :
    ∃ new, ms = acc.reverse ++ new ∧
      readTaggedMembers tag? budget depth fuel first tag done s =
        settle (collect tag? tag done new) r := by
  have untagged : ¬ (none : Option τ).isSome = true := Bool.false_ne_true
  induction fuel generalizing first tag done acc s with
  | zero => cases h
  | succ fuel ih =>
    rw [readMembers] at h
    obtain ⟨next, hn, h⟩ := bind_eq_ok h
    cases next with
    | done q =>
      obtain ⟨rfl, rfl⟩ := Prod.mk.inj (Except.ok.inj h)
      refine ⟨[], (List.append_nil _).symm, ?_⟩
      rw [readTaggedMembers, hn]
      cases tag <;> rfl
    | more q =>
      obtain ⟨⟨name, q1⟩, hname, h1⟩ := bind_eq_ok h
      obtain ⟨q2, hcolon, h2⟩ := bind_eq_ok h1
      obtain ⟨⟨v, q3⟩, hv, h3⟩ := bind_eq_ok h2
      replace h3 : readMembers (readValue budget depth) fuel false ((name, v) :: acc) q3 =
        .ok (ms, r) := h3
      rw [readTaggedMembers, hn]
      show ∃ new, _ ∧ (readString q >>= _) = _
      rw [hname]
      show ∃ new, _ ∧ (if name == tagName then _ else _ : Except Fault _) = _
      by_cases hm : isTag (name, v) = true
      · rw [if_pos (show (name == tagName) = true from hm)]
        cases tag with
        | some t =>
          obtain ⟨new, he, -⟩ := ih (some t) done h3
          refine ⟨(name, v) :: new, by rw [he]; simp, ?_⟩
          rw [collect, if_pos hm]
          rfl
        | none =>
          rw [if_neg untagged, hcolon]
          show ∃ new, _ ∧ ((Shape.word tag?).read budget depth q2 >>= _) = _
          rw [word_of_readValue hv]
          cases ht : tagOf? tag? v with
          | none =>
            obtain ⟨new, he, -⟩ := ih none done h3
            refine ⟨(name, v) :: new, by rw [he]; simp, ?_⟩
            rw [collect, if_pos hm, if_neg untagged, ht]
            rfl
          | some t =>
            obtain ⟨new, he, hr⟩ := ih (some t) done h3
            refine ⟨(name, v) :: new, by rw [he]; simp, ?_⟩
            rw [collect, if_pos hm, if_neg untagged, ht]
            exact hr
      · rw [if_neg (show ¬ (name == tagName) = true from hm), hcolon]
        show ∃ new, _ ∧ (readValue budget depth q2 >>= _) = _
        rw [hv]
        obtain ⟨new, he, hr⟩ := ih tag ((name, v) :: done) h3
        refine ⟨(name, v) :: new, by rw [he]; simp, ?_⟩
        rw [collect, if_neg hm]
        exact hr

/-- the other way round: with a tag read, the members can be read -/
theorem readMembers_of_readTaggedMembers {first : Bool} {tag : Option τ}
    {done : List (String × Value)} (acc : List (String × Value)) {p : τ × Value}
    (h : readTaggedMembers tag? budget depth fuel first tag done s = .ok (p, r)) :
    ∃ ms, readMembers (readValue budget depth) fuel first acc s = .ok (ms, r) := by
  induction fuel generalizing first tag done acc s with
  | zero => cases h
  | succ fuel ih =>
    rw [readTaggedMembers] at h
    obtain ⟨next, hn, h⟩ := bind_eq_ok h
    cases next with
    | done q =>
      obtain ⟨t, -, he⟩ := bind_eq_ok h
      cases he
      exact ⟨acc.reverse, by rw [readMembers, hn]; rfl⟩
    | more q =>
      obtain ⟨⟨name, q1⟩, hname, h1⟩ := bind_eq_ok h
      have hv : ∃ q2 v q3 tag' done', readColon q1 = .ok q2 ∧
          readValue budget depth q2 = .ok (v, q3) ∧
          readTaggedMembers tag? budget depth fuel false tag' done' q3 = .ok (p, r) := by
        dsimp only at h1
        split at h1
        · split at h1
          · cases h1
          · obtain ⟨q2, hcolon, h2⟩ := bind_eq_ok h1
            obtain ⟨⟨t, q3⟩, ht, h3⟩ := bind_eq_ok h2
            obtain ⟨text, hv, -⟩ := readValue_of_word ht budget depth
            exact ⟨q2, _, q3, _, _, hcolon, hv, h3⟩
        · obtain ⟨q2, hcolon, h2⟩ := bind_eq_ok h1
          obtain ⟨⟨v, q3⟩, hv, h3⟩ := bind_eq_ok h2
          exact ⟨q2, v, q3, _, _, hcolon, hv, h3⟩
      obtain ⟨q2, v, q3, tag', done', hcolon, hv, h3⟩ := hv
      obtain ⟨ms, hms⟩ := ih ((name, v) :: acc) h3
      refine ⟨ms, ?_⟩
      rw [readMembers, hn]
      show readString q >>= _ = _
      rw [hname]
      show readColon q1 >>= _ = _
      rw [hcolon]
      show readValue budget depth q2 >>= _ = _
      rw [hv]
      exact hms

/-- more fuel, and other items in front, change nothing -/
theorem readItems_lift {item : Reader Value} {first : Bool} {acc xs : List Value}
    (h : readItems item fuel first acc s = .ok (xs, r)) :
    ∃ new, xs = acc.reverse ++ new ∧ ∀ fuel', fuel ≤ fuel' → ∀ acc' : List Value,
      readItems item fuel' first acc' s = .ok (acc'.reverse ++ new, r) := by
  induction fuel generalizing first acc s with
  | zero => cases h
  | succ fuel ih =>
    rw [readItems] at h
    obtain ⟨next, hn, h⟩ := bind_eq_ok h
    cases next with
    | done q =>
      obtain ⟨rfl, rfl⟩ := Prod.mk.inj (Except.ok.inj h)
      refine ⟨[], (List.append_nil _).symm, fun fuel' hf acc' => ?_⟩
      obtain ⟨k, rfl⟩ : ∃ k, fuel' = k + 1 := ⟨fuel' - 1, by omega⟩
      rw [readItems, hn, List.append_nil]
      rfl
    | more q =>
      obtain ⟨⟨v, q'⟩, hv, h1⟩ := bind_eq_ok h
      replace h1 : readItems item fuel false (v :: acc) q' = .ok (xs, r) := h1
      obtain ⟨new, rfl, hl⟩ := ih h1
      refine ⟨v :: new, by simp, fun fuel' hf acc' => ?_⟩
      obtain ⟨k, rfl⟩ : ∃ k, fuel' = k + 1 := ⟨fuel' - 1, by omega⟩
      rw [readItems, hn]
      show item q >>= _ = _
      rw [hv]
      show readItems item k false (v :: acc') q' = _
      rw [hl k (by omega)]
      simp

theorem readTagged_list {q : List Char} (hs : skipSpaces s = '[' :: q) :
    readTagged tag? budget (depth + 1) s = (do
      match ← nextItem true q with
      | .done _ => .error .mismatched
      | .more r =>
        let (t, r) ← (Shape.word tag?).read budget depth r
        let (items, r) ← readItems (readValue budget depth) budget false [] r
        pure ((t, .array items), r)) := by
  unfold readTagged
  rw [hs]
  rfl

theorem readTagged_object {q : List Char} (hs : skipSpaces s = '{' :: q) :
    readTagged tag? budget (depth + 1) s =
      readTaggedMembers tag? budget depth budget true none [] q := by
  unfold readTagged
  rw [hs]
  rfl

theorem readTagged_scalar {c : Char} {q : List Char} (hs : skipSpaces s = c :: q) (hl : c ≠ '[')
    (ho : c ≠ '{') : readTagged tag? budget depth s = .error (wrongKind (c :: q)) := by
  unfold readTagged
  rw [hs]
  split
  · next he => cases he
  · next he => exact absurd (List.cons.inj he).1 hl
  · next he => exact absurd (List.cons.inj he).1 ho
  · next he => exact absurd (List.cons.inj he).1 hl
  · next he => exact absurd (List.cons.inj he).1 ho
  · rfl

theorem tagged?_array (v : Value) (items : List Value) :
    tagged? tag? (.array (v :: items)) = (tagOf? tag? v).map (·, .array items) := by
  cases v <;> rfl

/-- where a value can be read, its tag and content are read, and a wrong shape is all that can be
found fault with -/
theorem readTagged_of_readValue (tag? : String → Option τ) (hv : readValue budget depth s = .ok (v, r)) :
    readTagged tag? budget depth s = settle (tagged? tag? v) r := by
  cases reads_of_readValue hv with
  | list depth q items hs h =>
    rw [readTagged_list hs]
    cases budget with
    | zero => cases h
    | succ budget =>
      rw [readItems] at h
      obtain ⟨next, hn, h⟩ := bind_eq_ok h
      rw [hn]
      cases next with
      | done q' => cases h; rfl
      | more q' =>
        obtain ⟨⟨v, q2⟩, hw, h⟩ := bind_eq_ok h
        replace h : readItems (readValue (budget + 1) depth) budget false [v] q2 = .ok (items, r) := h
        obtain ⟨new, rfl, hl⟩ := readItems_lift h
        show ((Shape.word tag?).read (budget + 1) depth q' >>= _) =
          settle (tagged? tag? (.array (v :: new))) r
        rw [word_of_readValue hw, tagged?_array]
        cases tagOf? tag? v with
        | none => rfl
        | some t =>
          show (readItems (readValue (budget + 1) depth) (budget + 1) false [] q2 >>= _) = _
          rw [hl _ (Nat.le_succ budget) []]
          rfl
  | object depth q members hs h =>
    obtain ⟨new, rfl, hr⟩ := readTaggedMembers_of_readMembers tag? none [] h
    rw [readTagged_object hs, hr, ← tagged?_object]
  | scalar c q hs h =>
    have hl : c ≠ '[' := by rintro rfl; cases h
    have ho : c ≠ '{' := by rintro rfl; cases h
    have ht : tagged? tag? v = none := by
      by_cases hc : c = '"'
      · subst hc
        obtain ⟨⟨text, r'⟩, -, he⟩ := bind_eq_ok h
        cases he
        rfl
      · rcases cases_of_readScalar hc h with rfl | ⟨x, rfl⟩ | ⟨x, rfl⟩ <;> rfl
    rw [readTagged_scalar hs hl ho, wrongKind_of_readScalar h, ht]
    rfl

/-- a list whose first item is a tag is a list of values -/
theorem readValue_of_readTagged_list {q : List Char} {p : τ × Value}
    (hb : (tokens s).length ≤ budget) (hs : skipSpaces s = '[' :: q)
    (h : readTagged tag? budget (depth + 1) s = .ok (p, r)) :
    ∃ v, readValue budget (depth + 1) s = .ok (v, r) := by
  rw [readTagged_list hs] at h
  obtain ⟨next, hn, h1⟩ := bind_eq_ok h
  cases next with
  | done q' => cases h1
  | more q' =>
    obtain ⟨⟨t, q2⟩, ht, h2⟩ := bind_eq_ok h1
    obtain ⟨⟨items, r'⟩, hi, he⟩ := bind_eq_ok h2
    cases he
    obtain ⟨text, hv, -⟩ := readValue_of_word ht budget depth
    have hc := clean_of_readItems hi
    obtain ⟨ts, hts, hsp⟩ := spells_of_readValue hv hc
    obtain ⟨t', ts', rfl, -⟩ := hsp.head
    have hsound : Sound (readValue budget depth) depth := spells_of_readValue
    obtain ⟨parts, hp, -, hq2⟩ := readItems_sound hsound hi
    have hl : (tokens q2).length + 2 ≤ budget := by
      rw [tokens_of_skipSpaces rfl hs, of_nextItem_more hn, hts] at hb
      simp [comma] at hb
      omega
    obtain ⟨k, rfl⟩ : ∃ k, budget = k + 1 := ⟨budget - 1, by omega⟩
    -- the list as a whole has one item more to read with the same budget
    have hcomplete : ∀ p ∈ parts, Complete (readValue (k + 1) depth) (k + 1) p.1 p.2 :=
      fun p hm => readValue_of_spells (hp p hm)
    have hk : (tokens q2).length ≤ k := by omega
    obtain ⟨r', hr', -⟩ :=
      readItems_complete [.string text] hcomplete hp hq2 (Nat.le_succ_of_le hk) hk
    obtain ⟨new, -, hlift⟩ := readItems_lift hr'
    have hi' := hlift (k + 1) (Nat.le_succ k) []
    rw [hi] at hi'
    obtain ⟨-, rfl⟩ := Prod.mk.inj (Except.ok.inj hi')
    refine ⟨.array ([Value.string text].reverse ++ parts.map Prod.snd), ?_⟩
    rw [readValue_list hs, readItems, hn]
    show ((readValue (k + 1) depth q' >>= fun p =>
      readItems (readValue (k + 1) depth) k false [p.1] p.2) >>= _) = _
    rw [hv]
    show (readItems (readValue (k + 1) depth) k false [.string text] q2 >>= _) = _
    rw [hr']
    rfl

/-- the other way round: where tag and content can be read, so can the value -/
theorem readValue_of_readTagged {p : τ × Value} (hb : (tokens s).length ≤ budget)
    (h : readTagged tag? budget depth s = .ok (p, r)) :
    ∃ v, readValue budget depth s = .ok (v, r) := by
  cases hs : skipSpaces s with
  | nil => simp [readTagged, hs] at h
  | cons c q =>
    by_cases hl : c = '['
    · subst hl
      cases depth with
      | zero => simp [readTagged, hs] at h
      | succ depth => exact readValue_of_readTagged_list hb hs h
    by_cases ho : c = '{'
    · subst ho
      cases depth with
      | zero => simp [readTagged, hs] at h
      | succ depth =>
        rw [readTagged_object hs] at h
        obtain ⟨ms, hms⟩ := readMembers_of_readTaggedMembers [] h
        exact ⟨.object ms, by rw [readValue_object hs, hms]; rfl⟩
    rw [readTagged_scalar hs hl ho] at h
    cases h

end

end

/-! ## whole texts -/

section
variable {τ α : Type} {tag? : String → Option τ} {content? : τ → Value → Option α}

/-- tag and content in one pass, and then what they stand for -/
def readContent (tag? : String → Option τ) (content? : τ → Value → Option α)
    (budget depth : Nat) : Reader α := fun s => do
  let ((tag, content), r) ← readTagged tag? budget depth s
  let x ← expect (content? tag content)
  pure (x, r)

def ofTagged? (tag? : String → Option τ) (content? : τ → Value → Option α) (v : Value) : Option α :=
  (tagged? tag? v).bind fun (tag, content) => content? tag content

theorem complete_eq_ok {β : Type} {reader : Nat → Nat → Reader β} {s : List Char} {x : β}
    (h : complete reader s = .ok x) :
    ∃ r, reader s.length maxDepth s = .ok (x, r) ∧ (skipSpaces r).isEmpty = true := by
  obtain ⟨⟨y, r⟩, hr, he⟩ := bind_eq_ok h
  dsimp only at he
  split at he
  · next hb =>
    obtain rfl := Except.ok.inj he
    exact ⟨r, hr, hb⟩
  · cases he

theorem complete_of_reader {β : Type} {reader : Nat → Nat → Reader β} {s r : List Char} {x : β}
    (h : reader s.length maxDepth s = .ok (x, r)) (hb : (skipSpaces r).isEmpty = true) :
    complete reader s = .ok x := by
  unfold complete
  rw [h]
  exact if_pos hb

/-- **One pass or two.** A text that reads as a value is taken by the reader with the tag in view
exactly if the value is what it looks for, and gives the fault of a wrong shape else. -/
theorem complete_readContent {s : List Char} {v : Value} (h : parse s = .ok v) :
    complete (readContent tag? content?) s = expect (ofTagged? tag? content? v) := by
  obtain ⟨r, hr, hb⟩ := complete_eq_ok h
  have ht := readTagged_of_readValue tag? hr
  unfold complete readContent ofTagged?
  rw [ht]
  cases tagged? tag? v with
  | none => rfl
  | some p =>
    show ((do let x ← expect (content? p.1 p.2); pure (x, r)) >>= _) = expect (content? p.1 p.2)
    cases content? p.1 p.2 with
    | none => rfl
    | some x => exact if_pos hb

/-- the reader with the tag in view takes no other texts -/
theorem parse_of_complete_readContent {s : List Char} {x : α}
    (h : complete (readContent tag? content?) s = .ok x) : ∃ v, parse s = .ok v := by
  obtain ⟨r, hr, hb⟩ := complete_eq_ok h
  obtain ⟨⟨p, r'⟩, ht, he⟩ := bind_eq_ok hr
  obtain ⟨y, -, he⟩ := bind_eq_ok he
  cases he
  obtain ⟨v, hv⟩ := readValue_of_readTagged (length_tokens_le s) ht
  exact ⟨v, complete_of_reader hv hb⟩

end

end ServerConsole.Json
