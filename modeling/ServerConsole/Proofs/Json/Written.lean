import ServerConsole.Json.Writer
import ServerConsole.Proofs.Json.Grammar

/-!
# Objects put together from members

* `Holds`, `Lists`     a text is an object of these members, however it is spaced, and what is read of them;
* `lists_of_parse`     each text that reads as an object is one;
* `Part`               a member as it stands in the text of an object;
* `objectText`         an object from its members, spaces around it;
* `parse_writeObject`  a written object reads as the object of its members;
* `spells_quote`, `spells_writeBool`, `spells_writeNatural`  what written values spell.
-/

namespace ServerConsole.Json

open Text

/-! ## texts of objects -/

/-- the text is an object with these members in this order, with spaces wherever they may stand -/
structure Holds (s : List Char) (gs : List Given) : Prop where
  tokens_eq : tokens s = .mark '{' :: (separated true (gs.map Given.tokens) ++ [.mark '}'])
  isNamed : ∀ g ∈ gs, g.IsNamed

/-- the text is an object with these members in this order, and these are read of it -/
structure Lists (s : List Char) (es : List Entry) : Prop extends Holds s (es.map Entry.toGiven) where
  spells : ∀ e ∈ es, Spells (maxDepth - 1) e.spelling e.value

theorem Lists.parse {s : List Char} {es : List Entry} (h : Lists s es) :
    parse s = .ok (.object (es.map Entry.member)) := by
  rw [parse_eq_ok_iff, h.tokens_eq, List.map_map]
  exact .object es (List.forall_mem_map.mp h.isNamed) h.spells

theorem lists_of_parse {s : List Char} {ms : List (String × Value)}
    (h : parse s = .ok (.object ms)) : ∃ es, Lists s es ∧ es.map Entry.member = ms := by
  rw [parse_eq_ok_iff] at h
  generalize ht : tokens s = ts at h
  generalize hd : maxDepth = depth at h
  cases h with
  | plain h => exact absurd h (readScalar_ne_object _ _ _)
  | object es hn h =>
    obtain rfl : _ = _ := Nat.eq_sub_of_add_eq hd.symm
    have ht' : tokens s =
        .mark '{' :: (separated true ((es.map Entry.toGiven).map Given.tokens) ++ [.mark '}']) := by
      rw [ht, List.map_map]
      rfl
    exact ⟨es, ⟨⟨ht', List.forall_mem_map.mpr hn⟩, h⟩, rfl⟩

/-- parts with commas between them -/
theorem tokens_joined {ps : List (List Char)} (h : ∀ p ∈ ps, Closed (tokens p)) :
    tokens (joined ps) = separated true (ps.map tokens) := by
  induction ps with
  | nil =>
    rw [joined_nil, tokens_nil]
    rfl
  | cons p ps ih =>
    have hp := h p (List.mem_cons_self ..)
    have ih := ih fun q hq => h q (List.mem_cons_of_mem p hq)
    cases ps with
    | nil =>
      rw [joined_singleton]
      exact (List.append_nil _).symm
    | cons q ps =>
      rw [joined_cons_cons, tokens_append hp (clean_cons rfl), tokens_mark rfl, ih]
      rfl

theorem tokens_object {ps : List (List Char)} (h : ∀ p ∈ ps, Closed (tokens p)) (after : List Char) :
    tokens ('{' :: (joined ps ++ '}' :: after)) =
      .mark '{' :: (separated true (ps.map tokens) ++ .mark '}' :: tokens after) := by
  have hj := tokens_joined h
  have hc : Closed (tokens (joined ps)) := by
    rw [hj]
    refine closed_separated fun q hq => ?_
    obtain ⟨p, hp, rfl⟩ := List.mem_map.mp hq
    exact h p hp
  rw [tokens_mark rfl, tokens_append hc (clean_cons rfl), tokens_mark rfl, hj]

/-! ## members -/

theorem tokens_writeMember (m : Member) :
    tokens (writeMember m) = .quoted (escaped m.1.toList) :: .mark ':' :: tokens m.2 := by
  rw [writeMember, tokens_quote, tokens_mark rfl]

/-- a member as it is written -/
def Given.ofMember (m : Member) : Given := ⟨escaped m.1.toList, m.1, Json.tokens m.2⟩

theorem Given.isNamed_ofMember (m : Member) : (ofMember m).IsNamed := readString_escaped m.1 []

theorem closed_writeMember {m : Member} (h : Closed (tokens m.2)) : Closed (tokens (writeMember m)) := by
  rw [tokens_writeMember]
  exact Closed.append (a := [.quoted (escaped m.1.toList), .mark ':']) (by simp [Closed]) h

/-- the text of a member, spaces between its tokens included, and what is read of it -/
structure Part where
  text : List Char
  entry : Entry
  tokens_text : tokens text = entry.tokens
  isNamed : entry.IsNamed
  spells : Spells (maxDepth - 1) entry.spelling entry.value

namespace Part

def name (p : Part) : String := p.entry.name

def member (p : Part) : String × Value := p.entry.member

theorem closed (p : Part) : Closed (tokens p.text) := by
  rw [p.tokens_text]
  exact Closed.append (a := [.quoted p.entry.label, .mark ':']) (by simp [Closed]) p.spells.closed

/-- a written member -/
def ofWritten (name : String) (written : List Char) (v : Value)
    (h : Spells (maxDepth - 1) (tokens written) v) : Part where
  text := writeMember (name, written)
  entry := ⟨.ofMember (name, written), v⟩
  tokens_text := tokens_writeMember (name, written)
  isNamed := Given.isNamed_ofMember (name, written)
  spells := h

end Part

/-! ## objects -/

def Spaces (s : List Char) : Prop := ∀ c ∈ s, isSpace c = true

theorem spaces_nil : Spaces [] := nofun

def objectText (before : List Char) (parts : List Part) (after : List Char) : List Char :=
  before ++ '{' :: (joined (parts.map Part.text) ++ '}' :: after)

section
variable {before after : List Char}

theorem tokens_objectText (hb : Spaces before) (ha : Spaces after) (parts : List Part) :
    tokens (objectText before parts after) =
      .mark '{' :: (separated true (parts.map (·.entry.tokens)) ++ [.mark '}']) := by
  have hc : ∀ text ∈ parts.map Part.text, Closed (tokens text) :=
    List.forall_mem_map.mpr fun p _ => p.closed
  have hm : (parts.map Part.text).map tokens = parts.map (·.entry.tokens) := by
    rw [List.map_map]
    exact List.map_congr_left fun p _ => p.tokens_text
  have he : tokens after = [] := by
    rw [← List.append_nil after, tokens_spaces ha, tokens_nil]
  rw [objectText, tokens_spaces hb, tokens_object hc, hm, he]

theorem lists_objectText (hb : Spaces before) (ha : Spaces after) (parts : List Part) :
    Lists (objectText before parts after) (parts.map Part.entry) where
  tokens_eq := by
    rw [tokens_objectText hb ha, List.map_map, List.map_map]
    rfl
  isNamed := List.forall_mem_map.mpr (List.forall_mem_map.mpr fun p _ => p.isNamed)
  spells := List.forall_mem_map.mpr fun p _ => p.spells

end

/-! ## written objects -/

theorem spells_quote (depth : Nat) (s : String) : Spells depth (tokens (quote s)) (.string s) := by
  have ht := tokens_quote s []
  rw [List.append_nil, tokens_nil] at ht
  rw [ht]
  exact .string (readString_escaped s [])

theorem tokens_run {run : List Char} (hn : run ≠ []) (hp : run.all isPlain = true) :
    tokens run = [.plain run] := by
  cases run with
  | nil => exact absurd rfl hn
  | cons c cs =>
    have h := List.forall_mem_cons.mp (List.all_eq_true.mp hp)
    have ht : (cs ++ []).takeWhile isPlain = cs ++ [] := List.takeWhile_append_of_pos h.2
    have hd : (cs ++ []).dropWhile isPlain = [] := List.dropWhile_append_of_pos h.2
    rw [List.append_nil] at ht hd
    rw [tokens_plain h.1, ht, hd, tokens_nil]

theorem spells_writeBool (depth : Nat) (b : Bool) :
    Spells depth (tokens (writeBool b)) (.bool b) := by
  cases b with
  | false =>
    rw [tokens_run (by decide) rfl]
    exact .plain rfl
  | true =>
    rw [tokens_run (by decide) rfl]
    exact .plain rfl

/-! ## written numbers -/

theorem le_foldl_digits (cs : List Char) (n : Nat) :
    n ≤ cs.foldl (fun acc c => 10 * acc + digitValue c) n := by
  induction cs generalizing n with
  | nil => exact Nat.le_refl n
  | cons c cs ih =>
    have hc := ih (10 * n + digitValue c)
    rw [List.foldl_cons]
    omega

/-- digits of a number that fits are all taken -/
theorem takeSignificand_digits {cs : List Char} (hd : ∀ c ∈ cs, isDigit c = true) {n : Nat} (taken : Nat)
    (hn : cs.foldl (fun acc c => 10 * acc + digitValue c) n < UInt64.size) :
    takeSignificand n taken cs =
      (cs.foldl (fun acc c => 10 * acc + digitValue c) n, taken + cs.length, []) := by
  induction cs generalizing n taken with
  | nil => rfl
  | cons c cs ih =>
    rw [List.forall_mem_cons] at hd
    rw [List.foldl_cons] at hn
    have hm : 10 * n + digitValue c < UInt64.size := Nat.lt_of_le_of_lt (le_foldl_digits cs _) hn
    have hc : (isDigit c && decide (10 * n + digitValue c < UInt64.size)) = true := by
      rw [hd.1, decide_eq_true hm]
      rfl
    rw [takeSignificand, if_pos hc, ih hd.2 (taken + 1) hn, List.foldl_cons, List.length_cons]
    congr 2
    omega

/-- only zero is written with a leading zero -/
theorem digits_ne_zero {n : Nat} (hn : 0 < n) (r : List Char) : digits n ≠ '0' :: r := by
  induction n using digits.induct generalizing r with
  | case1 n h =>
    rw [digits, if_pos h]
    intro he
    have hc : digitValue (digitChar n) = 0 := by rw [(List.cons.inj he).1]; rfl
    rw [digitValue_digitChar] at hc
    omega
  | case2 n h ih =>
    rw [digits, if_neg h]
    cases hd : digits (n / 10) with
    | nil => exact absurd hd (digits_ne_nil _)
    | cons c cs =>
      intro he
      exact ih (by omega) cs (hd.trans (congrArg (· :: cs) (List.cons.inj he).1))

theorem readNumber_digits (n : UInt64) : readNumber true (digits n.toNat) = .ok (.natural n, []) := by
  by_cases hz : n.toNat = 0
  · obtain rfl : n = 0 := UInt64.toNat_inj.mp hz
    have hd : digits (0 : UInt64).toNat = ['0'] := by rw [digits]; rfl
    rw [hd]
    rfl
  · have hd : ∀ c ∈ digits n.toNat, isDigit c = true := List.all_eq_true.mp (all_isDigit_digits _)
    have hs : startsWithDigit (digits n.toNat) = true := by
      cases hc : digits n.toNat with
      | nil => exact absurd hc (digits_ne_nil _)
      | cons c cs => exact hd c (hc ▸ List.mem_cons_self ..)
    have hv : (digits n.toNat).foldl (fun acc c => 10 * acc + digitValue c) 0 = n.toNat :=
      ofDigits_digits _
    have ht := takeSignificand_digits hd 0 (by rw [hv]; exact n.toNat_lt)
    rw [hv] at ht
    unfold readNumber
    split
    · next he => exact absurd he (digits_ne_zero (Nat.pos_of_ne_zero hz) _)
    · rw [if_pos hs, ht]
      show Except.ok (Number.natural n.toNat.toUInt64, []) = _
      rw [show n.toNat.toUInt64 = n from UInt64.ofNat_toNat]

theorem isPlain_of_isDigit {c : Char} (h : isDigit c = true) : isPlain c = true := by
  cases hp : isPlain c with
  | true => rfl
  | false =>
    have hd : startsWithDigit [c] = false := (clean_cons hp).startsWithDigit
    cases h.symm.trans hd

theorem readScalar_digit {c : Char} (hc : isDigit c = true) (s : List Char) :
    readScalar (c :: s) = readNumeral true (c :: s) := by
  have hne : ∀ d, isDigit d = false → ∀ r, c :: s = d :: r → False := by
    intro d hd r he
    rw [(List.cons.inj he).1, hd] at hc
    cases hc
  have hs : startsWithDigit (c :: s) = true := hc
  have hq : c ≠ '"' := by
    rintro rfl
    cases hc
  rw [readScalar_of_ne hq, readPlain, behind_of_ne (hne _ rfl), behind_of_ne (hne _ rfl),
    behind_of_ne (hne _ rfl), behind_of_ne (hne _ rfl), if_pos hs]

theorem spells_writeNatural (depth : Nat) (n : UInt64) :
    Spells depth (tokens (writeNatural n)) (.number (.natural n)) := by
  have hd : ∀ c ∈ digits n.toNat, isDigit c = true := List.all_eq_true.mp (all_isDigit_digits _)
  have ht : tokens (writeNatural n) = [.plain (digits n.toNat)] :=
    tokens_run (digits_ne_nil _) (List.all_eq_true.mpr fun c hc => isPlain_of_isDigit (hd c hc))
  rw [ht]
  refine .plain ?_
  have hr := readNumber_digits n
  cases hc : digits n.toNat with
  | nil => exact absurd hc (digits_ne_nil _)
  | cons c cs =>
    rw [hc] at hd hr
    rw [readScalar_digit (hd c (List.mem_cons_self ..)), readNumeral, hr]
    rfl

theorem parse_writeObject {ms : List Member} (parts : List Part)
    (h : ms.map writeMember = parts.map Part.text) :
    parse (writeObject ms) = .ok (.object (parts.map Part.member)) := by
  have hl : Lists (writeObject ms) (parts.map Part.entry) := by
    rw [writeObject, h]
    exact lists_objectText spaces_nil spaces_nil parts
  rw [hl.parse, List.map_map]
  rfl

end ServerConsole.Json
