import ServerConsole.Proofs.Json.Tokens

/-!
# Strings read and written

* `Passes`           a part of a body that leaves the string open;
* `readString_reads` a string that can be read is a body and a quote, and reads alike wherever it
                     stands;
* `readString_quote` a written string reads back as itself;
* `tokens_quote`     and is one token.
-/

namespace ServerConsole.Text

theorem hexNumber?_append_singleton (cs : List Char) (c : Char) :
    hexNumber? (cs ++ [c]) =
      (hexNumber? cs).bind fun n => (hexValue? c).map (16 * n + ·) := by
  simp [hexNumber?]

/-- written with `k` digits, a number below the `k`-th power of 16 reads back -/
theorem hexNumber?_hexDigits (k n : Nat) (h : n < Nat.pow 16 k) :
    hexNumber? (hexDigits k n) = some n := by
  induction k generalizing n with
  | zero =>
    obtain rfl : n = 0 := Nat.lt_one_iff.mp h
    rfl
  | succ k ih =>
    have hm : Nat.pow 16 (k + 1) = 16 * Nat.pow 16 k := Nat.pow_succ'
    have hk : n / 16 < Nat.pow 16 k := Nat.div_lt_of_lt_mul (hm ▸ h)
    rw [hexDigits, hexNumber?_append_singleton, ih _ hk, Option.bind_some,
      hexValue_hexDigit _ (Nat.mod_lt _ (by omega)), Option.map_some]
    congr 1
    omega

theorem isHex_of_hexNumber? {cs : List Char} {n : Nat} (h : hexNumber? cs = some n) :
    ∀ c ∈ cs, isHex c = true := by
  -- the number read so far may be any
  have hall : ∀ start : Option Nat,
      cs.foldl (fun acc c => acc.bind fun n => (hexValue? c).map (16 * n + ·)) start = some n →
        start.isSome = true ∧ ∀ c ∈ cs, isHex c = true := by
    clear h
    induction cs with
    | nil => intro start h; exact ⟨by rw [show start = some n from h]; rfl, nofun⟩
    | cons c cs ih =>
      intro start h
      obtain ⟨hs, hc⟩ := ih _ h
      cases start with
      | none => cases hs
      | some m =>
        have hx : (hexValue? c).isSome = true := by simpa using hs
        refine ⟨rfl, fun d hd => ?_⟩
        rcases List.mem_cons.mp hd with rfl | hd
        · exact hx
        · exact hc d hd
  exact (hall _ h).2

end ServerConsole.Text

namespace ServerConsole.Json

open Text

/-! ## parts of a body -/

/-- the closing quote is looked for behind this part -/
def Passes (a : List Char) : Prop :=
  ∀ s, cutString? (a ++ s) = (cutString? s).map fun (body, r) => (a ++ body, r)

theorem passes_nil : Passes [] := fun s => by simp

theorem passes_char {c : Char} (hq : c ≠ '"') (hb : c ≠ '\\') : Passes [c] :=
  fun s => cutString?_cons hq hb s

theorem passes_escape (e : Char) : Passes ['\\', e] := fun s => cutString?_escape e s

theorem Passes.append {a b : List Char} (ha : Passes a) (hb : Passes b) : Passes (a ++ b) := by
  intro s
  rw [List.append_assoc, ha, hb, Option.map_map]
  refine congrArg (Option.map · (cutString? s)) (funext fun p => ?_)
  simp

theorem Passes.cutString? {a : List Char} (h : Passes a) (q : List Char) :
    cutString? (a ++ '"' :: q) = some (a, q) := by
  rw [h, cutString?_quote]
  simp

theorem passes_of_isHex {cs : List Char} (h : ∀ c ∈ cs, isHex c = true) : Passes cs := by
  induction cs with
  | nil => exact passes_nil
  | cons c cs ih =>
    have hc := h c (List.mem_cons_self ..)
    have hq : c ≠ '"' := by rintro rfl; exact absurd hc (by decide)
    have hb : c ≠ '\\' := by rintro rfl; exact absurd hc (by decide)
    exact (passes_char hq hb).append (ih fun d hd => h d (List.mem_cons_of_mem c hd))

/-! ## escapes -/

theorem readHex4_append {cs : List Char} {n : Nat} (hl : cs.length = 4)
    (h : hexNumber? cs = some n) (q : List Char) : readHex4 (cs ++ q) = .ok (n, q) := by
  match cs, hl with
  | [a, b, c, d], _ =>
    show readHex4 (a :: b :: c :: d :: q) = _
    rw [readHex4, h]

theorem readHex4_reads {s r : List Char} {n : Nat} (h : readHex4 s = .ok (n, r)) :
    ∃ cs, s = cs ++ r ∧ Passes cs ∧ ∀ q, readHex4 (cs ++ q) = .ok (n, q) := by
  match s, h with
  | a :: b :: c :: d :: rest, h =>
    rw [readHex4] at h
    split at h
    · next hn =>
      cases h
      exact ⟨[a, b, c, d], rfl, passes_of_isHex (isHex_of_hexNumber? hn), readHex4_append rfl hn⟩
    · cases h
  | [], h => cases h
  | [_], h => simp [readHex4] at h
  | [_, _], h => simp [readHex4] at h
  | [_, _, _], h => simp [readHex4] at h

theorem readLowHalf_unicode {high low : Nat} {s r : List Char} (h : readHex4 s = .ok (low, r)) :
    readLowHalf high ('\\' :: 'u' :: s) =
      if 0xdc00 ≤ low ∧ low ≤ 0xdfff then
        .ok (Char.ofNat ((high - 0xd800) * 1024 + (low - 0xdc00) + 0x10000), r)
      else .error .malformed := by
  simp only [readLowHalf, h]

theorem readEscape_unicode {n : Nat} {s r : List Char} (h : readHex4 s = .ok (n, r)) :
    readEscape ('u' :: s) =
      if 0xdc00 ≤ n ∧ n ≤ 0xdfff then .error .malformed
      else if 0xd800 ≤ n ∧ n ≤ 0xdbff then readLowHalf n r
      else .ok (Char.ofNat n, r) := by
  simp only [readEscape, h]

theorem readLowHalf_reads {high : Nat} {s r : List Char} {c : Char}
    (h : readLowHalf high s = .ok (c, r)) :
    ∃ a, s = a ++ r ∧ Passes a ∧ ∀ q, readLowHalf high (a ++ q) = .ok (c, q) := by
  unfold readLowHalf at h
  split at h
  · cases h
  · cases h
  · next s =>
    cases hx : readHex4 s with
    | error f => rw [hx] at h; cases h
    | ok p =>
      obtain ⟨low, rest⟩ := p
      rw [hx] at h
      obtain ⟨cs, rfl, hp, hr⟩ := readHex4_reads hx
      dsimp only at h
      split at h
      · next hl =>
        obtain ⟨rfl, rfl⟩ := Prod.mk.inj (Except.ok.inj h)
        refine ⟨'\\' :: 'u' :: cs, rfl, (passes_escape 'u').append hp, fun q => ?_⟩
        rw [List.cons_append, List.cons_append, readLowHalf_unicode (hr q), if_pos hl]
      · cases h
  · cases h

theorem readEscape_reads {s r : List Char} {c : Char} (h : readEscape s = .ok (c, r)) :
    ∃ a, s = a ++ r ∧ Passes ('\\' :: a) ∧ ∀ q, readEscape (a ++ q) = .ok (c, q) := by
  unfold readEscape at h
  split at h
  case h_10 s =>
    cases hx : readHex4 s with
    | error f => rw [hx] at h; cases h
    | ok p =>
      obtain ⟨n, rest⟩ := p
      rw [hx] at h
      obtain ⟨cs, rfl, hp, hr⟩ := readHex4_reads hx
      have hu : Passes ('\\' :: 'u' :: cs) := (passes_escape 'u').append hp
      dsimp only at h
      split at h
      · cases h
      · next hl =>
        split at h
        · next hh =>
          obtain ⟨b, rfl, hb, hrb⟩ := readLowHalf_reads h
          refine ⟨'u' :: (cs ++ b), by simp, hu.append hb, fun q => ?_⟩
          rw [List.cons_append, List.append_assoc, readEscape_unicode (hr _), if_neg hl, if_pos hh,
            hrb]
        · next hh =>
          obtain ⟨rfl, rfl⟩ := Prod.mk.inj (Except.ok.inj h)
          refine ⟨'u' :: cs, rfl, hu, fun q => ?_⟩
          rw [List.cons_append, readEscape_unicode (hr q), if_neg hl, if_neg hh]
  case h_1 => cases h
  case h_11 => cases h
  all_goals
    cases h
    exact ⟨[_], rfl, passes_escape _, fun q => rfl⟩

/-! ## bodies -/

section
variable {c e : Char} {done s r : List Char} {text : String}

theorem readBody_quote : readBody done ('"' :: s) = .ok (String.ofList done.reverse, s) := by
  rw [readBody, if_pos rfl]

theorem readBody_escape (h : readEscape s = .ok (e, r)) :
    readBody done ('\\' :: s) = readBody (e :: done) r := by
  rw [readBody, if_neg (by decide), if_pos rfl]
  split
  · next h' => cases h'.symm.trans h
  · next h' => cases h'.symm.trans h; rfl

theorem readBody_char (hq : c ≠ '"') (hb : c ≠ '\\') (hc : ¬ c.val < 0x20) :
    readBody done (c :: s) = readBody (c :: done) s := by
  rw [readBody, if_neg hq, if_neg hb, if_neg hc]

/-- a body that can be read, its closing quote, and whatever follows -/
theorem readBody_reads (h : readBody done s = .ok (text, r)) :
    ∃ body, s = body ++ '"' :: r ∧ Passes body ∧
      ∀ q, readBody done (body ++ '"' :: q) = .ok (text, q) := by
  fun_induction readBody done s with
  | case1 => cases h
  | case2 done r => cases h; exact ⟨[], rfl, passes_nil, fun q => readBody_quote⟩
  | case3 => cases h
  | case4 done s e s' he hl hq ih =>
    obtain ⟨a, rfl, ha, hr⟩ := readEscape_reads he
    obtain ⟨body, rfl, hb, hbr⟩ := ih h
    refine ⟨'\\' :: (a ++ body), by simp, ha.append hb, fun q => ?_⟩
    rw [List.cons_append, List.append_assoc, readBody_escape (hr _), hbr]
  | case5 => cases h
  | case6 done c s hq hb hc ih =>
    obtain ⟨body, rfl, hp, hbr⟩ := ih h
    refine ⟨c :: body, rfl, (passes_char hq hb).append hp, fun q => ?_⟩
    rw [List.cons_append, readBody_char hq hb hc, hbr]

theorem readString_reads (h : readString s = .ok (text, r)) :
    ∃ body, s = body ++ '"' :: r ∧ Passes body ∧
      ∀ q, readString (body ++ '"' :: q) = .ok (text, q) :=
  readBody_reads h

/-- what is read of a body alone is read of it anywhere -/
theorem readString_append {body : List Char} (h : readString (body ++ ['"']) = .ok (text, []))
    (q : List Char) : Passes body ∧ readString (body ++ '"' :: q) = .ok (text, q) := by
  obtain ⟨body', he, hp, hr⟩ := readString_reads h
  obtain rfl : body = body' := List.append_cancel_right he
  exact ⟨hp, hr q⟩

/-! ## written strings -/

theorem readEscape_hexDigits {c : Char} (hc : c.val < 0x20) (s : List Char) :
    readEscape ('u' :: hexDigits 4 c.toNat ++ s) = .ok (c, s) := by
  have hn : c.toNat < 32 := UInt32.lt_iff_toNat_lt.mp hc
  have hp : Nat.pow 16 4 = 65536 := rfl
  have hx : readHex4 (hexDigits 4 c.toNat ++ s) = .ok (c.toNat, s) :=
    readHex4_append (length_hexDigits 4 _) (hexNumber?_hexDigits 4 _ (by omega)) s
  rw [List.cons_append, readEscape_unicode hx, if_neg (by omega), if_neg (by omega),
    Char.ofNat_toNat]

/-- the written form of a character reads as this character -/
theorem readBody_escapeChar (c : Char) (done s : List Char) :
    readBody done (escapeChar c ++ s) = readBody (c :: done) s := by
  unfold escapeChar
  split
  · next h => rw [h]; exact readBody_escape rfl
  next hq =>
  split
  · next h => rw [h]; exact readBody_escape rfl
  next hb =>
  split
  · next h => rw [h]; exact readBody_escape rfl
  split
  · next h => rw [h]; exact readBody_escape rfl
  split
  · next h => rw [h]; exact readBody_escape rfl
  split
  · next h => rw [h]; exact readBody_escape rfl
  split
  · next h => rw [h]; exact readBody_escape rfl
  split
  · next hc => exact readBody_escape (readEscape_hexDigits hc s)
  · next hc => exact readBody_char hq hb hc

theorem readBody_escaped (cs done s : List Char) :
    readBody done (escaped cs ++ '"' :: s) = .ok (String.ofList (done.reverse ++ cs), s) := by
  induction cs generalizing done with
  | nil => rw [escaped_nil, List.nil_append, readBody_quote, List.append_nil]
  | cons c cs ih =>
    rw [escaped_cons, List.append_assoc, readBody_escapeChar, ih, List.reverse_cons,
      List.append_assoc, List.singleton_append]

theorem readString_escaped (text : String) (s : List Char) :
    readString (escaped text.toList ++ '"' :: s) = .ok (text, s) := by
  rw [readString, readBody_escaped, List.reverse_nil, List.nil_append, String.ofList_toList]

theorem passes_escaped (text : String) : Passes (escaped text.toList) :=
  (readString_append (readString_escaped text []) []).1

theorem tokens_quote (text : String) (s : List Char) :
    tokens (quote text ++ s) = .quoted (escaped text.toList) :: tokens s := by
  show tokens ('"' :: (escaped text.toList ++ ['"'] ++ s)) = _
  rw [List.append_assoc]
  exact tokens_quoted ((passes_escaped text).cutString? s)

end

end ServerConsole.Json
