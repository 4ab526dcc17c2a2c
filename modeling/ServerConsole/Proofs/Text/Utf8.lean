import ServerConsole.Proofs.Outcome
import ServerConsole.Text.Utf8

/-!
# UTF-8 there and back

* `byteLength_append`, `utf8ByteSize_ofList`  lengths add up, and agree with those of strings;
* `foldl_feed_char`     the bytes of a character, of one to four of them, are read as the character;
* `decodeLossy_encode`  what was encoded is read back;
* `pieces_of_decode?`   well-formed bytes have no other pieces than their characters.
-/

namespace ServerConsole.Text

/-! ## lengths -/

theorem foldl_utf8Size (n : Nat) (cs : List Char) :
    cs.foldl (fun n c => n + c.utf8Size) n = n + byteLength cs := by
  induction cs generalizing n with
  | nil => rfl
  | cons c cs ih =>
    show cs.foldl _ (n + c.utf8Size) = n + cs.foldl _ (0 + c.utf8Size)
    rw [ih, ih]
    omega

theorem byteLength_nil : byteLength [] = 0 := rfl

theorem byteLength_cons (c : Char) (cs : List Char) :
    byteLength (c :: cs) = c.utf8Size + byteLength cs := by
  show cs.foldl _ (0 + c.utf8Size) = _
  rw [foldl_utf8Size, Nat.zero_add]

theorem byteLength_append (a b : List Char) : byteLength (a ++ b) = byteLength a + byteLength b := by
  show (a ++ b).foldl _ 0 = _
  rw [List.foldl_append, foldl_utf8Size]
  rfl

theorem byteLength_eq_zero_iff (cs : List Char) : byteLength cs = 0 ↔ cs = [] := by
  cases cs with
  | nil => simp [byteLength_nil]
  | cons c cs =>
    have hc : 0 < c.utf8Size := c.utf8Size_pos
    rw [byteLength_cons]
    simp only [reduceCtorEq, iff_false]
    omega

theorem utf8ByteSize_ofList (cs : List Char) : (String.ofList cs).utf8ByteSize = byteLength cs := by
  induction cs with
  | nil => rfl
  | cons c cs ih =>
    have hs : String.ofList (c :: cs) = String.singleton c ++ String.ofList cs := by
      rw [String.singleton_eq_ofList, ← String.ofList_append]
      rfl
    rw [hs, String.utf8ByteSize_append, String.utf8ByteSize_singleton, ih, byteLength_cons]

/-! ## round trip -/

/-- one byte, with the output so far, the last piece first -/
def feed (st : List (Option Char) × Option Pending) (b : UInt8) : List (Option Char) × Option Pending :=
  ((feedByte st.2 b).1.reverse ++ st.1, (feedByte st.2 b).2)

theorem pieces_eq (bytes : List UInt8) :
    pieces bytes = (match (bytes.foldl feed ([], none)).2 with
      | some _ => none :: (bytes.foldl feed ([], none)).1
      | none => (bytes.foldl feed ([], none)).1).reverse := rfl

/-- the bytes behind the first one of a character -/
def continuation (n : Nat) : UInt8 := UInt8.ofNat (n % 0x40 + 0x80)

theorem toNat_continuation (n : Nat) : (continuation n).toNat = n % 0x40 + 0x80 := by
  show (n % 0x40 + 0x80) % 256 = _
  omega

theorem leadRange?_ofNat {n : Nat} (hn : n < 0x100) : leadRange? (UInt8.ofNat n) =
    if 0xc2 ≤ n ∧ n ≤ 0xdf then some (0x80, 0xbf, 0)
    else if n = 0xe0 then some (0xa0, 0xbf, 1)
    else if n = 0xed then some (0x80, 0x9f, 1)
    else if 0xe1 ≤ n ∧ n ≤ 0xef then some (0x80, 0xbf, 1)
    else if n = 0xf0 then some (0x90, 0xbf, 2)
    else if 0xf1 ≤ n ∧ n ≤ 0xf3 then some (0x80, 0xbf, 2)
    else if n = 0xf4 then some (0x80, 0x8f, 2)
    else none := by
  have hb : (UInt8.ofNat n).toNat = n := UInt8.toNat_ofNat_of_lt' hn
  unfold leadRange?
  simp only [UInt8.le_iff_toNat_le, beq_iff_eq, ← UInt8.toNat_inj, hb, Bool.and_eq_true,
    decide_eq_true_eq]
  rfl

theorem leadBits_ofNat {n : Nat} (hn : n < 0x100) : leadBits (UInt8.ofNat n) =
    if n < 0xe0 then n - 0xc0 else if n < 0xf0 then n - 0xe0 else n - 0xf0 := by
  have hb : (UInt8.ofNat n).toNat = n := UInt8.toNat_ofNat_of_lt' hn
  unfold leadBits
  simp only [UInt8.lt_iff_toNat_lt, hb]
  rfl

section
variable {out : List (Option Char)} {p : Pending} {n : Nat}

theorem feed_continuation (hl : p.low.toNat ≤ n % 0x40 + 0x80) (hh : n % 0x40 + 0x80 ≤ p.high.toNat) :
    feed (out, some p) (continuation n) =
      match p.more with
      | 0 => (some (Char.ofNat (p.bits * 64 + n % 0x40)) :: out, none)
      | more + 1 => (out, some ⟨p.bits * 64 + n % 0x40, 0x80, 0xbf, more⟩) := by
  have hc : (p.low ≤ continuation n && continuation n ≤ p.high) = true := by
    rw [Bool.and_eq_true, decide_eq_true_eq, decide_eq_true_eq, UInt8.le_iff_toNat_le,
      UInt8.le_iff_toNat_le, toNat_continuation]
    exact ⟨hl, hh⟩
  obtain ⟨bits, low, high, more⟩ := p
  unfold feed feedByte
  simp only [hc, if_true, toNat_continuation, Nat.add_sub_cancel]
  cases more <;> rfl

/-- any later byte of a character -/
theorem feed_later {bits more : Nat} :
    feed (out, some ⟨bits, 0x80, 0xbf, more⟩) (continuation n) =
      match more with
      | 0 => (some (Char.ofNat (bits * 64 + n % 0x40)) :: out, none)
      | more + 1 => (out, some ⟨bits * 64 + n % 0x40, 0x80, 0xbf, more⟩) := by
  have hn : n % 0x40 < 0x40 := Nat.mod_lt _ (by decide)
  exact feed_continuation (p := ⟨bits, 0x80, 0xbf, more⟩) (Nat.le_add_left _ _)
    (show n % 0x40 + 0x80 ≤ 0xbf by omega)

theorem feed_ascii (h : n ≤ 0x7f) :
    feed (out, none) (UInt8.ofNat n) = (some (Char.ofNat n) :: out, none) := by
  have hn : (UInt8.ofNat n).toNat = n := Nat.mod_eq_of_lt (by omega)
  have hb : UInt8.ofNat n < 0x80 := by
    rw [UInt8.lt_iff_toNat_lt, hn]
    exact Nat.lt_succ_of_le h
  unfold feed feedByte startByte
  simp [hb, hn]

theorem feed_lead {low high : UInt8} {more : Nat} (h8 : 0x80 ≤ n) (hn : n < 0x100)
    (hr : leadRange? (UInt8.ofNat n) = some (low, high, more)) :
    feed (out, none) (UInt8.ofNat n) = (out, some ⟨leadBits (UInt8.ofNat n), low, high, more⟩) := by
  have hb : ¬ UInt8.ofNat n < 0x80 := by
    rw [UInt8.lt_iff_toNat_lt, UInt8.toNat_ofNat_of_lt' hn]
    exact Nat.not_lt.mpr h8
  unfold feed feedByte startByte
  simp [hb, hr]

theorem foldl_feed_two {v : Nat} (h1 : 0x7f < v) (h2 : v ≤ 0x7ff) :
    [UInt8.ofNat (v / 64 % 0x20 + 0xc0), continuation v].foldl feed (out, none) =
      (some (Char.ofNat v) :: out, none) := by
  have hq : v / 64 % 0x20 = v / 64 := Nat.mod_eq_of_lt (by omega)
  have hn : v / 64 + 0xc0 < 0x100 := by omega
  have hr : leadRange? (UInt8.ofNat (v / 64 + 0xc0)) = some (0x80, 0xbf, 0) := by
    rw [leadRange?_ofNat hn, if_pos (by omega)]
  have hb : leadBits (UInt8.ofNat (v / 64 + 0xc0)) = v / 64 := by
    rw [leadBits_ofNat hn, if_pos (by omega), Nat.add_sub_cancel]
  have hv : v / 64 * 64 + v % 0x40 = v := by omega
  rw [hq, List.foldl_cons, feed_lead (by omega) hn hr, hb, List.foldl_cons, feed_later]
  dsimp only
  rw [hv]
  rfl

/-- the range of the second byte leaves out what has a shorter form, and the surrogates -/
theorem foldl_feed_three {v : Nat} (h1 : 0x7ff < v) (h2 : v ≤ 0xffff)
    (hs : v < 0xd800 ∨ 0xdfff < v) :
    [UInt8.ofNat (v / 4096 % 0x10 + 0xe0), continuation (v / 64), continuation v].foldl feed
      (out, none) = (some (Char.ofNat v) :: out, none) := by
  have hq : v / 4096 % 0x10 = v / 4096 := Nat.mod_eq_of_lt (by omega)
  have hn : v / 4096 + 0xe0 < 0x100 := by omega
  have hr : ∃ low high, leadRange? (UInt8.ofNat (v / 4096 + 0xe0)) = some (low, high, 1) ∧
      low.toNat ≤ v / 64 % 0x40 + 0x80 ∧ v / 64 % 0x40 + 0x80 ≤ high.toNat := by
    rw [leadRange?_ofNat hn, if_neg (by omega)]
    by_cases h0 : v / 4096 = 0
    · rw [if_pos (by omega)]
      exact ⟨_, _, rfl, show 0xa0 ≤ _ by omega, show _ ≤ 0xbf by omega⟩
    rw [if_neg (by omega)]
    by_cases h13 : v / 4096 = 13
    · rw [if_pos (by omega)]
      exact ⟨_, _, rfl, show 0x80 ≤ _ by omega, show _ ≤ 0x9f by omega⟩
    rw [if_neg (by omega), if_pos (by omega)]
    exact ⟨_, _, rfl, show 0x80 ≤ _ by omega, show _ ≤ 0xbf by omega⟩
  obtain ⟨low, high, hr, hlow, hhigh⟩ := hr
  have hb : leadBits (UInt8.ofNat (v / 4096 + 0xe0)) = v / 4096 := by
    rw [leadBits_ofNat hn, if_neg (by omega), if_pos (by omega), Nat.add_sub_cancel]
  have hv : (v / 4096 * 64 + v / 64 % 0x40) * 64 + v % 0x40 = v := by omega
  rw [hq, List.foldl_cons, feed_lead (by omega) hn hr, hb, List.foldl_cons,
    feed_continuation hlow hhigh, List.foldl_cons, feed_later]
  dsimp only
  rw [hv]
  rfl

theorem foldl_feed_four {v : Nat} (h1 : 0xffff < v) (h2 : v < 0x110000) :
    [UInt8.ofNat (v / 262144 % 0x08 + 0xf0), continuation (v / 4096), continuation (v / 64),
      continuation v].foldl feed (out, none) = (some (Char.ofNat v) :: out, none) := by
  have hq : v / 262144 % 0x08 = v / 262144 := Nat.mod_eq_of_lt (by omega)
  have hn : v / 262144 + 0xf0 < 0x100 := by omega
  have hr : ∃ low high, leadRange? (UInt8.ofNat (v / 262144 + 0xf0)) = some (low, high, 2) ∧
      low.toNat ≤ v / 4096 % 0x40 + 0x80 ∧ v / 4096 % 0x40 + 0x80 ≤ high.toNat := by
    rw [leadRange?_ofNat hn, if_neg (by omega), if_neg (by omega), if_neg (by omega),
      if_neg (by omega)]
    by_cases h0 : v / 262144 = 0
    · rw [if_pos (by omega)]
      exact ⟨_, _, rfl, show 0x90 ≤ _ by omega, show _ ≤ 0xbf by omega⟩
    rw [if_neg (by omega)]
    by_cases h4 : v / 262144 = 4
    · rw [if_neg (by omega), if_pos (by omega)]
      exact ⟨_, _, rfl, show 0x80 ≤ _ by omega, show _ ≤ 0x8f by omega⟩
    rw [if_pos (by omega)]
    exact ⟨_, _, rfl, show 0x80 ≤ _ by omega, show _ ≤ 0xbf by omega⟩
  obtain ⟨low, high, hr, hlow, hhigh⟩ := hr
  have hb : leadBits (UInt8.ofNat (v / 262144 + 0xf0)) = v / 262144 := by
    rw [leadBits_ofNat hn, if_neg (by omega), if_neg (by omega), Nat.add_sub_cancel]
  have hv : ((v / 262144 * 64 + v / 4096 % 0x40) * 64 + v / 64 % 0x40) * 64 + v % 0x40 = v := by
    omega
  rw [hq, List.foldl_cons, feed_lead (by omega) hn hr, hb, List.foldl_cons,
    feed_continuation hlow hhigh, List.foldl_cons, feed_later, List.foldl_cons, feed_later]
  dsimp only
  rw [hv]
  rfl

/-- the bytes of a character give the character -/
theorem foldl_feed_char (c : Char) :
    (String.utf8EncodeChar c).foldl feed (out, none) = (some c :: out, none) := by
  have hc : Char.ofNat c.val.toNat = c := Char.ofNat_toNat c
  have hvalid : c.val.toNat < 0xd800 ∨ 0xdfff < c.val.toNat ∧ c.val.toNat < 0x110000 := c.valid
  suffices h : (String.utf8EncodeChar c).foldl feed (out, none) =
      (some (Char.ofNat c.val.toNat) :: out, none) by rwa [hc] at h
  unfold String.utf8EncodeChar
  dsimp only
  generalize c.val.toNat = v at hvalid
  by_cases h1 : v ≤ 0x7f
  · rw [if_pos h1]
    exact feed_ascii h1
  rw [if_neg h1]
  by_cases h2 : v ≤ 0x7ff
  · rw [if_pos h2]
    exact foldl_feed_two (Nat.lt_of_not_le h1) h2
  rw [if_neg h2]
  by_cases h3 : v ≤ 0xffff
  · rw [if_pos h3]
    exact foldl_feed_three (Nat.lt_of_not_le h2) h3 (hvalid.imp_right And.left)
  · rw [if_neg h3]
    exact foldl_feed_four (Nat.lt_of_not_le h3) (by omega)

theorem foldl_feed_encode (cs : List Char) :
    (encode cs).foldl feed (out, none) = ((cs.map some).reverse ++ out, none) := by
  induction cs generalizing out with
  | nil => rfl
  | cons c cs ih =>
    rw [encode_cons, List.foldl_append, foldl_feed_char, ih]
    simp

end

theorem pieces_encode (cs : List Char) : pieces (encode cs) = cs.map some := by
  rw [pieces_eq, foldl_feed_encode]
  simp

/-- what was encoded is read back, and nothing of it is replaced -/
theorem decodeLossy_encode (cs : List Char) : decodeLossy (encode cs) = cs := by
  rw [decodeLossy, pieces_encode, List.map_map]
  exact List.map_id cs

theorem pieces_of_decode? {bytes : List UInt8} {cs : List Char} (h : decode? bytes = some cs) :
    pieces bytes = cs.map some := eq_map_some_of_mapM h

theorem decodeLossy_of_decode? {bytes : List UInt8} {cs : List Char} (h : decode? bytes = some cs) :
    decodeLossy bytes = cs := by
  rw [decodeLossy, pieces_of_decode? h, List.map_map]
  exact List.map_id cs

end ServerConsole.Text
