import ServerConsole.Proofs.Editor.Offsets
import ServerConsole.Proofs.Json.Quoted
import ServerConsole.Screen.Style

/-!
# Colour hints

A hint is cut at byte offsets and its channels are read as numbers, and such a number may have a sign.

* `Digits`, `Channel`   a channel as it is meant to be written, and what is read as one;
* `IsHint`              a hint of three channels;
* `Color.ofBytes?`      reading by byte offsets;
* `ofBytes?_eq_some_iff`, `ofChars?_eq_some_iff`  both readings take the same hints, so that they are one
  (`ofBytes?_eq`);
* `hint_read_iff`       a hint with a plus sign is the only text read that should not be.
-/

namespace ServerConsole.Screen

open Text

/-! ## definitions -/

/-- two hexadecimal digits of a value, in either case -/
def Digits (a b : Char) (v : UInt8) : Prop :=
  ∃ x y, hexValue? a = some x ∧ hexValue? b = some y ∧ v.toNat = 16 * x + y

/-- two digits, or a plus sign in front of one -/
def Channel (a b : Char) (v : UInt8) : Prop :=
  Digits a b v ∨ (a = '+' ∧ hexValue? b = some v.toNat)

/-- a hash sign and three channels -/
def IsHint (channel : Char → Char → UInt8 → Prop) (cs : List Char) (r g b : UInt8) : Prop :=
  ∃ r₁ r₂ g₁ g₂ b₁ b₂, cs = ['#', r₁, r₂, g₁, g₂, b₁, b₂] ∧
    channel r₁ r₂ r ∧ channel g₁ g₂ g ∧ channel b₁ b₂ b

/-- a number in base 16 that fits a byte, behind a sign or not -/
def byte? (cs : List Char) : Option UInt8 :=
  let digits := match cs with
    | '+' :: rest => rest
    | _ => cs
  if digits.isEmpty then none else ((hexNumber? digits).filter (· < 256)).map Nat.toUInt8

/-- the text between two byte offsets, if both lie between two characters -/
def slice? (cs : List Char) (start stop : Nat) : Option (List Char) :=
  (splitAtByte? start cs).bind fun (_, rest) =>
    (splitAtByte? (stop - start) rest).map fun (piece, _) => piece

/-- the channel of a hint that starts at a byte offset -/
def channelAt? (cs : List Char) (start : Nat) : Option UInt8 := (slice? cs start (start + 2)).bind byte?

def Color.ofBytes? : List Char → Option Color
  | '#' :: cs =>
    if byteLength cs = 6 then do
      return .rgb (← channelAt? cs 0) (← channelAt? cs 2) (← channelAt? cs 4)
    else none
  | _ => none

/-! ## digits -/

/-- a digit has one byte and a value below sixteen -/
theorem digit_of_hexValue? {c : Char} {n : Nat} (h : hexValue? c = some n) : n < 16 ∧ c.utf8Size = 1 := by
  have hc : n < 16 ∧ c.toNat < 128 := by
    have ho : c.val.toNat = c.toNat := rfl
    simp only [hexValue?, Char.le_def, UInt32.le_iff_toNat_le, Char.reduceVal, UInt32.reduceToNat, ho] at h
    split at h
    · cases h
      omega
    split at h
    · cases h
      omega
    split at h
    · cases h
      omega
    · cases h
  refine ⟨hc.1, Char.utf8Size_eq_one_iff.mpr (UInt32.le_iff_toNat_le.mpr ?_)⟩
  show c.toNat ≤ 127
  omega

theorem hexNumber?_pair (a b : Char) : hexNumber? [a, b] =
    (hexValue? a).bind fun x => (hexValue? b).map fun y => 16 * x + y := by
  cases ha : hexValue? a <;> simp [hexNumber?, ha]

theorem hexNumber?_single (a : Char) : hexNumber? [a] = hexValue? a := by
  cases ha : hexValue? a <;> simp [hexNumber?, ha]

/-! ## channels -/

theorem toUInt8_eq_some_iff {n : Nat} (h : n < 256) (v : UInt8) :
    some n.toUInt8 = some v ↔ v.toNat = n := by
  rw [Option.some_inj, ← UInt8.toNat_inj, Nat.toUInt8_eq, UInt8.toNat_ofNat_of_lt' h]
  exact eq_comm

theorem ne_plus_of_hexValue? {c : Char} {n : Nat} (h : hexValue? c = some n) : c ≠ '+' := by
  rintro rfl
  have hp : hexValue? '+' = none := by decide
  rw [hp] at h
  cases h

theorem channel_ascii {a b : Char} {v : UInt8} (h : Channel a b v) :
    a.utf8Size = 1 ∧ b.utf8Size = 1 := by
  rcases h with ⟨x, y, ha, hb, -⟩ | ⟨rfl, hb⟩
  · exact ⟨(digit_of_hexValue? ha).2, (digit_of_hexValue? hb).2⟩
  · exact ⟨by decide, (digit_of_hexValue? hb).2⟩

theorem channel?_eq_some_iff (a b : Char) (v : UInt8) : channel? a b = some v ↔ Channel a b v := by
  unfold channel? Channel Digits
  cases hb : hexValue? b with
  | none => cases hexValue? a <;> simp
  | some y =>
    have hy := (digit_of_hexValue? hb).1
    cases ha : hexValue? a with
    | none =>
      dsimp only
      split
      · rename_i hs
        rw [toUInt8_eq_some_iff (by omega)]
        simp [hs, eq_comm]
      · rename_i hs
        simp [hs]
    | some x =>
      have hx := (digit_of_hexValue? ha).1
      dsimp only
      rw [toUInt8_eq_some_iff (by omega)]
      simp [ne_plus_of_hexValue? ha]

/-! ## bytes -/

theorem byte?_of_ne {cs : List Char} (hn : cs ≠ []) (hs : cs.head? ≠ some '+') :
    byte? cs = ((hexNumber? cs).filter (· < 256)).map Nat.toUInt8 := by
  unfold byte?
  split
  · rename_i rest
    exact absurd rfl hs
  · rw [if_neg (mt List.isEmpty_iff.mp hn)]

theorem byte?_pair (a b : Char) : byte? [a, b] = channel? a b := by
  have ho : ∀ n, n < 256 → (Option.some n).filter (· < 256) = some n :=
    fun n hn => Option.filter_eq_some_iff.mpr ⟨rfl, decide_eq_true hn⟩
  by_cases hs : a = '+'
  · subst hs
    have hplus : hexValue? '+' = none := by decide
    show ((hexNumber? [b]).filter (· < 256)).map Nat.toUInt8 = _
    rw [hexNumber?_single, channel?, hplus]
    cases hb : hexValue? b with
    | none => rfl
    | some y =>
      have hy := (digit_of_hexValue? hb).1
      rw [ho y (by omega)]
      rfl
  · rw [byte?_of_ne (List.cons_ne_nil _ _) (by simpa using hs), hexNumber?_pair, channel?]
    cases ha : hexValue? a with
    | none =>
      cases hexValue? b with
      | none => rfl
      | some y => exact (if_neg hs).symm
    | some x =>
      cases hb : hexValue? b with
      | none => rfl
      | some y =>
        have hx := (digit_of_hexValue? ha).1
        have hy := (digit_of_hexValue? hb).1
        show ((some (16 * x + y)).filter (· < 256)).map Nat.toUInt8 = _
        rw [ho _ (by omega)]
        rfl

/-- a character of two bytes is no digit -/
theorem byte?_eq_some_iff {cs : List Char} (hl : byteLength cs = 2) (v : UInt8) :
    byte? cs = some v ↔ ∃ a b, cs = [a, b] ∧ Channel a b v := by
  have hpos : ∀ c : Char, 0 < c.utf8Size := Char.utf8Size_pos
  match cs with
  | [] => cases hl
  | [c] =>
    rw [byteLength_cons, byteLength_nil] at hl
    have hs : c ≠ '+' := by
      rintro rfl
      cases hl
    have hc : hexValue? c = none := by
      cases hd : hexValue? c with
      | none => rfl
      | some n =>
        have := (digit_of_hexValue? hd).2
        omega
    rw [byte?_of_ne (List.cons_ne_nil _ _) (by simpa using hs), hexNumber?_single, hc]
    simp
  | [a, b] =>
    rw [byte?_pair, channel?_eq_some_iff]
    constructor
    · exact fun h => ⟨a, b, rfl, h⟩
    · rintro ⟨a', b', he, h⟩
      cases he
      exact h
  | a :: b :: c :: cs =>
    rw [byteLength_cons, byteLength_cons, byteLength_cons] at hl
    have := hpos a
    have := hpos b
    have := hpos c
    omega

theorem splitAtByte?_cons {c : Char} (hc : c.utf8Size = 1) (cs : List Char) (n : Nat) :
    splitAtByte? (n + 1) (c :: cs) = (splitAtByte? n cs).map fun (front, rest) => (c :: front, rest) := by
  rw [splitAtByte?, if_pos (by omega), hc, Nat.add_sub_cancel]

/-- behind two characters of one byte each, the offsets start again -/
theorem channelAt?_cons_cons {a b : Char} (ha : a.utf8Size = 1) (hb : b.utf8Size = 1) (cs : List Char)
    (start : Nat) : channelAt? (a :: b :: cs) (start + 2) = channelAt? cs start := by
  unfold channelAt? slice?
  rw [splitAtByte?_cons ha, splitAtByte?_cons hb, Nat.add_sub_cancel_left, Nat.add_sub_cancel_left]
  cases splitAtByte? start cs <;> rfl

theorem channelAt?_zero_eq_some_iff (cs : List Char) (v : UInt8) :
    channelAt? cs 0 = some v ↔ ∃ a b rest, cs = a :: b :: rest ∧ Channel a b v := by
  have hs : slice? cs 0 2 = (splitAtByte? 2 cs).map Prod.fst := by
    rw [slice?, splitAtByte?]
    rfl
  unfold channelAt?
  rw [hs, Option.bind_eq_some_iff]
  constructor
  · rintro ⟨piece, hp, hb⟩
    obtain ⟨⟨piece, rest⟩, hm, rfl⟩ := Option.map_eq_some_iff.mp hp
    obtain ⟨rfl, hl⟩ := (splitAtByte?_eq_some_iff _ _ _ _).mp hm
    obtain ⟨a, b, he, hc⟩ := (byte?_eq_some_iff hl v).mp hb
    exact ⟨a, b, rest, congrArg (· ++ rest) he, hc⟩
  · rintro ⟨a, b, rest, rfl, hc⟩
    have hl : byteLength [a, b] = 2 := by
      rw [byteLength_cons, byteLength_cons, byteLength_nil, (channel_ascii hc).1, (channel_ascii hc).2]
    have hp : splitAtByte? 2 (a :: b :: rest) = some ([a, b], rest) :=
      (splitAtByte?_eq_some_iff _ _ _ _).mpr ⟨rfl, hl⟩
    exact ⟨[a, b], congrArg (Option.map Prod.fst) hp, (byte?_eq_some_iff hl v).mpr ⟨a, b, rfl, hc⟩⟩

/-! ## hints -/

theorem ofChars?_eq_some_iff (cs : List Char) (c : Color) : Color.ofChars? cs = some c ↔
    ∃ r g b, c = .rgb r g b ∧ IsHint Channel cs r g b := by
  constructor
  · intro h
    unfold Color.ofChars? at h
    split at h
    · rename_i r₁ r₂ g₁ g₂ b₁ b₂
      obtain ⟨r, hr, h⟩ := Option.bind_eq_some_iff.mp h
      obtain ⟨g, hg, h⟩ := Option.bind_eq_some_iff.mp h
      obtain ⟨b, hb, h⟩ := Option.bind_eq_some_iff.mp h
      cases h
      exact ⟨r, g, b, rfl, r₁, r₂, g₁, g₂, b₁, b₂, rfl, (channel?_eq_some_iff _ _ _).mp hr,
        (channel?_eq_some_iff _ _ _).mp hg, (channel?_eq_some_iff _ _ _).mp hb⟩
    · cases h
  · rintro ⟨r, g, b, rfl, r₁, r₂, g₁, g₂, b₁, b₂, rfl, hr, hg, hb⟩
    show ((channel? r₁ r₂).bind fun r => (channel? g₁ g₂).bind fun g => (channel? b₁ b₂).bind fun b =>
      some (Color.rgb r g b)) = _
    rw [(channel?_eq_some_iff _ _ _).mpr hr, (channel?_eq_some_iff _ _ _).mpr hg,
      (channel?_eq_some_iff _ _ _).mpr hb]
    rfl

theorem ofBytes?_eq_some_iff (cs : List Char) (c : Color) : Color.ofBytes? cs = some c ↔
    ∃ r g b, c = .rgb r g b ∧ IsHint Channel cs r g b := by
  constructor
  · intro h
    unfold Color.ofBytes? at h
    split at h
    · rename_i cs
      split at h
      · rename_i hl
        obtain ⟨r, hr, h⟩ := Option.bind_eq_some_iff.mp h
        obtain ⟨g, hg, h⟩ := Option.bind_eq_some_iff.mp h
        obtain ⟨b, hb, h⟩ := Option.bind_eq_some_iff.mp h
        cases h
        -- a channel found makes the next one start behind it
        obtain ⟨r₁, r₂, cs, rfl, hr'⟩ := (channelAt?_zero_eq_some_iff _ _).mp hr
        have ⟨hr₁, hr₂⟩ := channel_ascii hr'
        rw [channelAt?_cons_cons hr₁ hr₂] at hg hb
        obtain ⟨g₁, g₂, cs, rfl, hg'⟩ := (channelAt?_zero_eq_some_iff _ _).mp hg
        have ⟨hg₁, hg₂⟩ := channel_ascii hg'
        rw [channelAt?_cons_cons hg₁ hg₂] at hb
        obtain ⟨b₁, b₂, cs, rfl, hb'⟩ := (channelAt?_zero_eq_some_iff _ _).mp hb
        have ⟨hb₁, hb₂⟩ := channel_ascii hb'
        simp only [byteLength_cons, hr₁, hr₂, hg₁, hg₂, hb₁, hb₂] at hl
        obtain rfl := (byteLength_eq_zero_iff cs).mp (by omega)
        exact ⟨r, g, b, rfl, r₁, r₂, g₁, g₂, b₁, b₂, rfl, hr', hg', hb'⟩
      · cases h
    · cases h
  · rintro ⟨r, g, b, rfl, r₁, r₂, g₁, g₂, b₁, b₂, rfl, hr, hg, hb⟩
    have ⟨hr₁, hr₂⟩ := channel_ascii hr
    have ⟨hg₁, hg₂⟩ := channel_ascii hg
    have ⟨hb₁, hb₂⟩ := channel_ascii hb
    have hl : byteLength [r₁, r₂, g₁, g₂, b₁, b₂] = 6 := by
      simp only [byteLength_cons, byteLength_nil, hr₁, hr₂, hg₁, hg₂, hb₁, hb₂]
    have h0 := (channelAt?_zero_eq_some_iff [r₁, r₂, g₁, g₂, b₁, b₂] r).mpr ⟨r₁, r₂, _, rfl, hr⟩
    have h2 := (channelAt?_zero_eq_some_iff [g₁, g₂, b₁, b₂] g).mpr ⟨g₁, g₂, _, rfl, hg⟩
    have h4 := (channelAt?_zero_eq_some_iff [b₁, b₂] b).mpr ⟨b₁, b₂, _, rfl, hb⟩
    rw [← channelAt?_cons_cons hg₁ hg₂] at h4
    rw [← channelAt?_cons_cons hr₁ hr₂] at h2 h4
    show (if byteLength [r₁, r₂, g₁, g₂, b₁, b₂] = 6 then _ else none) = _
    rw [if_pos hl, h0, h2, h4]
    rfl

theorem ofBytes?_eq (cs : List Char) : Color.ofBytes? cs = Color.ofChars? cs := by
  ext c
  rw [ofBytes?_eq_some_iff, ofChars?_eq_some_iff]

/-- digits are no plus signs -/
theorem isHint_digits_iff (cs : List Char) (r g b : UInt8) :
    IsHint Digits cs r g b ↔ IsHint Channel cs r g b ∧ '+' ∉ cs := by
  have hd : ∀ {a b : Char} {v : UInt8}, Digits a b v → '+' ≠ a ∧ '+' ≠ b := by
    rintro a b v ⟨x, y, ha, hb, -⟩
    exact ⟨(ne_plus_of_hexValue? ha).symm, (ne_plus_of_hexValue? hb).symm⟩
  have hc : ∀ {a b : Char} {v : UInt8}, Channel a b v → '+' ≠ a → Digits a b v :=
    fun h hs => h.resolve_right fun h => hs h.1.symm
  constructor
  · rintro ⟨r₁, r₂, g₁, g₂, b₁, b₂, rfl, hr, hg, hb⟩
    refine ⟨⟨r₁, r₂, g₁, g₂, b₁, b₂, rfl, .inl hr, .inl hg, .inl hb⟩, ?_⟩
    simp [hd hr, hd hg, hd hb]
  · rintro ⟨⟨r₁, r₂, g₁, g₂, b₁, b₂, rfl, hr, hg, hb⟩, hs⟩
    simp only [List.mem_cons, not_or] at hs
    obtain ⟨-, hr₁, -, hg₁, -, hb₁, -⟩ := hs
    exact ⟨r₁, r₂, g₁, g₂, b₁, b₂, rfl, hc hr hr₁, hc hg hg₁, hc hb hb₁⟩

/-- **Colour hints.** The hints read are those of three channels, whether a text is cut by characters or by
bytes. They are a hash sign and six digits exactly if there is no plus sign: a text that is read as a
colour and holds one is the only text that is read as it should not be. -/
theorem hint_read_iff (s : String) :
    Color.ofBytes? s.toList = Color.ofText? s ∧
    (∀ c, Color.ofText? s = some c ↔ ∃ r g b, c = .rgb r g b ∧ IsHint Channel s.toList r g b) ∧
    ((∀ c, Color.ofText? s = some c ↔ ∃ r g b, c = .rgb r g b ∧ IsHint Digits s.toList r g b) ↔
      ¬ ('+' ∈ s.toList ∧ (Color.ofText? s).isSome = true)) := by
  have hread := ofChars?_eq_some_iff s.toList
  refine ⟨ofBytes?_eq s.toList, hread, ?_⟩
  constructor
  · rintro h ⟨hs, hc⟩
    obtain ⟨c, hc⟩ := Option.isSome_iff_exists.mp hc
    obtain ⟨r, g, b, -, hd⟩ := (h c).mp hc
    exact ((isHint_digits_iff _ _ _ _).mp hd).2 hs
  · intro h c
    constructor
    · intro hc
      obtain ⟨r, g, b, rfl, hd⟩ := (hread c).mp hc
      have hs : '+' ∉ s.toList := fun hs => h ⟨hs, Option.isSome_of_eq_some hc⟩
      exact ⟨r, g, b, rfl, (isHint_digits_iff _ _ _ _).mpr ⟨hd, hs⟩⟩
    · rintro ⟨r, g, b, rfl, hd⟩
      exact (hread _).mpr ⟨r, g, b, rfl, ((isHint_digits_iff _ _ _ _).mp hd).1⟩

theorem plus_sign_read : Color.ofText? "#+f0aff" = some (.rgb 15 10 255) ∧
    ¬ ∃ r g b, IsHint Digits "#+f0aff".toList r g b := by
  refine ⟨by decide, ?_⟩
  rintro ⟨r, g, b, h⟩
  exact ((isHint_digits_iff _ _ _ _).mp h).2 (by decide)

end ServerConsole.Screen
