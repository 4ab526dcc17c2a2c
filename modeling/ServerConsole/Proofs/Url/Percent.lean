import ServerConsole.Proofs.Text.Utf8
import ServerConsole.Url.Percent

/-!
# Escapes there and back

* `mem_percentEncode`      what an escaped text consists of;
* `Escaped`                a text with nothing left to escape, which escaping leaves alone;
* `percentDecode_flatMap_escape`  escaped bytes are read as the bytes.
-/

namespace ServerConsole.Url

open Text

/-! ## characters of escapes -/

def escapeChars : List Char := "%0123456789ABCDEF".toList

theorem isAscii_of_mem_escapeChars {c : Char} (h : c ∈ escapeChars) : isAscii c = true := by
  have hd : escapeChars.all isAscii = true := by decide
  exact List.all_eq_true.mp hd c h

theorem hexDigitUpper_mem {n : Nat} (h : n < 16) : hexDigitUpper n ∈ escapeChars := by
  have hd : ∀ m : Fin 16, hexDigitUpper m ∈ escapeChars := by decide
  exact hd ⟨n, h⟩

theorem hexValue?_hexDigitUpper {n : Nat} (h : n < 16) : hexValue? (hexDigitUpper n) = some n := by
  have hd : ∀ m : Fin 16, hexValue? (hexDigitUpper m) = some m.val := by decide
  exact hd ⟨n, h⟩

theorem mem_escape {b : UInt8} {c : Char} (h : c ∈ escape b) : c ∈ escapeChars := by
  have hb : b.toNat < 256 := b.toNat_lt
  rw [escape, List.mem_cons, List.mem_cons, List.mem_singleton] at h
  rcases h with rfl | rfl | rfl
  · decide
  · exact hexDigitUpper_mem (by omega)
  · exact hexDigitUpper_mem (by omega)

theorem mem_encodeChar {escaped : Char → Bool} {c d : Char} (h : d ∈ encodeChar escaped c) :
    (d = c ∧ isAscii c = true ∧ escaped c = false) ∨ d ∈ escapeChars := by
  unfold encodeChar at h
  split at h
  · rename_i hc
    rw [Bool.and_eq_true, Bool.not_eq_true'] at hc
    exact .inl ⟨List.mem_singleton.mp h, hc⟩
  · obtain ⟨b, -, hb⟩ := List.mem_flatMap.mp h
    exact .inr (mem_escape hb)

/-- characters that stay, and escapes -/
theorem mem_percentEncode {escaped : Char → Bool} {cs : List Char} {d : Char}
    (h : d ∈ percentEncode escaped cs) :
    (d ∈ cs ∧ isAscii d = true ∧ escaped d = false) ∨ d ∈ escapeChars := by
  obtain ⟨c, hc, hd⟩ := List.mem_flatMap.mp h
  rcases mem_encodeChar hd with ⟨rfl, hs⟩ | hs
  · exact .inl ⟨hc, hs⟩
  · exact .inr hs

/-! ## escaped texts -/

/-- nothing of the text is to be escaped -/
def Escaped (escaped : Char → Bool) (cs : List Char) : Prop :=
  ∀ c ∈ cs, isAscii c = true ∧ escaped c = false

theorem escaped_nil (escaped : Char → Bool) : Escaped escaped [] := nofun

/-- what was escaped is, where escapes themselves are not -/
theorem escaped_percentEncode {escaped : Char → Bool} (he : escapeChars.any escaped = false)
    (cs : List Char) : Escaped escaped (percentEncode escaped cs) := by
  intro c hc
  rcases mem_percentEncode hc with ⟨-, h⟩ | h
  · exact h
  · exact ⟨isAscii_of_mem_escapeChars h, Bool.eq_false_iff.mpr (List.any_eq_false.mp he c h)⟩

theorem Escaped.percentEncode_eq {escaped : Char → Bool} {cs : List Char} (h : Escaped escaped cs) :
    percentEncode escaped cs = cs := by
  refine percentEncode_of_all _ _ (List.all_eq_true.mpr fun c hc => ?_)
  rw [(h c hc).1, (h c hc).2]
  rfl

/-! ## bytes of ASCII characters -/

theorem toNat_of_isAscii {c : Char} (h : isAscii c = true) : c.toNat < 0x80 :=
  (of_decide_eq_true h : c.val < 0x80)

theorem utf8EncodeChar_of_isAscii {c : Char} (h : isAscii c = true) :
    String.utf8EncodeChar c = [UInt8.ofNat c.toNat] := by
  have hc : c.val.toNat ≤ 0x7f := Nat.le_of_lt_succ (toNat_of_isAscii h)
  unfold String.utf8EncodeChar
  simp only [hc, if_true]
  rfl

theorem encode_cons_of_isAscii {c : Char} (h : isAscii c = true) (cs : List Char) :
    encode (c :: cs) = UInt8.ofNat c.toNat :: encode cs := by
  rw [encode_cons, utf8EncodeChar_of_isAscii h]
  rfl

theorem toNat_ofNat_of_isAscii {c : Char} (h : isAscii c = true) :
    (UInt8.ofNat c.toNat).toNat = c.toNat :=
  UInt8.toNat_ofNat_of_lt' (Nat.lt_trans (toNat_of_isAscii h) (by decide))

theorem hexByte?_ofNat {c : Char} (h : isAscii c = true) :
    hexByte? (UInt8.ofNat c.toNat) = hexValue? c := by
  rw [hexByte?, toNat_ofNat_of_isAscii h, Char.ofNat_toNat]

/-! ## reading -/

/-- only a percent sign is read with what follows it -/
theorem percentDecode_cons_of_ne {b : UInt8} (h : b ≠ 0x25) (rest : List UInt8) :
    percentDecode (b :: rest) = b :: percentDecode rest := by
  have hb : (b == 0x25) = false := beq_false_of_ne h
  match rest with
  | [] => rfl
  | [_] => rfl
  | _ :: _ :: _ => rw [percentDecode, hb]

theorem percentDecode_encode_cons {c : Char} (h : isAscii c = true) (hc : c ≠ '%') (cs : List Char) :
    percentDecode (encode (c :: cs)) = UInt8.ofNat c.toNat :: percentDecode (encode cs) := by
  have hb : UInt8.ofNat c.toNat ≠ 0x25 := by
    intro hb
    have hn : c.toNat = '%'.toNat := by
      rw [← toNat_ofNat_of_isAscii h, hb]
      rfl
    exact hc (Char.toNat_inj.mp hn)
  rw [encode_cons_of_isAscii h, percentDecode_cons_of_ne hb]

theorem percentDecode_escape (b : UInt8) (cs : List Char) :
    percentDecode (encode (escape b ++ cs)) = b :: percentDecode (encode cs) := by
  have hb : b.toNat < 256 := b.toNat_lt
  have hhigh : b.toNat / 16 < 16 := by omega
  have hlow : b.toNat % 16 < 16 := Nat.mod_lt _ (by decide)
  have ha := isAscii_of_mem_escapeChars (hexDigitUpper_mem hhigh)
  have hc := isAscii_of_mem_escapeChars (hexDigitUpper_mem hlow)
  have hv : (16 * (b.toNat / 16) + b.toNat % 16).toUInt8 = b := by
    rw [Nat.div_add_mod]
    exact UInt8.ofNat_toNat
  rw [escape, List.cons_append, List.cons_append, List.cons_append, List.nil_append,
    encode_cons_of_isAscii (by decide), encode_cons_of_isAscii ha, encode_cons_of_isAscii hc]
  rw [percentDecode, hexByte?_ofNat ha, hexByte?_ofNat hc, hexValue?_hexDigitUpper hhigh,
    hexValue?_hexDigitUpper hlow]
  exact congrArg (· :: _) hv

/-- escaped bytes are read as the bytes -/
theorem percentDecode_flatMap_escape (bytes : List UInt8) (cs : List Char) :
    percentDecode (encode (bytes.flatMap escape ++ cs)) = bytes ++ percentDecode (encode cs) := by
  induction bytes with
  | nil => rfl
  | cons b bytes ih =>
    rw [List.flatMap_cons, List.append_assoc, percentDecode_escape, ih]
    rfl

end ServerConsole.Url
