import ServerConsole.Proofs.Unicode.Direction
import ServerConsole.Proofs.Url.Ipv6

/-!
# Hosts that are read as they are written

An address is. So is a name in lower case without a label that stands for another one: nothing of it is
folded, and its labels are taken as they are.

* `IsPlainName`        such a name, which is its own written form (`asciiDomain?_plain`);
* `Ipv4.parse?_chars`  an address of four bytes is read as it is written;
* `parse_plain`        so is every host that is plain.
-/

namespace ServerConsole.Url

open Text Unicode

/-! ## ASCII texts -/

theorem decode?_encode (cs : List Char) : decode? (encode cs) = some cs := by
  have hm : (cs.map some).mapM id = some ((cs.map some).map (·.getD replacement)) :=
    mapM_eq_some_map fun c hc => by
      obtain ⟨d, -, rfl⟩ := List.mem_map.mp hc
      rfl
  rw [decode?, pieces_encode, hm]
  simp [Function.comp_def]

theorem percentDecode_encode {cs : List Char} (h : ∀ c ∈ cs, isAscii c = true ∧ c ≠ '%') :
    percentDecode (encode cs) = encode cs := by
  induction cs with
  | nil => rfl
  | cons c cs ih =>
    rw [List.forall_mem_cons] at h
    rw [percentDecode_encode_cons h.1.1 h.1.2, ih h.2, encode_cons_of_isAscii h.1.1]

/-! ## plain names -/

/-- the characters of a name that are left as they are -/
def isPlainChar (c : Char) : Bool := isAscii c && c.toLower == c && !isForbiddenInDomain c

/-- a name in lower case, of labels that stand for themselves -/
structure IsPlainName (cs : List Char) : Prop where
  chars : ∀ c ∈ cs, isPlainChar c = true
  labels : ∀ label ∈ splitOn '.' cs, marker.isPrefixOf label = false

section
variable {cs : List Char}

theorem isAscii_of_isPlainChar {c : Char} (h : isPlainChar c = true) : isAscii c = true := by
  simp only [isPlainChar, Bool.and_eq_true] at h
  exact h.1.1

theorem allowed_of_plain (h : ∀ c ∈ cs, isPlainChar c = true) : Allowed cs := by
  intro c hc
  have hp := h c hc
  simp only [isPlainChar, Bool.and_eq_true, Bool.not_eq_true'] at hp
  exact hp.2

theorem foldChar?_plain {c : Char} (h : isPlainChar c = true) : foldChar? c = some [c] := by
  simp only [isPlainChar, Bool.and_eq_true, beq_iff_eq] at h
  rw [foldChar?, if_pos (of_decide_eq_true h.1.1), h.1.2]

theorem fold?_plain (h : ∀ c ∈ cs, isPlainChar c = true) : fold? cs = some cs := by
  have hm : cs.mapM foldChar? = some (cs.map fun c => [c]) :=
    mapM_eq_some_map fun c hc => foldChar?_plain (h c hc)
  have hf : (cs.map fun c => [c]).flatten = cs := by
    rw [← List.flatMap_def]
    exact List.flatMap_singleton' cs
  have ha : cs.all (·.val < 0x80) = true :=
    List.all_eq_true.mpr fun c hc => isAscii_of_isPlainChar (h c hc)
  rw [fold?, hm, Option.map_some, hf, compose, if_pos ha]

theorem read?_plain {label : List Char} (h : ∀ c ∈ label, isPlainChar c = true)
    (hm : marker.isPrefixOf label = false) : Label.read? label = some ⟨label, label⟩ := by
  have ha : label.all isAscii = true :=
    List.all_eq_true.mpr fun c hc => isAscii_of_isPlainChar (h c hc)
  have hf : label.any isForbiddenInDomain = false := by
    rw [List.any_eq_false]
    exact fun c hc => Bool.eq_false_iff.mp (allowed_of_plain h c hc)
  rw [Label.read?, if_neg (by simp [hm]), if_neg (by simp [hf]), Label.encode, if_pos ha]
  simp [Option.filter, isWellFormed, ha]

/-- a plain name is its own written form -/
theorem asciiDomain?_plain (h : IsPlainName cs) : asciiDomain? cs = some cs := by
  have hread : (splitOn '.' cs).mapM Label.read? =
      some ((splitOn '.' cs).map fun label => ⟨label, label⟩) :=
    mapM_eq_some_map fun label hm =>
      read?_plain (fun c hc => h.chars c (mem_of_mem_splitOn hm hc).1) (h.labels label hm)
  have hturn : (((splitOn '.' cs).map fun label => (⟨label, label⟩ : Label)).map
      fun l => l.text.map bearing).any turnsLeft = false := by
    rw [List.map_map, List.any_map, List.any_eq_false]
    intro label hm
    have hb : ∀ c ∈ label, bearing c ≠ .right ∧ bearing c ≠ .arabicNumber := fun c hc =>
      bearing_ascii (toNat_of_isAscii
        (isAscii_of_isPlainChar (h.chars c (mem_of_mem_splitOn hm hc).1)))
    simp only [Function.comp_apply, turnsLeft, Bool.or_eq_true, List.contains_iff_mem, List.mem_map]
    rintro (⟨c, hc, he⟩ | ⟨c, hc, he⟩)
    · exact (hb c hc).1 he
    · exact (hb c hc).2 he
  unfold asciiDomain?
  rw [fold?_plain h.chars]
  simp only [Option.bind_eq_bind, Option.bind_some, hread]
  rw [hturn]
  simp [Function.comp_def, joinWith_splitOn]

theorem parse_plainName (h : IsPlainName cs) : Host.parse cs = Host.ofDomain cs := by
  have ha := allowed_of_plain h.chars
  have hp : percentDecode (encode cs) = encode cs := percentDecode_encode fun c hc => by
    refine ⟨isAscii_of_isPlainChar (h.chars c hc), ?_⟩
    rintro rfl
    cases ha _ hc
  unfold Host.parse
  split
  · cases ha _ List.mem_cons_self
  · rw [hp, decode?_encode, Option.bind_some, asciiDomain?_plain h]

end

/-! ## addresses of four bytes -/

namespace Ipv4

theorem part?_digits {n : Nat} (h : n < 256) : part? (digits n) = some n := by
  have hd : ∀ n : Fin 256, part? (digits n) = some n.val := by decide +kernel
  exact hd ⟨n, h⟩

/-- the bytes of an address, the highest first -/
def bytes (a : Ipv4) : List Nat :=
  [a.bits.toNat / 16777216 % 256, a.bits.toNat / 65536 % 256, a.bits.toNat / 256 % 256,
    a.bits.toNat % 256]

theorem chars_eq (a : Ipv4) : a.chars = joinWith '.' (a.bytes.map digits) := by
  simp [chars, bytes, joinWith, Nat.pow]

theorem byte_lt {a : Ipv4} : ∀ n ∈ a.bytes, n < 256 := by
  simp only [bytes, List.forall_mem_cons]
  refine ⟨?_, ?_, ?_, ?_, nofun⟩ <;> exact Nat.mod_lt _ (by decide)

theorem partsOf_chars (a : Ipv4) : partsOf a.chars = a.bytes.map digits := by
  have hdot : ∀ part ∈ a.bytes.map digits, '.' ∉ part := by
    intro part hp hm
    obtain ⟨n, -, rfl⟩ := List.mem_map.mp hp
    exact absurd (mem_digits _ hm) (by decide)
  have hs : splitOn '.' a.chars = a.bytes.map digits := by
    rw [chars_eq]
    exact splitOn_joinWith (by simp [bytes]) hdot
  have hl : (a.bytes.map digits).getLast? ≠ some [] := by
    simp [bytes, digits_ne_nil]
  rw [partsOf, hs]
  exact if_neg hl

theorem ofParts?_bytes (a : Ipv4) : ofParts? a.bytes = some a := by
  have hlt : a.bits.toNat < 4294967296 := a.bits.toNat_lt
  have hany : (a.bytes.dropLast.any (255 < ·)) = false := by
    rw [List.any_eq_false]
    intro n hn hgt
    have hb := byte_lt n ((List.dropLast_sublist _).mem hn)
    simp at hgt
    omega
  have hlast : a.bytes.getLast? = some (a.bits.toNat % 256) := rfl
  have hsum : a.bytes.dropLast.foldl (256 * · + ·) 0 * 256 + a.bits.toNat % 256 = a.bits.toNat := by
    simp only [bytes, List.dropLast, List.foldl_cons, List.foldl_nil]
    omega
  have hcond : (decide (4 < a.bytes.length) ||
      decide (Nat.pow 256 (4 - a.bytes.dropLast.length) ≤ a.bits.toNat % 256) ||
      a.bytes.dropLast.any (255 < ·)) = false := by
    rw [hany]
    have hm : ¬ Nat.pow 256 1 ≤ a.bits.toNat % 256 := Nat.not_le.mpr (Nat.mod_lt _ (by decide))
    exact Bool.or_eq_false_iff.mpr ⟨Bool.or_eq_false_iff.mpr ⟨rfl, decide_eq_false hm⟩, rfl⟩
  rw [ofParts?, hlast]
  dsimp only
  rw [hcond, if_neg Bool.false_ne_true]
  show some (Ipv4.mk (a.bytes.dropLast.foldl (256 * · + ·) 0 * 256 + a.bits.toNat % 256).toUInt32) = _
  rw [hsum]
  exact congrArg (fun bits => some (Ipv4.mk bits)) UInt32.ofNat_toNat

theorem parse?_chars (a : Ipv4) : parse? a.chars = some a := by
  have hm : (a.bytes.map digits).mapM part? = some a.bytes := by
    rw [List.mapM_map]
    exact (mapM_eq_some_map fun n hn => part?_digits (byte_lt n hn)).trans (by rw [List.map_id'])
  rw [parse?, partsOf_chars, hm, Option.bind_some, ofParts?_bytes]

theorem endsInNumber_chars (a : Ipv4) : endsInNumber a.chars = true := by
  have hl : (a.bytes.map digits).getLast? = some (digits (a.bits.toNat % 256)) := rfl
  obtain ⟨c, cs, hc⟩ := List.exists_cons_of_ne_nil (digits_ne_nil (a.bits.toNat % 256))
  unfold endsInNumber
  rw [partsOf_chars, hl, hc]
  show ((c :: cs).all isDigit || _) = true
  rw [← hc, all_isDigit_digits, Bool.true_or]

theorem isPlainName_chars (a : Ipv4) : IsPlainName a.chars where
  chars := by
    have hd : ∀ c ∈ '.' :: decimals, isPlainChar c = true := List.all_eq_true.mp (by decide)
    exact fun c hc => hd c (mem_chars c hc)
  labels := by
    intro label hm
    rw [Bool.eq_false_iff]
    intro hp
    have hx : 'x' ∈ label := (List.isPrefixOf_iff_prefix.mp hp).subset List.mem_cons_self
    exact absurd (mem_chars _ (mem_of_mem_splitOn hm hx).1) (by decide)

end Ipv4

/-! ## hosts -/

namespace Host

/-- an address, or a name that stands for itself -/
def IsPlain : Host → Prop
  | name cs => IsPlainName cs
  | _ => True

theorem parse_ipv4 (a : Ipv4) : parse (ipv4 a).chars = .ok (ipv4 a) := by
  have hn : a.chars.isEmpty = false := List.isEmpty_eq_false_iff.mpr (Written.ipv4 a).chars_ne_nil
  show parse a.chars = _
  rw [parse_plainName a.isPlainName_chars, ofDomain, hn, if_neg Bool.false_ne_true,
    if_pos a.endsInNumber_chars, a.parse?_chars]

theorem parse_ipv6 {a : Ipv6} (h : a.pieces.length = 8) : parse (ipv6 a).chars = .ok (ipv6 a) := by
  show bracketed (a.chars ++ [']']) = _
  rw [bracketed, List.getLast?_concat, if_pos rfl, List.dropLast_concat, Ipv6.parse?_chars a h]

theorem ofDomain_name {domain cs : List Char} (h : ofDomain domain = .ok (name cs)) :
    ofDomain cs = .ok (name cs) := by
  have hd : domain = cs := by
    unfold ofDomain at h
    split at h
    · cases h
    · split at h
      · split at h <;> cases h
      · cases h
        rfl
  rwa [hd] at h

theorem ofDomain_of_parse {text cs : List Char} (h : parse text = .ok (name cs)) :
    ofDomain cs = .ok (name cs) := by
  unfold parse at h
  split at h
  · unfold bracketed at h
    split at h
    · split at h <;> cases h
    · cases h
  · split at h
    · exact ofDomain_name h
    · cases h

/-- **A plain host is read as it is written.** -/
theorem parse_plain {text : List Char} {host : Host} (h : parse text = .ok host) (hp : host.IsPlain) :
    parse host.chars = .ok host := by
  cases host with
  | name cs => exact (parse_plainName hp).trans (ofDomain_of_parse h)
  | ipv4 a => exact parse_ipv4 a
  | ipv6 a =>
    cases written_host h with
    | ipv6 a hl => exact parse_ipv6 hl

end Host

end ServerConsole.Url
