import ServerConsole.Proofs.Text.Utf8
import ServerConsole.Proofs.Url.Parse
import ServerConsole.Proofs.Url.Percent

/-!
# What hosts are written with

A host that was read is written with the characters that a name may hold, or as an address in brackets. So
the ends of a host are where they were, whatever stands around it.

* `Allowed`          the texts without a character that no name may hold;
* `allowed_asciiDomain`  the written form of a name is one;
* `Written`          the hosts that are read, which are never empty;
* `hostLength_chars`, `isHostChar_of_mem`  where the text of a host ends, and what it holds.
-/

namespace ServerConsole.Url

open Text

/-! ## allowed characters -/

def Allowed (cs : List Char) : Prop := ∀ c ∈ cs, isForbiddenInDomain c = false

section
variable {a b cs : List Char}

theorem allowed_nil : Allowed [] := nofun

theorem Allowed.append (ha : Allowed a) (hb : Allowed b) : Allowed (a ++ b) :=
  List.forall_mem_append.mpr ⟨ha, hb⟩

theorem allowed_of_any (h : cs.any isForbiddenInDomain = false) : Allowed cs := fun c hc =>
  Bool.eq_false_iff.mpr fun hf => Bool.eq_false_iff.mp h (List.any_eq_true.mpr ⟨c, hc, hf⟩)

theorem allowed_joinWith {pieces : List (List Char)} (h : ∀ piece ∈ pieces, Allowed piece) :
    Allowed (joinWith '.' pieces) := by
  induction pieces with
  | nil => exact allowed_nil
  | cons piece more ih =>
    rw [List.forall_mem_cons] at h
    cases more with
    | nil => exact h.1
    | cons next more =>
      have hdot : Allowed ['.'] := by simp [Allowed, isForbiddenInDomain]
      exact h.1.append (hdot.append (ih h.2))

end

/-! ## encoded labels -/

theorem isForbiddenInDomain_punyDigit {n : Nat} (h : n < 36) :
    isForbiddenInDomain (punyDigit n) = false := by
  have hd : ∀ m : Fin 36, isForbiddenInDomain (punyDigit m) = false := by decide
  exact hd ⟨n, h⟩

theorem allowed_punyNumber (bias k n : Nat) : Allowed (punyNumber bias k n) := by
  induction k, n using punyNumber.induct bias with
  | case1 k n t h =>
    rw [punyNumber, if_pos h]
    have ht := punyThreshold_lt bias k
    exact List.forall_mem_singleton.mpr (isForbiddenInDomain_punyDigit (by omega))
  | case2 k n t h ih =>
    rw [punyNumber, if_neg h]
    have ht := punyThreshold_lt bias k
    have hm : (n - punyThreshold bias k) % (36 - punyThreshold bias k) < 36 - punyThreshold bias k :=
      Nat.mod_lt _ (by omega)
    exact List.forall_mem_cons.mpr ⟨isForbiddenInDomain_punyDigit (by omega), ih⟩

theorem allowed_punyPass {s : PunyState} (h : Allowed s.out) (value : Nat) (c : Char) :
    Allowed (punyPass value s c).out := by
  unfold punyPass
  split
  · exact h
  · split
    · exact h.append (allowed_punyNumber _ _ _)
    · exact h

theorem allowed_punyPasses (value : Nat) (label : List Char) {s : PunyState} (h : Allowed s.out) :
    Allowed (label.foldl (punyPass value) s).out := by
  induction label generalizing s with
  | nil => exact h
  | cons c label ih => exact ih (allowed_punyPass h value c)

theorem allowed_punyPlace (label : List Char) {values : List Nat} {next : Nat} {s : PunyState}
    (h : Allowed s.out) : Allowed (punyPlace label values next s).out := by
  induction values generalizing next s with
  | nil => exact h
  | cons value values ih =>
    refine ih (s := PunyState.mk _ _ _ _ _) ?_
    exact allowed_punyPasses value label (s := PunyState.mk _ _ _ _ _) h

/-- the encoding of a label holds its ASCII characters, hyphens and digits -/
theorem allowed_punycode {label : List Char} (h : Allowed label) : Allowed (punycode label) := by
  refine allowed_punyPlace label ?_
  dsimp only
  split
  · exact allowed_nil
  · refine Allowed.append (fun c hc => h c (List.mem_filter.mp hc).1) ?_
    simp [Allowed, isForbiddenInDomain]

theorem allowed_marker : Allowed marker := allowed_of_any (by decide)

theorem allowed_decode? {encoded : List Char} {l : Label} (h : Label.decode? encoded = some l) :
    Allowed l.written := by
  unfold Label.decode? at h
  split at h
  · cases h
  · obtain ⟨text, -, h⟩ := Option.bind_eq_some_iff.mp h
    split at h
    · rename_i hc
      simp only [Bool.and_eq_true, Bool.not_eq_true', beq_iff_eq] at hc
      rw [← Option.some.inj h, ← hc.2]
      exact allowed_marker.append (allowed_punycode (allowed_of_any hc.1.1.1.2))
    · cases h

theorem allowed_encode {text : List Char} (h : Allowed text) : Allowed (Label.encode text).written := by
  unfold Label.encode
  dsimp only
  split
  · exact h
  · exact allowed_marker.append (allowed_punycode h)

theorem allowed_read? {label : List Char} {l : Label} (h : Label.read? label = some l) :
    Allowed l.written := by
  obtain ⟨h, -⟩ := Option.filter_eq_some_iff.mp h
  split at h
  · exact allowed_decode? h
  · split at h
    · cases h
    · rename_i hf
      rw [← Option.some.inj h]
      exact allowed_encode (allowed_of_any (Bool.eq_false_iff.mpr hf))

/-! ## names -/

theorem allowed_asciiDomain? {name domain : List Char} (h : asciiDomain? name = some domain) :
    Allowed domain := by
  obtain ⟨folded, -, h⟩ := Option.bind_eq_some_iff.mp h
  obtain ⟨labels, hl, h⟩ := Option.bind_eq_some_iff.mp h
  dsimp only at h
  split at h
  · cases h
  · rw [← Option.some.inj h]
    refine allowed_joinWith fun piece hp => ?_
    obtain ⟨l, hm, rfl⟩ := List.mem_map.mp hp
    exact forall_of_mapM (fun _ _ hr => allowed_read? hr) hl l hm

/-! ## addresses -/

theorem mem_joinWith {separator c : Char} {pieces : List (List Char)}
    (h : c ∈ joinWith separator pieces) : c = separator ∨ ∃ piece ∈ pieces, c ∈ piece := by
  induction pieces with
  | nil => cases h
  | cons piece more ih =>
    cases more with
    | nil => exact .inr ⟨piece, List.mem_cons_self, h⟩
    | cons next more =>
      rcases List.mem_append.mp h with h | h
      · exact .inr ⟨piece, List.mem_cons_self, h⟩
      · rcases List.mem_cons.mp h with h | h
        · exact .inl h
        · rcases ih h with h | ⟨p, hp, hc⟩
          · exact .inl h
          · exact .inr ⟨p, List.mem_cons_of_mem _ hp, hc⟩

def decimals : List Char := "0123456789".toList

theorem mem_digits {n : Nat} : ∀ c ∈ digits n, c ∈ decimals := by
  have hd : ∀ m : Fin 10, Char.ofNat (48 + m) ∈ decimals := by decide
  have hl : ∀ n, digitChar n ∈ decimals := fun n => hd ⟨n % 10, Nat.mod_lt _ (by decide)⟩
  induction n using digits.induct with
  | case1 n h =>
    rw [digits, if_pos h]
    exact List.forall_mem_singleton.mpr (hl n)
  | case2 n h ih =>
    rw [digits, if_neg h]
    exact List.forall_mem_append.mpr ⟨ih, List.forall_mem_singleton.mpr (hl n)⟩

theorem Ipv4.mem_chars {a : Ipv4} : ∀ c ∈ a.chars, c ∈ '.' :: decimals := by
  intro c hc
  simp only [Ipv4.chars, List.mem_append, List.mem_cons, or_assoc] at hc
  rw [List.mem_cons]
  rcases hc with h | h | h | h | h | h | h
  · exact .inr (mem_digits c h)
  · exact .inl h
  · exact .inr (mem_digits c h)
  · exact .inl h
  · exact .inr (mem_digits c h)
  · exact .inl h
  · exact .inr (mem_digits c h)

theorem Ipv4.allowed_chars (a : Ipv4) : Allowed a.chars := by
  have hd : Allowed ('.' :: decimals) := allowed_of_any (by decide)
  exact fun c hc => hd c (mem_chars c hc)

/-- the digits of an address in brackets -/
def pieceDigits : List Char := "0123456789abcdef".toList

theorem mem_hexDigits {k n : Nat} : ∀ c ∈ hexDigits k n, c ∈ pieceDigits := by
  have hd : ∀ m : Fin 16, hexDigit m ∈ pieceDigits := by decide
  induction k generalizing n with
  | zero => exact nofun
  | succ k ih =>
    have hl : hexDigit (n % 16) ∈ pieceDigits := hd ⟨n % 16, Nat.mod_lt _ (by decide)⟩
    exact List.forall_mem_append.mpr ⟨ih, List.forall_mem_singleton.mpr hl⟩

theorem mem_hexText {n : Nat} : ∀ c ∈ hexText n, c ∈ pieceDigits := by
  intro c hc
  unfold hexText at hc
  split at hc
  · obtain rfl := List.mem_singleton.mp hc
    decide
  · exact mem_hexDigits c ((List.dropWhile_sublist _).mem hc)

theorem Ipv6.mem_written {ps : List UInt16} : ∀ c ∈ written ps, c ∈ ':' :: pieceDigits := by
  intro c hc
  rcases mem_joinWith hc with rfl | ⟨piece, hp, hc⟩
  · exact List.mem_cons_self
  · obtain ⟨p, -, rfl⟩ := List.mem_map.mp hp
    exact List.mem_cons_of_mem _ (mem_hexText c hc)

theorem Ipv6.mem_chars {a : Ipv6} : ∀ c ∈ a.chars, c ∈ ':' :: pieceDigits := by
  unfold Ipv6.chars
  split
  · exact mem_written
  · simp only [List.forall_mem_append, List.forall_mem_cons]
    exact ⟨mem_written, List.mem_cons_self, List.mem_cons_self, mem_written⟩

/-! ## hosts -/

/-- the hosts that are read where a name is wanted -/
inductive Host.Written : Host → Prop
  | name {cs : List Char} (h : Allowed cs) (hn : cs ≠ []) : Host.Written (.name cs)
  | ipv4 (a : Ipv4) : Host.Written (.ipv4 a)
  | ipv6 (a : Ipv6) (h : a.pieces.length = 8) : Host.Written (.ipv6 a)

theorem Ipv6.length_of_parse? {cs : List Char} {a : Ipv6} (h : Ipv6.parse? cs = some a) :
    a.pieces.length = 8 := by
  unfold Ipv6.parse? at h
  split at h
  · obtain ⟨ps, hp, rfl⟩ := Option.map_eq_some_iff.mp h
    exact of_decide_eq_true (Option.filter_eq_some_iff.mp hp).2
  · split at h
    · split at h
      · rw [← Option.some.inj h]
        simp only [List.length_append, List.length_replicate]
        omega
      · cases h
    · cases h

theorem written_bracketed {rest : List Char} {host : Host} (h : Host.bracketed rest = .ok host) :
    host.Written := by
  unfold Host.bracketed at h
  split at h
  · split at h
    · rename_i a ha
      rw [← Except.ok.inj h]
      exact .ipv6 a (Ipv6.length_of_parse? ha)
    · cases h
  · cases h

theorem written_ofDomain {domain : List Char} {host : Host} (hd : Allowed domain)
    (h : Host.ofDomain domain = .ok host) : host.Written := by
  unfold Host.ofDomain at h
  split at h
  · cases h
  rename_i hn
  split at h
  · split at h
    · rename_i a _
      rw [← Except.ok.inj h]
      exact .ipv4 a
    · cases h
  · rw [← Except.ok.inj h]
    exact .name hd fun he => hn (List.isEmpty_iff.mpr he)

theorem written_host {text : List Char} {host : Host} (h : Host.parse text = .ok host) :
    host.Written := by
  unfold Host.parse at h
  split at h
  · exact written_bracketed h
  · split at h
    · rename_i domain hd
      obtain ⟨cs, -, hd⟩ := Option.bind_eq_some_iff.mp hd
      exact written_ofDomain (allowed_asciiDomain? hd) h
    · cases h

namespace Host.Written

variable {host : Host}

theorem chars_ne_nil (h : host.Written) : host.chars ≠ [] := by
  cases h with
  | name h hn => exact hn
  | ipv4 a => simp [Host.chars, Ipv4.chars, digits_ne_nil]
  | ipv6 a h => exact List.cons_ne_nil _ _

end Host.Written

/-! ## the text of a host -/

/-- the characters that hosts are written with: none ends the text of a host in a URL -/
def isHostChar (c : Char) : Bool := !isForbiddenInDomain c || [':', '[', ']'].contains c

theorem Host.Written.isHostChar_of_mem {host : Host} (h : host.Written) :
    ∀ c ∈ host.chars, isHostChar c = true := by
  have ha : ∀ {cs}, Allowed cs → ∀ c ∈ cs, isHostChar c = true := fun ha c hc => by
    rw [isHostChar, ha c hc]
    rfl
  cases h with
  | name h hn => exact ha h
  | ipv4 a => exact ha a.allowed_chars
  | ipv6 a h =>
    have hd : ∀ c ∈ ':' :: pieceDigits, isHostChar c = true := List.all_eq_true.mp (by decide)
    show ∀ c ∈ '[' :: a.chars ++ [']'], isHostChar c = true
    simp only [List.forall_mem_append, List.forall_mem_cons]
    exact ⟨⟨by decide, fun c hc => hd c (Ipv6.mem_chars c hc)⟩, by decide, nofun⟩

theorem hostLength_cons {inside : Bool} {c : Char} (hc : c ≠ ':' ∧ c ≠ '[' ∧ c ≠ ']') (cs : List Char) :
    hostLength inside (c :: cs) = hostLength inside cs + 1 := by
  rw [hostLength]
  · exact hc.1
  · exact hc.2.1
  · exact hc.2.2

theorem hostLength_append {cs : List Char} (h : ∀ c ∈ cs, c ≠ ':' ∧ c ≠ '[' ∧ c ≠ ']')
    (inside : Bool) (rest : List Char) :
    hostLength inside (cs ++ rest) = cs.length + hostLength inside rest := by
  induction cs with
  | nil => exact (Nat.zero_add _).symm
  | cons c cs ih =>
    rw [List.forall_mem_cons] at h
    rw [List.cons_append, hostLength_cons h.1, ih h.2, List.length_cons]
    omega

theorem hostLength_inside {cs : List Char} (hl : '[' ∉ cs) (hr : ']' ∉ cs) (rest : List Char) :
    hostLength true (cs ++ rest) = cs.length + hostLength true rest := by
  induction cs with
  | nil => exact (Nat.zero_add _).symm
  | cons c cs ih =>
    rw [List.mem_cons, not_or] at hl hr
    have hc : hostLength true (c :: (cs ++ rest)) = hostLength true (cs ++ rest) + 1 := by
      by_cases he : c = ':'
      · rw [he]
        rfl
      · exact hostLength_cons ⟨he, Ne.symm hl.1, Ne.symm hr.1⟩ _
    rw [List.cons_append, hc, ih hl.2 hr.2, List.length_cons]
    omega

/-- what follows a host: a port, or nothing -/
theorem Host.Written.hostLength_chars {host : Host} (h : host.Written) {rest : List Char}
    (hr : hostLength false rest = 0) :
    hostLength false (host.chars ++ rest) = host.chars.length := by
  have ha : ∀ {cs}, Allowed cs → hostLength false (cs ++ rest) = cs.length := fun {cs} ha => by
    have hc : ∀ c ∈ cs, c ≠ ':' ∧ c ≠ '[' ∧ c ≠ ']' := by
      intro c hc
      have hd := ha c hc
      refine ⟨?_, ?_, ?_⟩ <;> rintro rfl <;> cases hd
    rw [hostLength_append hc, hr, Nat.add_zero]
  cases h with
  | name h hn => exact ha h
  | ipv4 a => exact ha a.allowed_chars
  | ipv6 a h =>
    have hn : ∀ c, c ∉ ':' :: pieceDigits → c ∉ a.chars := fun c hd hc => hd (Ipv6.mem_chars c hc)
    show hostLength false ('[' :: a.chars ++ [']'] ++ rest) = _
    rw [List.cons_append, List.cons_append, List.append_assoc]
    show hostLength true (a.chars ++ ([']'] ++ rest)) + 1 = _
    rw [hostLength_inside (hn _ (by decide)) (hn _ (by decide))]
    show a.chars.length + (hostLength false rest + 1) + 1 = _
    rw [hr]
    simp [Host.chars]

end ServerConsole.Url
