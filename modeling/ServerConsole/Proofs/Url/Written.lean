import ServerConsole.Proofs.Text.Trim
import ServerConsole.Proofs.Url.Host
import ServerConsole.Proofs.Url.Path

/-!
# What is written is read

The written form of a URL that was read is cut where its parts were put together, and its parts are escaped
already. So it is read as the URL again, save for its host: what is written of a host need not be read as this
host.

* `cut_elim`           a part behind its mark is found again;
* `parseAuthority_chars`  so are the parts of an authority, host and all;
* `HasHost`            the URLs of which this is said, and `parse_chars` what their written form is read as;
* `not_bare_of_mark`   a mark anywhere in a text makes for a query or a fragment.
-/

namespace ServerConsole.Url

open Text

/-! ## marks -/

section
variable {mark : Char} {front back : List Char}

/-- a part that is written behind its mark, or left out -/
theorem cut_elim (h : mark ∉ front) (part : Option (List Char)) :
    cut mark (front ++ part.elim [] (mark :: ·)) = (front, part) := by
  cases part with
  | none => exact (congrArg (cut mark) (List.append_nil front)).trans (cut_of_not_mem h)
  | some rest => exact cut_append h rest

theorem cut_ne_none (h : mark ∈ front) : (cut mark front).2 ≠ none := by
  unfold cut
  split
  · next hd =>
    have hm := List.dropWhile_eq_nil_iff.mp hd mark h
    simp at hm
  · simp

theorem cutLast?_of_not_mem (h : mark ∉ front) : cutLast? mark front = none := by
  rw [cutLast?, cut_of_not_mem (mt List.mem_reverse.mp h)]

theorem cutLast?_append (h : mark ∉ back) :
    cutLast? mark (front ++ mark :: back) = some (front, back) := by
  have hr : (front ++ mark :: back).reverse = back.reverse ++ mark :: front.reverse := by simp
  rw [cutLast?, hr, cut_append (mt List.mem_reverse.mp h)]
  simp

end

/-! ## characters -/

/-- the characters in front of a query and a fragment -/
def isBodyChar (c : Char) : Bool := !isLowest c && c != '#' && c != '?'

/-- those of an authority -/
def isAuthorityChar (c : Char) : Bool := isBodyChar c && !endsAuthority true c

section
variable {c : Char}

theorem escaped_of_isLowest (h : isLowest c = true) : fragmentSet c = true ∧ querySet c = true := by
  have hc : c.val < 0x20 ∨ c = ' ' :=
    (UInt32.lt_or_eq_of_le (of_decide_eq_true h : c.val ≤ 0x20)).imp_right Char.ext
  rcases hc with h | rfl
  · have hs : controlSet c = true := by simp [controlSet, h]
    simp [fragmentSet, querySet, hs]
  · decide

theorem isBodyChar_of_not {p : Char → Bool} (hl : isLowest c = true → p c = true)
    (hm : ['#', '?'].all p = true) (h : p c = false) : isBodyChar c = true := by
  simp only [List.all_cons, List.all_nil, Bool.and_eq_true] at hm
  have h1 : isLowest c = false := Bool.eq_false_iff.mpr fun hc => by simp [hl hc] at h
  have h2 : c ≠ '#' := by
    rintro rfl
    simp [hm.1] at h
  have h3 : c ≠ '?' := by
    rintro rfl
    simp [hm.2.1] at h
  simp [isBodyChar, h1, h2, h3]

theorem isAuthorityChar_of_not {p : Char → Bool} (hl : isLowest c = true → p c = true)
    (hm : ['#', '?', '/', '\\'].all p = true) (h : p c = false) : isAuthorityChar c = true := by
  simp only [List.all_cons, List.all_nil, Bool.and_eq_true] at hm
  have hb : isBodyChar c = true := isBodyChar_of_not hl (by simp [hm]) h
  have h1 : c ≠ '/' := by
    rintro rfl
    simp [hm.2.2.1] at h
  have h2 : c ≠ '\\' := by
    rintro rfl
    simp [hm.2.2.2.1] at h
  simp [isAuthorityChar, hb, endsAuthority, h1, h2]

theorem isAuthorityChar_of_userinfo (h : userinfoSet c = false) : isAuthorityChar c = true :=
  isAuthorityChar_of_not (fun hl => by simp [userinfoSet, pathSet, escaped_of_isLowest hl]) (by decide) h

theorem isAuthorityChar_of_isHostChar (h : isHostChar c = true) : isAuthorityChar c = true := by
  rcases Bool.or_eq_true_iff.mp h with h | h
  · have hf : isForbiddenInDomain c = false := by simpa using h
    refine isAuthorityChar_of_not (fun hl => ?_) (by decide) hf
    have hv : decide (c.val ≤ 0x20) = true := hl
    simp [isForbiddenInDomain, of_decide_eq_true hv]
  · have hd : ∀ d ∈ [':', '[', ']'], isAuthorityChar d = true := List.all_eq_true.mp (by decide)
    exact hd c (List.contains_iff_mem.mp h)

theorem isBodyChar_of_isAuthorityChar (h : isAuthorityChar c = true) : isBodyChar c = true :=
  (Bool.and_eq_true_iff.mp h).1

theorem isBodyChar_of_isSegmentChar (h : isSegmentChar c = true) : isBodyChar c = true := by
  simp only [isSegmentChar, Bool.and_eq_true, Bool.not_eq_true'] at h
  exact isBodyChar_of_not (fun hl => by simp [pathSet, escaped_of_isLowest hl]) (by decide) h.1.1.2

end

theorem isBreak_of_not_isLowest {c : Char} (h : isLowest c = false) : isBreak c = false := by
  have hd : ∀ d ∈ ['\t', '\n', '\r'], isLowest d = true := List.all_eq_true.mp (by decide)
  rw [Bool.eq_false_iff]
  intro hb
  have hm : c ∈ ['\t', '\n', '\r'] := by simpa [isBreak, or_assoc] using hb
  rw [hd c hm] at h
  cases h

theorem withoutBreaks_of_high {cs : List Char} (h : ∀ c ∈ cs, isLowest c = false) :
    withoutBreaks cs = cs :=
  List.filter_eq_self.mpr fun c hc => by rw [isBreak_of_not_isLowest (h c hc)]; rfl

section
variable {escaped : Char → Bool} (hl : ∀ c, isLowest c = true → escaped c = true)
include hl

theorem Escaped.high {cs : List Char} (h : Escaped escaped cs) : ∀ c ∈ cs, isLowest c = false := by
  intro c hc
  rw [Bool.eq_false_iff]
  intro hlow
  have he := (h c hc).2
  rw [hl c hlow] at he
  cases he

/-- an escaped part is read as it is -/
theorem map_of_escaped {part : Option (List Char)} (h : ∀ cs, part = some cs → Escaped escaped cs) :
    part.map (percentEncode escaped ∘ withoutBreaks) = part := by
  refine (Option.map_congr fun cs hcs => ?_).trans Option.map_id'
  show percentEncode escaped (withoutBreaks cs) = cs
  rw [withoutBreaks_of_high ((h cs hcs).high hl), (h cs hcs).percentEncode_eq]

end

theorem specialQuerySet_of_isLowest (c : Char) (h : isLowest c = true) : specialQuerySet c = true := by
  simp [specialQuerySet, escaped_of_isLowest h]

theorem fragmentSet_of_isLowest (c : Char) (h : isLowest c = true) : fragmentSet c = true :=
  (escaped_of_isLowest h).1

theorem trimmed_of_high {cs : List Char} (h : ∀ c ∈ cs, isLowest c = false) : trimmed cs = cs := by
  have hd : cs.dropWhile isLowest = cs := by
    cases cs with
    | nil => rfl
    | cons c cs => exact List.dropWhile_cons_of_neg (by simp [h c List.mem_cons_self])
  rw [trimmed, hd]
  obtain ⟨tail, he, ht⟩ := exists_dropTail_append isLowest cs
  cases tail with
  | nil => rw [List.append_nil] at he; exact he.symm
  | cons c tail =>
    have hc := h c (by rw [he]; simp)
    rw [ht c List.mem_cons_self] at hc
    cases hc

theorem SettledPath.isBodyChar_of_mem {cs : List Char} (h : SettledPath cs) :
    ∀ c ∈ cs, isBodyChar c = true := by
  obtain ⟨segments, hs, rfl⟩ := h
  intro c hc
  rcases mem_slashed hs hc with rfl | hc
  · decide
  · exact isBodyChar_of_isSegmentChar hc

theorem high_of_isBodyChar {c : Char} (h : isBodyChar c = true) : isLowest c = false := by
  simp only [isBodyChar, Bool.and_eq_true, Bool.not_eq_true'] at h
  exact h.1.1

theorem SettledPath.high {cs : List Char} (h : SettledPath cs) : ∀ c ∈ cs, isLowest c = false :=
  fun c hc => high_of_isBodyChar (h.isBodyChar_of_mem c hc)

/-! ## schemes -/

/-- a special scheme is found in front of a colon -/
theorem scheme?_special {scheme : List Char} (h : isSpecial scheme = true) (rest : List Char) :
    scheme? (scheme ++ ':' :: rest) = some (scheme, rest) := by
  have hd : ∀ p ∈ specialSchemes, ':' ∉ p.1 ∧ withoutBreaks p.1 = p.1 ∧
      p.1.all isSchemeChar = true ∧ p.1.head?.any Char.isAlpha = true ∧
      p.1.map Char.toLower = p.1 := by decide
  obtain ⟨p, hp, he⟩ := List.any_eq_true.mp h
  obtain rfl := beq_iff_eq.mp he
  obtain ⟨hc, hb, ha, hf, hl⟩ := hd p hp
  rw [scheme?, cut_append hc]
  simp only [hb, ha, hf, hl]
  rfl

theorem high_scheme {scheme : List Char} (h : isSpecial scheme = true) :
    ∀ c ∈ scheme, isLowest c = false := by
  have hd : ∀ p ∈ specialSchemes, p.1.any isLowest = false := by decide
  obtain ⟨p, hp, he⟩ := List.any_eq_true.mp h
  obtain rfl := beq_iff_eq.mp he
  exact fun c hc => Bool.eq_false_iff.mpr (List.any_eq_false.mp (hd p hp) c hc)

/-! ## authorities -/

namespace Authority

variable {scheme : List Char} {a : Authority}

/-- host and port -/
def place (a : Authority) : List Char := a.host.chars ++ a.port.elim [] fun p => ':' :: digits p.toNat

/-- user and password -/
def info (a : Authority) : List Char :=
  a.user ++ if a.password.isEmpty then [] else ':' :: a.password

theorem chars_eq (a : Authority) : a.chars =
    if a.hasCredentials then a.info ++ '@' :: a.place else a.place := by
  unfold chars place info
  dsimp only
  split <;> simp

theorem info_ne_nil (h : a.hasCredentials = true) : a.info ≠ [] := by
  cases hu : a.user with
  | nil =>
    cases hp : a.password with
    | nil => simp [hasCredentials, hu, hp] at h
    | cons c cs => simp [info, hp]
  | cons c cs => simp [info, hu]

theorem IsRead.written (h : a.IsRead scheme) : a.host.Written := by
  obtain ⟨text, ht⟩ := h.host
  exact written_host ht

theorem mem_place {c : Char} (h : c ∈ a.place) : c ∈ a.host.chars ∨ c ∈ ':' :: decimals := by
  rcases List.mem_append.mp h with h | h
  · exact .inl h
  · cases hp : a.port with
    | none =>
      rw [hp] at h
      cases h
    | some p =>
      rw [hp] at h
      rcases List.mem_cons.mp h with h | h
      · exact .inr (List.mem_cons.mpr (.inl h))
      · exact .inr (List.mem_cons_of_mem _ (mem_digits c h))

theorem IsRead.isHostChar_of_mem (h : a.IsRead scheme) : ∀ c ∈ a.place, isHostChar c = true := by
  intro c hc
  have hd : ∀ c ∈ ':' :: decimals, isHostChar c = true := List.all_eq_true.mp (by decide)
  rcases mem_place hc with hc | hc
  · exact h.written.isHostChar_of_mem c hc
  · exact hd c hc

theorem IsRead.isAuthorityChar_of_mem (h : a.IsRead scheme) :
    ∀ c ∈ a.chars, isAuthorityChar c = true := by
  have hp : ∀ c ∈ a.place, isAuthorityChar c = true := fun c hc =>
    isAuthorityChar_of_isHostChar (h.isHostChar_of_mem c hc)
  have hu : ∀ {cs}, Escaped userinfoSet cs → ∀ c ∈ cs, isAuthorityChar c = true := fun he c hc =>
    isAuthorityChar_of_userinfo (he c hc).2
  have hi : ∀ c ∈ a.info, isAuthorityChar c = true := by
    refine List.forall_mem_append.mpr ⟨hu h.user, ?_⟩
    split
    · exact nofun
    · exact List.forall_mem_cons.mpr ⟨by decide, hu h.password⟩
  rw [chars_eq]
  split
  · exact List.forall_mem_append.mpr ⟨hi, List.forall_mem_cons.mpr ⟨by decide, hp⟩⟩
  · exact hp

theorem IsRead.chars_ne_nil (h : a.IsRead scheme) : a.chars ≠ [] := by
  have hp : a.place ≠ [] := List.append_ne_nil_of_left_ne_nil h.written.chars_ne_nil _
  rw [chars_eq]
  split
  · exact List.append_ne_nil_of_right_ne_nil _ (List.cons_ne_nil _ _)
  · exact hp

end Authority

/-! ## reading authorities -/

section
variable {scheme : List Char} {a : Authority}

theorem parsePort_digits {p : UInt16} (h : defaultPort? scheme ≠ some p) :
    parsePort scheme (digits p.toNat) = .ok (some p, []) := by
  have hd : ∀ c ∈ digits p.toNat, isDigit c = true := List.all_eq_true.mp (all_isDigit_digits _)
  have hl : p.toNat < 65536 := p.toNat_lt
  have hv : (ofDigits (digits p.toNat)).toUInt16 = p := by
    rw [ofDigits_digits]
    exact UInt16.ofNat_toNat
  have hb : (some p == defaultPort? scheme) = false := beq_false_of_ne (Ne.symm h)
  have he : (digits p.toNat).isEmpty = false := by simp [digits_ne_nil]
  unfold parsePort
  rw [List.takeWhile_eq_self_iff.mpr hd, List.dropWhile_eq_nil_iff.mpr hd]
  dsimp only
  rw [hv, hb, he, ofDigits_digits, if_neg (by omega)]
  rfl

theorem hostLength_port (port : Option UInt16) :
    hostLength false (port.elim [] fun p => ':' :: digits p.toNat) = 0 := by
  cases port <;> rfl

theorem parseHostPort_place (hs : isSpecial scheme = true) (h : a.IsRead scheme) :
    parseHostPort scheme a.place =
      (Host.parse a.host.chars).map fun host => (host, a.port, []) := by
  have hw := h.written
  have hl : hostLength false a.place = a.host.chars.length := hw.hostLength_chars (hostLength_port _)
  have he : a.host.chars.isEmpty = false := by simp [hw.chars_ne_nil]
  have ht : a.place.take a.host.chars.length = a.host.chars := List.take_left
  have hd : a.place.drop a.host.chars.length = a.port.elim [] fun p => ':' :: digits p.toNat :=
    List.drop_left
  unfold parseHostPort
  simp only [hl, hs, ht, hd, he]
  cases hh : Host.parse a.host.chars with
  | error f => rfl
  | ok host =>
    cases hp : a.port with
    | none => rfl
    | some p =>
      simp only [Option.elim_some, parsePort_digits (h.port p hp)]
      show (if host.isEmpty = true then _ else _ : Except Fault _) = _
      rw [isEmpty_host hh]
      rfl

theorem credentials_info (h : a.IsRead scheme) : credentials a.info = (a.user, a.password) := by
  have hc : ':' ∉ a.user := by
    intro hm
    have hu := (h.user _ hm).2
    cases hu
  unfold credentials Authority.info
  cases hp : a.password with
  | nil =>
    rw [if_pos (by rfl), List.append_nil, cut_of_not_mem hc]
    simp only [h.user.percentEncode_eq]
    rfl
  | cons c cs =>
    have hq := h.password.percentEncode_eq
    rw [hp] at hq
    rw [if_neg (by simp), cut_append hc]
    simp only [h.user.percentEncode_eq, Option.getD_some, hq]

/-- the end of an authority is read as it was written -/
theorem placed_eq (hs : isSpecial scheme = true) (h : a.IsRead scheme) {user password path : List Char}
    (hu : user = a.user) (hp : password = a.password) :
    (do
      let (host, port, rest) ← parseHostPort scheme a.place
      let authority : Authority := ⟨user, password, host, port⟩
      if host.isEmpty && authority.hasCredentials then throw .emptyHost
      return (authority, rest ++ path) : Except Fault (Authority × List Char)) =
    (Host.parse a.host.chars).map fun host => ({ a with host := host }, path) := by
  rw [parseHostPort_place hs h, hu, hp]
  cases hh : Host.parse a.host.chars with
  | error f => rfl
  | ok host =>
    show (if host.isEmpty && _ then _ else _ : Except Fault (Authority × List Char)) = _
    rw [isEmpty_host hh]
    rfl

theorem parseAuthority_chars (hs : isSpecial scheme = true) (h : a.IsRead scheme) (more : Bool)
    (rest : List Char) :
    parseAuthority scheme more (a.chars ++ '/' :: rest) =
      (Host.parse a.host.chars).map fun host => ({ a with host := host }, '/' :: rest) := by
  have hc : ∀ c ∈ a.chars, (!endsAuthority (isSpecial scheme) c) = true := fun c hc => by
    rw [hs]
    exact (Bool.and_eq_true_iff.mp (h.isAuthorityChar_of_mem c hc)).2
  have hat : '@' ∉ a.place := fun hm => by
    have hh := h.isHostChar_of_mem _ hm
    cases hh
  unfold parseAuthority
  simp only [List.takeWhile_append_of_pos hc, List.dropWhile_append_of_pos hc]
  have ht : ('/' :: rest).takeWhile (!endsAuthority (isSpecial scheme) ·) = [] := rfl
  have hd : ('/' :: rest).dropWhile (!endsAuthority (isSpecial scheme) ·) = '/' :: rest := rfl
  rw [ht, hd, List.append_nil, Authority.chars_eq]
  cases hr : a.hasCredentials with
  | false =>
    obtain ⟨hu, hp⟩ := Bool.or_eq_false_iff.mp hr
    rw [if_neg Bool.false_ne_true, cutLast?_of_not_mem hat]
    exact placed_eq hs h (by simpa using hu.symm) (by simpa using hp.symm)
  | true =>
    rw [if_pos rfl, cutLast?_append hat]
    have hi : credentials a.info = (a.user, a.password) := credentials_info h
    split
    · rename_i he
      cases he
    · rename_i he
      have hn := (Prod.mk.inj (Option.some.inj he)).1
      exact absurd hn (Authority.info_ne_nil hr)
    · rename_i he
      obtain ⟨hinfo, hplace⟩ := Prod.mk.inj (Option.some.inj he)
      rw [← hinfo, ← hplace, hi]
      exact placed_eq hs h rfl rfl

end

/-! ## reading URLs -/

/-- what stands behind the colon of a URL, in front of its query -/
def body (u : Url) (a : Authority) : List Char := '/' :: '/' :: (a.chars ++ u.path)

section
variable {u : Url} {a : Authority}

theorem chars_eq (ha : u.authority = some a) : u.chars = u.scheme ++ ':' ::
    ((u.body a ++ u.query.elim [] ('?' :: ·)) ++ u.fragment.elim [] ('#' :: ·)) := by
  have hp : u.pathChars = u.path := by simp [pathChars, ha]
  simp [chars, hp, ha, body]

theorem exists_pathBehind {scheme : List Char} (hs : isSpecial scheme = true) (cs : List Char) :
    ∃ rest, pathBehind scheme cs = '/' :: rest := by
  unfold pathBehind
  rw [hs]
  cases cs with
  | nil => exact ⟨[], rfl⟩
  | cons c cs => exact ⟨_, rfl⟩

/-- the parts of a URL that was read where a host is wanted -/
structure HasHost (u : Url) (a : Authority) : Prop where
  special : isSpecial u.scheme = true
  noFile : isFile u.scheme = false
  authority : u.authority = some a
  read : u.IsRead

theorem hasHost_of_parse {cs : List Char} (h : parse cs = .ok u) (hs : isSpecial u.scheme = true)
    (hf : isFile u.scheme = false) : ∃ a, u.HasHost a := by
  have hr := isRead_of_parse h hs hf
  obtain ⟨a, ha, -⟩ := hr.authority
  exact ⟨a, hs, hf, ha, hr⟩

namespace HasHost

theorem isRead_authority (h : u.HasHost a) : a.IsRead u.scheme := by
  obtain ⟨b, hb, hr⟩ := h.read.authority
  rw [h.authority] at hb
  exact Option.some.inj hb ▸ hr

theorem settledPath (h : u.HasHost a) : SettledPath u.path := by
  obtain ⟨rest, hp⟩ := h.read.path
  exact hp ▸ settledPath_pathBehind h.special rest

theorem exists_path (h : u.HasHost a) : ∃ rest, u.path = '/' :: rest := by
  obtain ⟨rest, hp⟩ := h.read.path
  exact hp ▸ exists_pathBehind h.special rest

theorem isBodyChar_of_mem (h : u.HasHost a) : ∀ c ∈ u.body a, isBodyChar c = true := by
  refine List.forall_mem_cons.mpr ⟨by decide, List.forall_mem_cons.mpr ⟨by decide, ?_⟩⟩
  exact List.forall_mem_append.mpr ⟨fun c hc =>
    isBodyChar_of_isAuthorityChar (h.isRead_authority.isAuthorityChar_of_mem c hc),
    h.settledPath.isBodyChar_of_mem⟩

theorem high_body (h : u.HasHost a) : ∀ c ∈ u.body a, isLowest c = false := fun c hc =>
  high_of_isBodyChar (h.isBodyChar_of_mem c hc)

theorem high_chars (h : u.HasHost a) : ∀ c ∈ u.chars, isLowest c = false := by
  have hmark : ∀ {mark : Char} {part : Option (List Char)}, isLowest mark = false →
      (∀ cs, part = some cs → ∀ c ∈ cs, isLowest c = false) →
      ∀ c ∈ part.elim [] (mark :: ·), isLowest c = false := by
    intro mark part hm hp
    cases part with
    | none => exact nofun
    | some cs => exact List.forall_mem_cons.mpr ⟨hm, hp cs rfl⟩
  rw [chars_eq h.authority]
  simp only [List.forall_mem_append, List.forall_mem_cons]
  exact ⟨high_scheme h.special, by decide,
    ⟨h.high_body, hmark (by decide) fun q hq => (h.read.query q hq).high specialQuerySet_of_isLowest⟩,
    hmark (by decide) fun f hf => (h.read.fragment f hf).high fragmentSet_of_isLowest⟩

/-- the body is an authority and the path behind it -/
theorem parseBody_body (h : u.HasHost a) (more : Bool) :
    parseBody u.scheme more (u.body a) =
      (Host.parse a.host.chars).map fun host => (some { a with host := host }, u.path) := by
  have hr := h.isRead_authority
  obtain ⟨rest, hp⟩ := h.exists_path
  have hpath : pathBehind u.scheme ('/' :: rest) = '/' :: rest := by
    have hsettled := h.settledPath
    have hs := pathBehind_of_settled h.special hsettled (by simp [hp])
    rwa [withoutBreaks_of_high hsettled.high, hp] at hs
  have hd : (u.body a).dropWhile (endsAuthority true) = a.chars ++ '/' :: rest := by
    obtain ⟨c, cs, hc⟩ := List.exists_cons_of_ne_nil hr.chars_ne_nil
    have hn := (Bool.and_eq_true_iff.mp (hr.isAuthorityChar_of_mem c (hc ▸ List.mem_cons_self))).2
    show (a.chars ++ u.path).dropWhile (endsAuthority true) = _
    rw [hp, hc, List.cons_append, List.dropWhile_cons_of_neg (by simpa using hn)]
  unfold parseBody
  rw [withoutBreaks_of_high h.high_body, h.noFile, h.special]
  simp only [Bool.false_eq_true, if_false, if_true, hd, parseAuthority_chars h.special hr]
  cases Host.parse a.host.chars with
  | error f => rfl
  | ok host =>
    rw [hp]
    exact congrArg (fun path => Except.ok (some { a with host := host }, path)) hpath

/-- **What is written is read.** The written form of a URL that was read is the URL again, with the host that
is read from its written form. -/
theorem parse_chars (h : u.HasHost a) : parse u.chars =
    (Host.parse a.host.chars).map fun host =>
      { u with authority := some { a with host := host } } := by
  have hbody : ∀ mark, isBodyChar mark = false → mark ∉ u.body a := fun mark hn hm =>
    Bool.false_ne_true (hn.symm.trans (h.isBodyChar_of_mem mark hm))
  have hquery : '#' ∉ u.query.elim [] ('?' :: ·) := by
    intro hm
    cases hq : u.query with
    | none =>
      rw [hq] at hm
      cases hm
    | some q =>
      rw [hq] at hm
      rcases List.mem_cons.mp hm with hm | hm
      · cases hm
      · have he := (h.read.query q hq _ hm).2
        cases he
  have hfront : '#' ∉ u.body a ++ u.query.elim [] ('?' :: ·) := fun hm =>
    (List.mem_append.mp hm).elim (hbody _ (by decide)) hquery
  have hq := map_of_escaped specialQuerySet_of_isLowest h.read.query
  have hf := map_of_escaped fragmentSet_of_isLowest h.read.fragment
  unfold parse
  rw [trimmed_of_high h.high_chars, chars_eq h.authority, scheme?_special h.special]
  dsimp only
  rw [cut_elim hfront, cut_elim (hbody _ (by decide)), h.special, if_pos rfl, hq, hf, h.parseBody_body]
  cases Host.parse a.host.chars <;> rfl

end HasHost

end

/-- a text with a mark behind its scheme is read as a URL with a query or a fragment -/
theorem not_bare_of_mark {scheme rest : List Char} {u : Url} (hs : isSpecial scheme = true)
    (hh : ∀ c ∈ scheme ++ ':' :: rest, isLowest c = false) (hm : '#' ∈ rest ∨ '?' ∈ rest)
    (h : parse (scheme ++ ':' :: rest) = .ok u) : u.query ≠ none ∨ u.fragment ≠ none := by
  unfold parse at h
  rw [trimmed_of_high hh, scheme?_special hs] at h
  dsimp only at h
  obtain ⟨x, -, h⟩ := bind_eq_ok h
  rw [← Except.ok.inj h]
  by_cases hf : '#' ∈ rest
  · exact .inr (by simpa using cut_ne_none hf)
  · have hq := cut_ne_none (hm.resolve_left hf)
    refine .inl ?_
    rw [cut_of_not_mem hf]
    simpa using hq

end ServerConsole.Url
