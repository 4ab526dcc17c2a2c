import ServerConsole.Proofs.Outcome
import ServerConsole.Proofs.Url.Percent
import ServerConsole.Url.Parse

/-!
# What is read of a special scheme

A URL of a special scheme that is no file's has an authority with a host, and behind it the path that was
written there.

* `Authority.IsRead`, `IsRead`  the authorities and the URLs that are read;
* `isRead_of_parse`     what is read is one of these.
-/

namespace ServerConsole.Url

open Text

/-! ## hosts -/

theorem isEmpty_bracketed {rest : List Char} {host : Host} (h : Host.bracketed rest = .ok host) :
    host.isEmpty = false := by
  unfold Host.bracketed at h
  split at h
  · split at h
    · rw [← Except.ok.inj h]
      rfl
    · cases h
  · cases h

theorem isEmpty_ofDomain {domain : List Char} {host : Host} (h : Host.ofDomain domain = .ok host) :
    host.isEmpty = false := by
  unfold Host.ofDomain at h
  split at h
  · cases h
  rename_i hn
  split at h
  · split at h
    · rw [← Except.ok.inj h]
      rfl
    · cases h
  · rw [← Except.ok.inj h]
    cases domain with
    | nil => exact absurd rfl hn
    | cons c cs => rfl

/-- the host of a special scheme is never empty -/
theorem isEmpty_host {cs : List Char} {host : Host} (h : Host.parse cs = .ok host) :
    host.isEmpty = false := by
  unfold Host.parse at h
  split at h
  · exact isEmpty_bracketed h
  · split at h
    · exact isEmpty_ofDomain h
    · cases h

/-! ## authorities -/

/-- an authority as it is read where a host is wanted: user and password are escaped, the host is one that
was read, and a port is not the one in effect without it -/
structure Authority.IsRead (scheme : List Char) (a : Authority) : Prop where
  user : Escaped userinfoSet a.user
  password : Escaped userinfoSet a.password
  host : ∃ text, Host.parse text = .ok a.host
  port : ∀ p, a.port = some p → defaultPort? scheme ≠ some p

theorem Authority.IsRead.isEmpty_host {scheme : List Char} {a : Authority} (h : a.IsRead scheme) :
    a.host.isEmpty = false := by
  obtain ⟨text, ht⟩ := h.host
  exact Url.isEmpty_host ht

section
variable {scheme cs : List Char}

theorem port_of_parsePort {port : Option UInt16} {rest : List Char}
    (h : parsePort scheme cs = .ok (port, rest)) :
    ∀ p, port = some p → defaultPort? scheme ≠ some p := by
  unfold parsePort at h
  dsimp only at h
  split at h
  · cases h
  have hp : ∀ value : UInt16, ∀ bare : Bool, ∀ p,
      (if bare || some value == defaultPort? scheme then none else some value) = some p →
        defaultPort? scheme ≠ some p := by
    intro value bare p hp
    split at hp
    · cases hp
    · rename_i hn
      rw [← Option.some.inj hp]
      intro hd
      rw [hd] at hn
      simp at hn
  split at h
  · rw [← (Prod.mk.inj (Except.ok.inj h)).1]
    exact hp _ _
  · rw [← (Prod.mk.inj (Except.ok.inj h)).1]
    exact hp _ _
  · cases h

variable (hs : isSpecial scheme = true)
include hs

theorem of_parseHostPort {x : Host × Option UInt16 × List Char}
    (h : parseHostPort scheme cs = .ok x) :
    (∃ text, Host.parse text = .ok x.1) ∧
      ∀ p, x.2.1 = some p → defaultPort? scheme ≠ some p := by
  unfold parseHostPort at h
  simp only [hs, Bool.true_and] at h
  split at h
  · cases h
  · rw [if_pos trivial] at h
    obtain ⟨host, hh, h⟩ := bind_eq_ok h
    split at h
    · rw [← Except.ok.inj h]
      exact ⟨⟨_, hh⟩, fun _ hp => absurd hp.symm (Option.some_ne_none _)⟩
    · rw [isEmpty_host hh] at h
      obtain ⟨y, hp, h⟩ := bind_eq_ok h
      rw [← Except.ok.inj h]
      exact ⟨⟨_, hh⟩, port_of_parsePort hp⟩

/-- the end of an authority, behind its user and password -/
theorem isRead_placed {user password place path : List Char} {x : Authority × List Char}
    (hu : Escaped userinfoSet user) (hp : Escaped userinfoSet password)
    (h : (do
      let (host, port, rest) ← parseHostPort scheme place
      let authority : Authority := ⟨user, password, host, port⟩
      if host.isEmpty && authority.hasCredentials then throw .emptyHost
      return (authority, rest ++ path)) = Except.ok x) : x.1.IsRead scheme := by
  obtain ⟨⟨host, port, rest⟩, hx, h⟩ := bind_eq_ok h
  obtain ⟨hh, hport⟩ := of_parseHostPort hs hx
  obtain ⟨text, ht⟩ := hh
  simp only [isEmpty_host ht, Bool.false_and] at h
  rw [← Except.ok.inj h]
  exact ⟨hu, hp, ⟨text, ht⟩, hport⟩

theorem isRead_parseAuthority {more : Bool} {x : Authority × List Char}
    (h : parseAuthority scheme more cs = .ok x) : x.1.IsRead scheme := by
  have hn := escaped_nil userinfoSet
  have he : ∀ text, Escaped userinfoSet (percentEncode userinfoSet text) :=
    escaped_percentEncode (by decide)
  unfold parseAuthority at h
  dsimp only at h
  split at h
  · exact isRead_placed hs hn hn h
  · split at h
    · cases h
    · exact isRead_placed hs hn hn h
  · exact isRead_placed hs (he _) (he _) h

theorem parseBody_eq_ok (hf : isFile scheme = false) {more : Bool} {x : Option Authority × List Char}
    (h : parseBody scheme more cs = .ok x) :
    ∃ a rest, x = (some a, pathBehind scheme rest) ∧ a.IsRead scheme := by
  unfold parseBody at h
  rw [hf, hs] at h
  obtain ⟨⟨a, rest⟩, ha, h⟩ := bind_eq_ok h
  exact ⟨a, rest, (Except.ok.inj h).symm, isRead_parseAuthority hs ha⟩

end

/-! ## URLs -/

/-- a URL as it is read where a host is wanted -/
structure IsRead (u : Url) : Prop where
  authority : ∃ a, u.authority = some a ∧ a.IsRead u.scheme
  path : ∃ rest, u.path = pathBehind u.scheme rest
  query : ∀ q, u.query = some q → Escaped specialQuerySet q
  fragment : ∀ f, u.fragment = some f → Escaped fragmentSet f

theorem isRead_of_parse {cs : List Char} {u : Url} (h : parse cs = .ok u)
    (hs : isSpecial u.scheme = true) (hf : isFile u.scheme = false) : u.IsRead := by
  unfold parse at h
  split at h
  · cases h
  · rename_i scheme rest _
    dsimp only at h
    obtain ⟨⟨authority, path⟩, hb, h⟩ := bind_eq_ok h
    obtain rfl := Except.ok.inj h
    obtain ⟨a, rest, hx, ha⟩ := parseBody_eq_ok hs hf hb
    obtain ⟨hauthority, hpath⟩ := Prod.mk.inj hx
    refine ⟨⟨a, hauthority, ha⟩, ⟨rest, hpath⟩, fun q hq => ?_, fun f hf => ?_⟩
    · obtain ⟨text, -, rfl⟩ := Option.map_eq_some_iff.mp hq
      rw [if_pos hs]
      exact escaped_percentEncode (by decide) _
    · obtain ⟨text, -, rfl⟩ := Option.map_eq_some_iff.mp hf
      exact escaped_percentEncode (by decide) _

theorem parse_eq_ok {cs : List Char} {u : Url} (h : parse cs = .ok u)
    (hs : isSpecial u.scheme = true) (hf : isFile u.scheme = false) :
    ∃ a rest, u.authority = some a ∧ a.host.isEmpty = false ∧
      u.path = pathBehind u.scheme rest := by
  have hr := isRead_of_parse h hs hf
  obtain ⟨⟨a, ha, hread⟩, rest, hp⟩ := hr.authority, hr.path
  exact ⟨a, rest, ha, hread.isEmpty_host, hp⟩

end ServerConsole.Url
