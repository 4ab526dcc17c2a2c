import ServerConsole.Proofs.Panel.Socket
import ServerConsole.Proofs.Url.Canonical
import ServerConsole.Proofs.Url.Written
import ServerConsole.Settings.Basic

/-!
# The addresses of the endpoints

An address is the text of the panel's URL with a path put behind it, so that it says what it should exactly if
the path is the last part of that text.

* `restUrl`            the URL of an endpoint, below the panel's path;
* `parse_restAddress`  what the address of an endpoint is read as, where the panel's URL ends with its path;
* `not_bare_of_parse`  a query or a fragment of the panel's URL stays one of the address;
* `rest_agrees_iff`    the addresses of the endpoints and of the channel belong together exactly where the
                       panel's URL has neither, and a host that is read as it is written.
-/

namespace ServerConsole.Panel

open Text Url

/-! ## paths -/

theorem settledPath_suffix (endpoint : Endpoint) : SettledPath endpoint.suffix.toList := by
  have hp : SettledPath ('/' :: "permissions".toList) := settledPath_word (by decide)
  have hs : SettledPath ('/' :: "status".toList) := settledPath_word (by decide)
  cases endpoint with
  | record => exact ⟨[], nofun, rfl⟩
  | permissions => exact hp
  | status => exact hs
  | power action =>
    have ha : action.name.toList.all wordChars.contains = true := by cases action <;> decide
    have hl : (Endpoint.power action).suffix.toList = '/' :: action.name.toList := by
      cases action <;> decide
    rw [hl]
    exact settledPath_word ha

/-- the path of an endpoint, below the path of the panel's URL -/
def restPath (path : List Char) (id : ServerId) (endpoint : Endpoint) : List Char :=
  basePath path ++ (serverPath id ++ endpoint.suffix.toList)

section
variable {panel : Url} {a : Authority} {id : ServerId} {endpoint : Endpoint}

theorem settledPath_restPath {path : List Char} (h : SettledPath path) :
    SettledPath (restPath path id endpoint) :=
  h.dropTail.append ((settledPath_serverPath id).append (settledPath_suffix endpoint))

theorem restPath_ne_nil (path : List Char) : restPath path id endpoint ≠ [] :=
  List.append_ne_nil_of_right_ne_nil _
    (List.append_ne_nil_of_left_ne_nil (List.append_ne_nil_of_left_ne_nil (by decide) _) _)

/-! ## the text of an address -/

def restUrl (panel : Url) (id : ServerId) (endpoint : Endpoint) : Url :=
  { panel with path := restPath panel.path id endpoint, query := none, fragment := none }

theorem hasHost_restUrl (h : panel.HasHost a) : (restUrl panel id endpoint).HasHost a where
  special := h.special
  noFile := h.noFile
  authority := h.authority
  read :=
    { authority := h.read.authority
      path := ⟨_, (pathBehind_of_settled h.special (settledPath_restPath h.settledPath)
        (restPath_ne_nil _)).symm⟩
      query := nofun
      fragment := nofun }

theorem restAddress_eq (h : panel.HasHost a) (hq : panel.query = none) (hf : panel.fragment = none) :
    restAddress panel id endpoint = (restUrl panel id endpoint).chars := by
  have hr := h.isRead_authority
  obtain ⟨front, c, hc⟩ : ∃ front c, a.chars = front ++ [c] :=
    ⟨_, _, (List.dropLast_append_getLast hr.chars_ne_nil).symm⟩
  have hslash : (c == '/') = false := by
    have hm := hr.isAuthorityChar_of_mem c (hc ▸ List.mem_append_right _ (List.mem_singleton_self c))
    rw [Bool.eq_false_iff]
    intro he
    obtain rfl := beq_iff_eq.mp he
    cases hm
  have hbase : basePath panel.chars =
      panel.scheme ++ ':' :: '/' :: '/' :: (a.chars ++ basePath panel.path) := by
    have hl : panel.chars = (panel.scheme ++ ':' :: '/' :: '/' :: front) ++ c :: panel.path := by
      rw [chars_eq h.authority, hq, hf, body, hc]
      simp
    rw [hl, basePath, dropTail_append_cons (p := (· == '/')) hslash, hc]
    simp [basePath]
  rw [restAddress, hbase, chars_eq (hasHost_restUrl h).authority]
  simp [restUrl, restPath, body]

/-- where the panel's URL ends with its path, the address of an endpoint is read as the URL of the endpoint,
with the host that is read from its written form -/
theorem parse_restAddress (h : panel.HasHost a) (hq : panel.query = none) (hf : panel.fragment = none) :
    parse (restAddress panel id endpoint) = (Host.parse a.host.chars).map fun host =>
      { restUrl panel id endpoint with authority := some { a with host := host } } := by
  rw [restAddress_eq h hq hf, (hasHost_restUrl h).parse_chars]

/-- nothing of an address is blank -/
theorem high_restAddress (h : panel.HasHost a) :
    ∀ c ∈ restAddress panel id endpoint, isLowest c = false := by
  have hp := ((settledPath_serverPath id).append (settledPath_suffix endpoint)).high
  intro c hc
  rw [restAddress, List.append_assoc] at hc
  rcases List.mem_append.mp hc with hc | hc
  · obtain ⟨slashes, hcut, -⟩ := exists_dropTail_append (· == '/') panel.chars
    exact h.high_chars c (hcut ▸ List.mem_append_left _ hc)
  · exact hp c hc

/-- a mark of the panel's text, with what is in front of it, is still there -/
theorem restAddress_marked {mark : Char} (hm : (mark == '/') = false) {front back : List Char}
    (hl : panel.chars = panel.scheme ++ ':' :: (front ++ mark :: back)) :
    ∃ rest, restAddress panel id endpoint = panel.scheme ++ ':' :: rest ∧ mark ∈ rest := by
  have hr : panel.scheme ++ ':' :: (front ++ mark :: back) =
      (panel.scheme ++ ':' :: front) ++ mark :: back := by simp
  rw [restAddress, basePath, hl, hr, dropTail_append_cons (p := (· == '/')) hm]
  refine ⟨front ++ mark :: (dropTail (· == '/') back ++ (serverPath id ++ endpoint.suffix.toList)),
    by simp, by simp⟩

/-- a query or a fragment of the panel's URL is not cut off -/
theorem not_bare_of_parse (h : panel.HasHost a) (hm : panel.query ≠ none ∨ panel.fragment ≠ none)
    {u : Url} (hu : parse (restAddress panel id endpoint) = .ok u) :
    u.query ≠ none ∨ u.fragment ≠ none := by
  have hmark : ∃ rest, restAddress panel id endpoint = panel.scheme ++ ':' :: rest ∧
      ('#' ∈ rest ∨ '?' ∈ rest) := by
    have hl := chars_eq h.authority
    cases hf : panel.fragment with
    | some f =>
      rw [hf] at hl
      obtain ⟨rest, he, hr⟩ := restAddress_marked (by decide) hl
      exact ⟨rest, he, .inl hr⟩
    | none =>
      obtain ⟨q, hq⟩ := Option.ne_none_iff_exists'.mp (hm.resolve_right (fun hn => hn hf))
      rw [hf, hq, Option.elim_none, List.append_nil] at hl
      obtain ⟨rest, he, hr⟩ := restAddress_marked (by decide) hl
      exact ⟨rest, he, .inr hr⟩
  obtain ⟨rest, he, hr⟩ := hmark
  exact not_bare_of_mark h.special (he ▸ high_restAddress h) hr (he ▸ hu)

end

/-! ## agreement -/

/-- what the address of an endpoint is read as belongs to the address of the channel: host and port are the
same, there is no query and no fragment, and both paths are below one base, which has no slash at its end -/
structure Agrees (panel : Url) (id : ServerId) (endpoint : Endpoint) (channel u : Url) : Prop where
  host : ∃ a b, u.authority = some a ∧ channel.authority = some b ∧ a.host = b.host
  port : u.port? = channel.port?
  query : u.query = none
  fragment : u.fragment = none
  path : ∃ base slashes, panel.path = base ++ slashes ∧ (∀ c ∈ slashes, c = '/') ∧
    base.getLast? ≠ some '/' ∧
    channel.path = base ++ "/api/v1/servers/".toList ++ id.chars ++ "/logs".toList ∧
    u.path = base ++ "/api/v1/servers/".toList ++ id.chars ++ endpoint.suffix.toList

theorem exists_parse_of_panelUrl {settings : Settings} {panel : Url}
    (h : settings.panelUrl = .ok panel) : ∃ cs, parse cs = .ok panel := by
  unfold Settings.panelUrl at h
  split at h
  · cases h
  · split at h
    · next hu =>
      rw [← Except.ok.inj h]
      exact ⟨_, hu⟩
    · cases h

section
variable {panel channel : Url} {a : Authority} {id : ServerId} {endpoint : Endpoint} {token : String}

theorem restPath_eq {path base slashes : List Char} (hp : path = base ++ slashes)
    (hs : ∀ c ∈ slashes, c = '/') (hb : base.getLast? ≠ some '/') : restPath path id endpoint =
      base ++ "/api/v1/servers/".toList ++ id.chars ++ endpoint.suffix.toList := by
  have hbase : basePath path = base := by
    rw [hp]
    refine dropTail_append (p := (· == '/')) (fun c hc => beq_iff_eq.mpr (hs c hc)) fun c hc => ?_
    rw [beq_eq_false_iff_ne]
    rintro rfl
    exact hb hc
  have hw : apiPath ++ "/servers/".toList = "/api/v1/servers/".toList := by decide
  rw [restPath, hbase, serverPath, hw]
  simp only [List.append_assoc]

theorem agrees_restUrl (h : panel.HasHost a) (hc : IsChannel panel id token channel) :
    Agrees panel id endpoint channel { restUrl panel id endpoint with authority := some a } where
  host := by
    obtain ⟨a', b, ha, hb, -, -, hh⟩ := hc.place
    rw [h.authority] at ha
    obtain rfl := Option.some.inj ha
    exact ⟨a, b, rfl, hb, hh.symm⟩
  port := by
    rw [hc.port, port?, port?, h.authority]
    rfl
  query := rfl
  fragment := rfl
  path := by
    obtain ⟨base, slashes, hp, hs, hb, hpath⟩ := hc.path
    exact ⟨base, slashes, hp, hs, hb, hpath, restPath_eq hp hs hb⟩

/-- the host of an address that agrees is the panel's -/
theorem host_of_agrees (h : panel.HasHost a) (hq : panel.query = none) (hf : panel.fragment = none)
    (hc : IsChannel panel id token channel) {u : Url}
    (hu : parse (restAddress panel id endpoint) = .ok u) (hagree : Agrees panel id endpoint channel u) :
    Host.parse a.host.chars = .ok a.host := by
  rw [parse_restAddress h hq hf] at hu
  cases hh : Host.parse a.host.chars with
  | error fault =>
    rw [hh] at hu
    cases hu
  | ok host =>
    rw [hh] at hu
    obtain rfl := Except.ok.inj hu
    obtain ⟨b, c, hb, hc', hhost⟩ := hagree.host
    obtain ⟨a', c', ha, hc'', -, -, hplace⟩ := hc.place
    rw [h.authority] at ha
    obtain rfl := Option.some.inj ha
    rw [hc'] at hc''
    obtain rfl := Option.some.inj hc''
    obtain rfl := Option.some.inj hb
    rw [← hplace, ← hhost]

theorem agrees_iff (h : panel.HasHost a) (hc : IsChannel panel id token channel) :
    (∃ u, parse (restAddress panel id endpoint) = .ok u ∧ Agrees panel id endpoint channel u) ↔
      panel.query = none ∧ panel.fragment = none ∧ Host.parse a.host.chars = .ok a.host := by
  constructor
  · rintro ⟨u, hu, hagree⟩
    have hbare : panel.query = none ∧ panel.fragment = none := by
      by_contra hn
      rcases not_bare_of_parse h (not_and_or.mp hn) hu with hq | hf
      · exact hq hagree.query
      · exact hf hagree.fragment
    exact ⟨hbare.1, hbare.2, host_of_agrees h hbare.1 hbare.2 hc hu hagree⟩
  · rintro ⟨hq, hf, hh⟩
    refine ⟨_, ?_, agrees_restUrl h hc⟩
    rw [parse_restAddress h hq hf, hh]
    rfl

end

/-- **The addresses of the endpoints.** Of a URL of the web that was set: the channel has an address, and the
address of an endpoint is read as one that agrees with it exactly if the URL has neither a query nor a
fragment, and a host that is read as it is written, which every plain host is. -/
theorem rest_agrees_iff {settings : Settings} {panel : Url} (h : settings.panelUrl = .ok panel)
    (hs : panel.scheme = "http".toList ∨ panel.scheme = "https".toList) (id : ServerId)
    (endpoint : Endpoint) (token : String) :
    ∃ a channel, panel.authority = some a ∧ socketUrl panel id token = .ok channel ∧
      ((∃ u, parse (restAddress panel id endpoint) = .ok u ∧ Agrees panel id endpoint channel u) ↔
        panel.query = none ∧ panel.fragment = none ∧ Host.parse a.host.chars = .ok a.host) ∧
      (a.host.IsPlain → Host.parse a.host.chars = .ok a.host) := by
  obtain ⟨cs, hp⟩ := exists_parse_of_panelUrl h
  have hspecial : isSpecial panel.scheme = true ∧ isFile panel.scheme = false := by
    rcases hs with hs | hs <;> rw [hs] <;> decide
  have hscheme : ∃ scheme, socketScheme? panel.scheme = some scheme := by
    rcases hs with hs | hs <;> rw [hs] <;> exact ⟨_, rfl⟩
  obtain ⟨scheme, hscheme⟩ := hscheme
  obtain ⟨a, ha⟩ := hasHost_of_parse hp hspecial.1 hspecial.2
  obtain ⟨channel, hc, -, hchannel⟩ := socketUrl_channel hp hscheme id token
  obtain ⟨text, htext⟩ := ha.isRead_authority.host
  exact ⟨a, channel, ha.authority, hc, agrees_iff ha hchannel, Host.parse_plain htext⟩

/-- credentials, a port and empty segments, but neither a query nor a fragment -/
def basePanel : Url := { guestPanel with query := none, fragment := none }

def settingsAt (url : String) : Settings := { Settings.standard with panel := ⟨some url, none⟩ }

theorem rest_agrees_base :
    (settingsAt " https://ada:x@panel.example:8443/base// ").panelUrl = .ok basePanel ∧
      ∃ channel u, socketUrl basePanel .nil "t" = .ok channel ∧
        parse (restAddress basePanel .nil .status) = .ok u ∧
        Agrees basePanel .nil .status channel u := by
  have h : (settingsAt " https://ada:x@panel.example:8443/base// ").panelUrl = .ok basePanel := by
    decide +kernel
  refine ⟨h, ?_⟩
  obtain ⟨a, channel, ha, hc, hiff, hplain⟩ := rest_agrees_iff h (.inr rfl) .nil .status "t"
  have hhost : a.host.IsPlain := by
    rw [← Option.some.inj ha]
    exact ⟨List.all_eq_true.mp (by decide), by decide⟩
  obtain ⟨u, hu, hagree⟩ := hiff.mpr ⟨rfl, rfl, hplain hhost⟩
  exact ⟨channel, u, hc, hu, hagree⟩

/-- a panel with a query: what should be the path of an endpoint is a part of the query -/
def queryPanel : Url where
  scheme := "http".toList
  authority := some (.nobody (.name "panel.example".toList) none)
  path := "/".toList
  query := some "x=1".toList
  fragment := none

theorem rest_path_in_query :
    (settingsAt "http://panel.example/?x=1").panelUrl = .ok queryPanel ∧
      parse (restAddress queryPanel .nil .status) = .ok { queryPanel with
        query := some "x=1/api/v1/servers/00000000-0000-0000-0000-000000000000/status".toList } ∧
      ¬ ∃ channel u, socketUrl queryPanel .nil "t" = .ok channel ∧
        parse (restAddress queryPanel .nil .status) = .ok u ∧
        Agrees queryPanel .nil .status channel u := by
  have hu : parse (restAddress queryPanel .nil .status) = .ok { queryPanel with
      query := some "x=1/api/v1/servers/00000000-0000-0000-0000-000000000000/status".toList } := by
    decide +kernel
  refine ⟨by decide +kernel, hu, ?_⟩
  rintro ⟨channel, u, -, hp, hagree⟩
  rw [hu] at hp
  obtain rfl := Except.ok.inj hp
  cases hagree.query

end ServerConsole.Panel
