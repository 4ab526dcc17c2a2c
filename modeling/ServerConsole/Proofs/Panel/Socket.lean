import ServerConsole.Panel.Address
import ServerConsole.Proofs.Text.Trim
import ServerConsole.Proofs.Url.Form
import ServerConsole.Proofs.Url.Parse
import ServerConsole.Proofs.Url.Path

/-!
# The address of the console channel

* `settledPath_socketPath`  the path of the channel is set as it stands, whatever the panel's path is;
* `Exchanged`           the schemes of the web and of sockets, which have one default port;
* `IsChannel`           an address of a server's channel below the URL of a panel;
* `socketUrl_faithful`  the address of a panel's URL is one, with every token.
-/

namespace ServerConsole.Panel

open Text Url

/-! ## paths -/

/-- the characters of identifiers and of the words of the panel's paths -/
def wordChars : List Char := "-0123456789abcdefghijklmnopqrstuvwxyz".toList

theorem settled_word {segment : List Char} (h : ∀ c ∈ segment, c ∈ wordChars) : Settled segment := by
  have hd : wordChars.all isSegmentChar = true := by decide
  have hp : '%' ∉ wordChars := by decide
  have hdot : '.' ∉ wordChars := by decide
  exact settled_of_dotless (fun c hc => List.all_eq_true.mp hd c (h c hc)) (fun hc => hp (h _ hc))
    fun hc => hdot (h _ hc)

theorem hexDigits_word {k n : Nat} : ∀ c ∈ hexDigits k n, c ∈ wordChars := by
  induction k generalizing n with
  | zero => exact nofun
  | succ k ih =>
    have hd : ∀ m : Fin 16, hexDigit m ∈ wordChars := by decide
    have hl : hexDigit (n % 16) ∈ wordChars := hd ⟨n % 16, Nat.mod_lt _ (by decide)⟩
    exact List.forall_mem_append.mpr ⟨ih, List.forall_mem_singleton.mpr hl⟩

theorem hyphenated_word {cs : List Char} (h : ∀ c ∈ cs, c ∈ wordChars) (ns : List Nat) :
    ∀ c ∈ ServerId.hyphenated ns cs, c ∈ wordChars := by
  induction ns generalizing cs with
  | nil => exact h
  | cons n ns ih =>
    have hf : ∀ c ∈ cs.take n, c ∈ wordChars := fun c hc => h c (List.mem_of_mem_take hc)
    have hb : ∀ c ∈ ServerId.hyphenated ns (cs.drop n), c ∈ wordChars :=
      ih fun c hc => h c (List.mem_of_mem_drop hc)
    exact List.forall_mem_append.mpr ⟨hf, List.forall_mem_cons.mpr ⟨by decide, hb⟩⟩

theorem settled_id (id : ServerId) : Settled id.chars :=
  settled_word (hyphenated_word hexDigits_word ServerId.groups)

theorem settledPath_word {word : List Char} (h : word.all wordChars.contains = true) :
    SettledPath ('/' :: word) := by
  have hs : Settled word := settled_word fun c hc => List.contains_iff_mem.mp (List.all_eq_true.mp h c hc)
  refine ⟨[word], List.forall_mem_singleton.mpr hs, ?_⟩
  simp [slashed]

theorem settledPath_serverPath (id : ServerId) : SettledPath (serverPath id) := by
  have hw : serverPath id =
      ('/' :: "api".toList) ++ ('/' :: "v1".toList) ++ ('/' :: "servers".toList) ++ '/' :: id.chars := by
    have hd : apiPath ++ "/servers/".toList =
        ('/' :: "api".toList) ++ ('/' :: "v1".toList) ++ ('/' :: "servers".toList) ++ ['/'] := by decide
    rw [serverPath, hd]
    simp
  have hi : SettledPath ('/' :: id.chars) :=
    ⟨[id.chars], List.forall_mem_singleton.mpr (settled_id id), by simp [slashed]⟩
  rw [hw]
  exact (((settledPath_word (by decide)).append (settledPath_word (by decide))).append
    (settledPath_word (by decide))).append hi

/-- whatever the panel's path is, nothing of the path of the channel is resolved or escaped -/
theorem settledPath_socketPath {path : List Char} (h : SettledPath path) (id : ServerId) :
    SettledPath (socketPath path id) := by
  have hl : SettledPath ('/' :: "logs".toList) := settledPath_word (by decide)
  exact (h.dropTail.append (settledPath_serverPath id)).append hl

theorem socketPath_eq (path : List Char) (id : ServerId) : socketPath path id =
    basePath path ++ "/api/v1/servers/".toList ++ id.chars ++ "/logs".toList := by
  have hw : apiPath ++ "/servers/".toList = "/api/v1/servers/".toList := by decide
  rw [socketPath, serverPath, hw]
  simp only [List.append_assoc]

theorem socketPath_ne_nil (path : List Char) (id : ServerId) : socketPath path id ≠ [] :=
  List.append_ne_nil_of_right_ne_nil _ (by decide)

/-! ## schemes -/

/-- the schemes that are exchanged: both are of the web, with one default port -/
structure Exchanged (scheme new : List Char) : Prop where
  special : isSpecial scheme = true ∧ isSpecial new = true
  noFile : isFile scheme = false ∧ isFile new = false
  port : defaultPort? new = defaultPort? scheme

theorem exchanged_socketScheme {scheme new : List Char} (h : socketScheme? scheme = some new) :
    Exchanged scheme new := by
  unfold socketScheme? at h
  split at h
  · rename_i hs
    obtain rfl := Option.some.inj h
    rcases hs with rfl | rfl <;> exact ⟨by decide, by decide, by decide⟩
  · split at h
    · rename_i hs
      obtain rfl := Option.some.inj h
      rcases hs with rfl | rfl <;> exact ⟨by decide, by decide, by decide⟩
    · cases h

section
variable {panel : Url} {a : Authority} {new : List Char}

theorem withScheme?_exchanged (he : Exchanged panel.scheme new) (ha : panel.authority = some a)
    (hh : a.host.isEmpty = false) :
    panel.withScheme? new =
      some { panel with scheme := new, authority := some { a with port := portBeside new a.port } } := by
  have hu : panel.hasHost = true := by
    rw [hasHost, ha, Option.any_some, hh]
    rfl
  have hs : panel.acceptsScheme new = true := by
    rw [acceptsScheme, he.special.1, he.special.2, he.noFile.2, hu]
    rfl
  rw [withScheme?, if_pos hs, ha]
  rfl

/-- a port is left out only when it is the one in effect without it -/
theorem portBeside_or (scheme : List Char) (port : Option UInt16) :
    (portBeside scheme port).or (defaultPort? scheme) = port.or (defaultPort? scheme) := by
  unfold portBeside
  split
  · rename_i hp
    rw [hp]
    cases defaultPort? scheme <;> rfl
  · rfl

end

/-! ## the address -/

/-- an address of the channel of a server below the URL of a panel: it is at the panel's place, its path is
the panel's without the slashes at the end, then the server's, and its query says the token and nothing else -/
structure IsChannel (panel : Url) (id : ServerId) (token : String) (u : Url) : Prop where
  place : ∃ a b, panel.authority = some a ∧ u.authority = some b ∧
    b.user = a.user ∧ b.password = a.password ∧ b.host = a.host
  port : u.port? = panel.port?
  path : ∃ base slashes, panel.path = base ++ slashes ∧ (∀ c ∈ slashes, c = '/') ∧
    base.getLast? ≠ some '/' ∧
    u.path = base ++ "/api/v1/servers/".toList ++ id.chars ++ "/logs".toList
  fragment : u.fragment = none
  query : ∃ q, u.query = some q ∧ '#' ∉ q ∧ formPairs q = [("token".toList, token.toList)]

theorem socketUrl_channel {cs : List Char} {panel : Url} (h : parse cs = .ok panel) {scheme : List Char}
    (hs : socketScheme? panel.scheme = some scheme) (id : ServerId) (token : String) :
    ∃ u, socketUrl panel id token = .ok u ∧ u.scheme = scheme ∧ IsChannel panel id token u := by
  have he := exchanged_socketScheme hs
  obtain ⟨a, rest, ha, hh, hp⟩ := parse_eq_ok h he.special.1 he.noFile.1
  have hpath : SettledPath panel.path := hp ▸ settledPath_pathBehind he.special.1 rest
  have hsocket := settledPath_socketPath hpath id
  unfold socketUrl
  rw [hs]
  dsimp only
  rw [withScheme?_exchanged he ha hh]
  refine ⟨_, rfl, rfl, ?_⟩
  constructor
  · exact ⟨a, _, ha, rfl, rfl, rfl, rfl⟩
  · show (portBeside scheme a.port).or (defaultPort? scheme) = panel.port?
    rw [portBeside_or, he.port, port?, ha]
    rfl
  · obtain ⟨slashes, hcut, hslashes⟩ := exists_dropTail_append (· == '/') panel.path
    refine ⟨basePath panel.path, slashes, hcut, fun c hc => beq_iff_eq.mp (hslashes c hc), ?_, ?_⟩
    · intro hlast
      exact absurd (getLast_dropTail hlast) (by decide)
    · show pathBehind scheme (withoutBreaks (socketPath panel.path id)) = _
      rw [pathBehind_of_settled he.special.2 hsocket (socketPath_ne_nil _ _), socketPath_eq]
  · rfl
  · exact ⟨_, rfl, not_mem_formPair (by decide) (by decide) (by decide) (by decide) _ _,
      formPairs_joinWith [(_, _)]⟩

/-- **The address of a channel.** Of a URL that was read, of the web or of sockets, secure or not: the
address is one of sockets, secure if the URL is, at the place of the URL, below its path, and its query says
the token whatever the token holds. No other URL has one. -/
theorem socketUrl_faithful {cs : List Char} {panel : Url} (h : parse cs = .ok panel) (id : ServerId)
    (token : String) :
    (panel.scheme = "http".toList ∨ panel.scheme = "ws".toList →
      ∃ u, socketUrl panel id token = .ok u ∧ u.scheme = "ws".toList ∧
        IsChannel panel id token u) ∧
    (panel.scheme = "https".toList ∨ panel.scheme = "wss".toList →
      ∃ u, socketUrl panel id token = .ok u ∧ u.scheme = "wss".toList ∧
        IsChannel panel id token u) ∧
    (panel.scheme ∉ ["http".toList, "ws".toList, "https".toList, "wss".toList] →
      socketUrl panel id token = .error (.config
        ("unsupported panel URL scheme '" ++ String.ofList panel.scheme ++ "'"))) := by
  refine ⟨fun hs => ?_, fun hs => ?_, fun hs => ?_⟩
  · exact socketUrl_channel h (if_pos hs) id token
  · have hn : ¬ (panel.scheme = "http".toList ∨ panel.scheme = "ws".toList) := by
      rcases hs with hs | hs <;> rw [hs] <;> decide
    exact socketUrl_channel h ((if_neg hn).trans (if_pos hs)) id token
  · have hn : socketScheme? panel.scheme = none := by
      simp only [List.mem_cons, not_or] at hs
      rw [socketScheme?, if_neg (not_or.mpr ⟨hs.1, hs.2.1⟩),
        if_neg (not_or.mpr ⟨hs.2.2.1, hs.2.2.2.1⟩)]
    rw [socketUrl, hn]

/-- credentials, a port, empty segments, a query and a fragment -/
def guestPanel : Url where
  scheme := "https".toList
  authority := some ⟨"ada".toList, "x".toList, .name "panel.example".toList, some 8443⟩
  path := "/base//".toList
  query := some "page=2".toList
  fragment := some "top".toList

theorem socketUrl_faithful_guest :
    parse "https://ada:x@panel.example:8443/base//?page=2#top".toList = .ok guestPanel ∧
      ∃ u, socketUrl guestPanel .nil "a&b=c#d+e%20 é€😀" = .ok u ∧ u.scheme = "wss".toList ∧
        IsChannel guestPanel .nil "a&b=c#d+e%20 é€😀" u := by
  have h : parse "https://ada:x@panel.example:8443/base//?page=2#top".toList = .ok guestPanel := by
    decide +kernel
  exact ⟨h, (socketUrl_faithful h .nil _).2.1 (.inl rfl)⟩

example :
    ((parse "http://localhost:8080/panel/".toList).bind fun panel =>
      (socketUrl panel .nil "t k").mapError fun _ => .noScheme).map Url.text =
    .ok "ws://localhost:8080/panel/api/v1/servers/00000000-0000-0000-0000-000000000000/logs?token=t+k" := by
  decide +kernel

end ServerConsole.Panel
