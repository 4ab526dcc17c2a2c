import ServerConsole.Proofs.CommandLine.Flags
import ServerConsole.Proofs.Link.Schedule
import ServerConsole.Proofs.Settings.Fields

/-!
# Layers of settings

Over the defaults lie a file, the environment and the command line, and what they come to is checked.

* `source?`, `Found`     the file that is read, and the entries found in it;
* `Unusable`             a file that cannot be read, or whose text says no settings;
* `layered`              what lies over the settings of a document;
* `Broken`               some bound does not hold;
* `base_eq_ok_iff`, `exists_base_error_iff`  what is read of the file;
* `options_bounded`      what a session relies on;
* `settings_layered`     the settings of any command line, environment and files.
-/

namespace ServerConsole

/-! ## definitions -/

namespace Settings

/-- the text of a file that can be read -/
def textOf (files : Files) (path : String) : Option (List Char) := (files path).bind Text.decode?

/-- the file has no text, or its text is no document, or one whose values are not those of settings -/
def Unusable (files : Files) (path : String) : Prop :=
  ∀ cs es, textOf files path = some cs → Toml.parse cs = some es → ∀ s, ¬ Describes es s

/-- the entries of the file that is read, and none where there is no file -/
inductive Found (files : Files) : Option String → Toml.Entries → Prop
  | nothing : Found files none []
  | document {path : String} {cs : List Char} {es : Toml.Entries} (ht : textOf files path = some cs)
      (hp : Toml.parse cs = some es) : Found files (some path) es

/-- some bound does not hold -/
def Broken (s : Settings) : Prop :=
  s.console.scrollback = 0 ∨ s.console.patience = 0 ∨ s.reconnect.initial = 0 ∨
    s.reconnect.maximum < s.reconnect.initial

end Settings

namespace Arguments

open Settings

/-- the file named by a flag, or the default one if it is there -/
def source? (words : List String) (defaultPath : String) (isThere : Bool) : Option String :=
  (flag? words .config).or (if isThere then some defaultPath else none)

/-- flags, over the environment, over the settings of a document -/
def layered (words : List String) (env : Environment) (s : Settings) : Settings where
  panel := {
    url := ((flag? words .panelUrl).or (env "BIRDACTYL_PANEL_URL")).or s.panel.url
    token := ((flag? words .token).or (env "BIRDACTYL_TOKEN")).or s.panel.token }
  console := { scrollback := (count? words).getD s.console.scrollback, patience := s.console.patience }
  reconnect := s.reconnect

end Arguments

/-! ## bounds -/

namespace Settings

theorem check_eq_ok_iff {s : Settings} : s.check = .ok () ↔ ¬ s.Broken := by
  unfold check Broken
  split
  · next h => exact ⟨nofun, fun hn => absurd (.inl h) hn⟩
  next h1 =>
  split
  · next h => exact ⟨nofun, fun hn => absurd (.inr (.inl h)) hn⟩
  next h2 =>
  split
  · next h => exact ⟨nofun, fun hn => absurd (.inr (.inr (.inl h))) hn⟩
  next h3 =>
  split
  · next h => exact ⟨nofun, fun hn => absurd (.inr (.inr (.inr h))) hn⟩
  next h4 => exact ⟨fun _ => not_or.mpr ⟨h1, not_or.mpr ⟨h2, not_or.mpr ⟨h3, h4⟩⟩⟩, fun _ => rfl⟩

theorem one_le_toNat {n : UInt64} (h : n ≠ 0) : 1 ≤ n.toNat :=
  Nat.one_le_iff_ne_zero.mpr fun h0 => h (UInt64.toNat_inj.mp h0)

/-- what a session relies on -/
theorem options_bounded {s : Settings} {o : Session.Options} (hs : ¬ s.Broken) (ho : s.options = .ok o) :
    1 ≤ o.scrollback ∧ 1 ≤ o.patience ∧ o.reconnect.Bounded := by
  obtain ⟨panel, -, ho⟩ := bind_eq_ok ho
  obtain ⟨token, -, ho⟩ := bind_eq_ok ho
  obtain rfl := Except.ok.inj ho
  exact ⟨one_le_toNat fun h => hs (.inl h), one_le_toNat fun h => hs (.inr (.inl h)),
    Link.Policy.bounded_of_check (check_eq_ok_iff.mpr hs)⟩

/-! ## files -/

section
variable {files : Files} {path : String} {cs : List Char} {s : Settings}

theorem ofText?_eq_some_iff : ofText? cs = some s ↔ ∃ es, Toml.parse cs = some es ∧ Describes es s := by
  unfold ofText?
  rw [Option.bind_eq_some_iff]
  exact exists_congr fun es => and_congr_right fun _ => ofToml?_eq_some_iff

theorem ofFile_eq_ok_iff :
    ofFile files path = .ok s ↔ ∃ cs, textOf files path = some cs ∧ ofText? cs = some s := by
  unfold ofFile textOf
  cases files path with
  | none => exact ⟨nofun, nofun⟩
  | some bytes =>
    show ofBytes path bytes = .ok s ↔ ∃ cs, Text.decode? bytes = some cs ∧ ofText? cs = some s
    unfold ofBytes
    cases Text.decode? bytes with
    | none => exact ⟨nofun, nofun⟩
    | some cs =>
      dsimp only
      cases hs : ofText? cs with
      | none => exact ⟨nofun, fun ⟨_, hc, h⟩ => by rw [← Option.some.inj hc, hs] at h; cases h⟩
      | some t =>
        refine ⟨fun h => ⟨cs, rfl, Except.ok.inj h ▸ hs⟩, fun ⟨_, hc, h⟩ => ?_⟩
        rw [← Option.some.inj hc, hs] at h
        exact congrArg _ (Option.some.inj h)

theorem found_some_iff {es : Toml.Entries} :
    Found files (some path) es ↔ ∃ cs, textOf files path = some cs ∧ Toml.parse cs = some es :=
  ⟨fun | .document ht hp => ⟨_, ht, hp⟩, fun ⟨_, ht, hp⟩ => .document ht hp⟩

/-- a document that says nothing says the defaults, and nothing else -/
theorem describes_nil_iff : Describes [] s ↔ s = standard := by
  rw [← ofToml?_eq_some_iff]
  exact ⟨fun h => (Option.some.inj h).symm, fun h => h ▸ rfl⟩

end

end Settings

namespace Arguments

open Settings

/-! ## the file that is read -/

section
variable {words : List String} {a : Arguments} {files : Files} {defaultPath : String} {isThere : Bool}
  {s : Settings}

/-- what is read comes from the one file -/
theorem base_eq (a : Arguments) (files : Files) (defaultPath : String) (isThere : Bool) :
    a.base files defaultPath isThere =
      match a.config.or (if isThere then some defaultPath else none) with
      | some path => ofFile files path
      | none => .ok .standard := by
  unfold base ofDefaultFile
  cases a.config with
  | some path => rfl
  | none => cases isThere <;> rfl

variable (hc : a.config = flag? words .config)
include hc

theorem base_eq_ok_iff : a.base files defaultPath isThere = .ok s ↔
    ∃ es, Found files (source? words defaultPath isThere) es ∧ Describes es s := by
  rw [base_eq, hc]
  show (match source? words defaultPath isThere with
    | some path => ofFile files path
    | none => .ok .standard) = .ok s ↔ _
  cases source? words defaultPath isThere with
  | none =>
    constructor
    · intro h
      exact ⟨[], .nothing, describes_nil_iff.mpr (Except.ok.inj h).symm⟩
    · rintro ⟨_, ⟨⟩, hd⟩
      exact congrArg _ (describes_nil_iff.mp hd).symm
  | some path =>
    simp only [ofFile_eq_ok_iff, ofText?_eq_some_iff, found_some_iff]
    constructor
    · rintro ⟨cs, ht, es, hp, hd⟩
      exact ⟨es, ⟨cs, ht, hp⟩, hd⟩
    · rintro ⟨es, ⟨cs, ht, hp⟩, hd⟩
      exact ⟨cs, ht, es, hp, hd⟩

theorem exists_base_error_iff : (∃ f, a.base files defaultPath isThere = .error f) ↔
    ∃ path, source? words defaultPath isThere = some path ∧ Unusable files path := by
  constructor
  · rintro ⟨f, hf⟩
    cases hs : source? words defaultPath isThere with
    | none =>
      have hb : a.base files defaultPath isThere = .ok .standard :=
        (base_eq_ok_iff hc).mpr ⟨[], hs ▸ .nothing, describes_nil_iff.mpr rfl⟩
      rw [hb] at hf
      cases hf
    | some path =>
      refine ⟨path, rfl, fun cs es ht hp s hd => ?_⟩
      have hb : a.base files defaultPath isThere = .ok s :=
        (base_eq_ok_iff hc).mpr ⟨es, hs ▸ .document ht hp, hd⟩
      rw [hb] at hf
      cases hf
  · rintro ⟨path, hs, hu⟩
    cases hb : a.base files defaultPath isThere with
    | error f => exact ⟨f, rfl⟩
    | ok s =>
      obtain ⟨es, hf, hd⟩ := (base_eq_ok_iff hc).mp hb
      rw [hs] at hf
      obtain ⟨cs, ht, hp⟩ := found_some_iff.mp hf
      exact absurd hd (hu cs es ht hp s)

end

/-! ## loading -/

section
variable {words : List String} {env : Environment} {a : Arguments} {files : Files} {defaultPath : String}
  {isThere : Bool}

theorem apply_eq_layered (hp : parse words env = .ok a) (s : Settings) :
    a.apply s = layered words env s := by
  obtain ⟨hu, ht, -, hs⟩ := parse_flags hp
  unfold apply layered
  rw [hu, ht, hs]
  rfl

/-- the check is made of what lies on top, and changes nothing -/
theorem load_eq_ok_iff {t : Settings} : a.load files defaultPath isThere = .ok t ↔
    ∃ s, a.base files defaultPath isThere = .ok s ∧ t = a.apply s ∧ ¬ t.Broken := by
  constructor
  · intro h
    obtain ⟨s, hb, h⟩ := bind_eq_ok h
    obtain ⟨_, hc, h⟩ := bind_eq_ok h
    obtain rfl := Except.ok.inj h
    exact ⟨s, hb, rfl, check_eq_ok_iff.mp hc⟩
  · rintro ⟨s, hb, rfl, hn⟩
    unfold load
    rw [hb]
    show ((a.apply s).check >>= fun _ => pure (a.apply s)) = _
    rw [check_eq_ok_iff.mpr hn]
    rfl

theorem exists_load_error_iff : (∃ f, a.load files defaultPath isThere = .error f) ↔
    (∃ f, a.base files defaultPath isThere = .error f) ∨
      ∃ s, a.base files defaultPath isThere = .ok s ∧ (a.apply s).Broken := by
  cases hb : a.base files defaultPath isThere with
  | error f =>
    refine ⟨fun _ => .inl ⟨f, rfl⟩, fun _ => ⟨f, ?_⟩⟩
    unfold load
    rw [hb]
    rfl
  | ok s =>
    have hl : a.load files defaultPath isThere = (a.apply s).check >>= fun _ => pure (a.apply s) := by
      unfold load
      rw [hb]
      rfl
    rw [hl]
    constructor
    · rintro ⟨f, hf⟩
      refine .inr ⟨s, rfl, ?_⟩
      by_cases hn : (a.apply s).Broken
      · exact hn
      · rw [check_eq_ok_iff.mpr hn] at hf
        cases hf
    · rintro (⟨f, hf⟩ | ⟨_, hs, hn⟩)
      · cases hf
      obtain rfl := Except.ok.inj hs
      cases hk : (a.apply s).check with
      | error f => exact ⟨f, rfl⟩
      | ok u => exact absurd hn (check_eq_ok_iff.mp hk)

end

/-- **Settings, layer by layer.** Whatever the command line, the environment and the files are: loading
fails exactly if the file that is read is unusable, or if a bound is broken by what lies on top of it. What is
loaded otherwise is said by that file, field by field or by default, with the flags laid over it, and the
environment between the two for the address and the token. A session that is started with it keeps a
line or more, waits a second or more, and for a millisecond or more at first and no longer than at most. -/
theorem settings_layered {words : List String} {env : Environment} {a : Arguments}
    (hp : parse words env = .ok a) (files : Files) (defaultPath : String) (isThere : Bool) :
    ((∃ f, a.load files defaultPath isThere = .error f) ↔
        (∃ path, source? words defaultPath isThere = some path ∧ Unusable files path) ∨
          ∃ es s, Found files (source? words defaultPath isThere) es ∧ s.Describes es ∧
            (layered words env s).Broken) ∧
      (∀ t, a.load files defaultPath isThere = .ok t ↔
        ∃ es s, Found files (source? words defaultPath isThere) es ∧ s.Describes es ∧
          t = layered words env s ∧ ¬ t.Broken) ∧
      ∀ t o, a.load files defaultPath isThere = .ok t → t.options = .ok o →
        1 ≤ o.scrollback ∧ 1 ≤ o.patience ∧ Link.Nanos.ofMillis 1 ≤ o.reconnect.initial ∧
          o.reconnect.initial ≤ o.reconnect.maximum := by
  obtain ⟨-, -, hc, -⟩ := parse_flags hp
  refine ⟨?_, fun t => ?_, fun t o ht ho => ?_⟩
  · rw [exists_load_error_iff, exists_base_error_iff hc]
    refine or_congr_right ⟨?_, ?_⟩
    · rintro ⟨s, hb, hn⟩
      obtain ⟨es, hf, hd⟩ := (base_eq_ok_iff hc).mp hb
      exact ⟨es, s, hf, hd, apply_eq_layered hp s ▸ hn⟩
    · rintro ⟨es, s, hf, hd, hn⟩
      exact ⟨s, (base_eq_ok_iff hc).mpr ⟨es, hf, hd⟩, (apply_eq_layered hp s).symm ▸ hn⟩
  · rw [load_eq_ok_iff]
    constructor
    · rintro ⟨s, hb, ht, hn⟩
      obtain ⟨es, hf, hd⟩ := (base_eq_ok_iff hc).mp hb
      exact ⟨es, s, hf, hd, ht.trans (apply_eq_layered hp s), hn⟩
    · rintro ⟨es, s, hf, hd, ht, hn⟩
      exact ⟨s, (base_eq_ok_iff hc).mpr ⟨es, hf, hd⟩, ht.trans (apply_eq_layered hp s).symm, hn⟩
  · obtain ⟨_, -, -, hn⟩ := load_eq_ok_iff.mp ht
    obtain ⟨hs, hw, hb⟩ := options_bounded hn ho
    exact ⟨hs, hw, hb.positive, hb.ordered⟩

/-- the file has an address, a token and one of the delays; the address is that of the environment all the
same, and the token and the number of lines are those of the flags -/
theorem settings_layered_partial :
    ∃ a, (parse ["--scrollback", "250", "--token=t", "123e4567-e89b-12d3-a456-426614174000"]
        fun name => if name = panelUrlVariable then some "https://p" else none) = .ok a ∧
      ∃ es s, Found (fun _ => some (Text.encode
          "[panel]\nurl = 'https://q'\ntoken = 'u'\n[reconnect]\nmax_delay_ms = 9000".toList))
          (some "console.toml") es ∧ s.Describes es ∧
        (⟨⟨some "https://p", some "t"⟩, ⟨250, 30⟩, ⟨500, 9000, 10⟩⟩ : Settings) =
          layered ["--scrollback", "250", "--token=t", "123e4567-e89b-12d3-a456-426614174000"]
            (fun name => if name = panelUrlVariable then some "https://p" else none) s := by
  have hp := eq_ok_of_toOption (x := parse ["--scrollback", "250", "--token=t",
    "123e4567-e89b-12d3-a456-426614174000"]
    fun name => if name = panelUrlVariable then some "https://p" else none)
    (a := ⟨⟨⟨0x123e4567e89b12d3a456426614174000⟩⟩, some "https://p", some "t", none, some 250⟩)
    (by decide +kernel)
  refine ⟨_, hp, ?_⟩
  obtain ⟨es, s, hf, hd, ht, -⟩ := ((settings_layered hp (fun _ => some (Text.encode
    "[panel]\nurl = 'https://q'\ntoken = 'u'\n[reconnect]\nmax_delay_ms = 9000".toList))
    "console.toml" true).2.1 ⟨⟨some "https://p", some "t"⟩, ⟨250, 30⟩, ⟨500, 9000, 10⟩⟩).mp
    (eq_ok_of_toOption (by decide +kernel))
  exact ⟨es, s, hf, hd, ht⟩

end Arguments

end ServerConsole
