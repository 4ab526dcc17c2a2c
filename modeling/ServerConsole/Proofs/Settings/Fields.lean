import ServerConsole.Settings.File

/-!
# What a document says

The settings of a document are told field by field: a field is found by its name in a table, or by its place
in a list, and one that is not given has its default.

* `Value.holdsFields`, `Value.field?`  the values that may stand for a table of settings, and their fields;
* `Settings.Describes`       the settings that a document says;
* `parts?_eq`                the parts of a value are its fields;
* `ofToml?_eq_some_iff`      exactly those settings are read.
-/

namespace ServerConsole

open Toml

/-! ## definitions -/

namespace Toml.Value

/-- tables, lists, and moments, which have no field that counts -/
def holdsFields : Value → Bool
  | table _ _ | array _ | tables _ | moment _ => true
  | _ => false

/-- the value of a name in a table, or at a place in a list -/
def field? (v : Value) (place : Nat) (name : String) : Option Value :=
  match v with
  | table _ es => Entries.value? name es
  | array items => items[place]?
  | tables items => items[place]?.map (table .header)
  | _ => none

/-- a text that may be missing -/
def text? (v : Value) : Option (Option String) := v.string?.map some

end Toml.Value

/-- a field of one of the tables of a document -/
def Toml.Entries.field? (es : Entries) (table : String) (place : Nat) (name : String) : Option Value :=
  (es.value? table).bind (·.field? place name)

/-- fields by place and name -/
abbrev Fields := Nat → String → Option Value

structure PanelSettings.Says (fields : Fields) (p : PanelSettings) : Prop where
  url : partOr Value.text? none (fields 0 "url") = some p.url
  token : partOr Value.text? none (fields 1 "token") = some p.token

structure ConsoleSettings.Says (fields : Fields) (c : ConsoleSettings) : Prop where
  scrollback : partOr Value.word64? 1000 (fields 0 "scrollback_lines") = some c.scrollback
  patience : partOr Value.word64? 30 (fields 1 "power_timeout_secs") = some c.patience

structure ReconnectSettings.Says (fields : Fields) (r : ReconnectSettings) : Prop where
  initial : partOr Value.word64? 500 (fields 0 "initial_delay_ms") = some r.initial
  maximum : partOr Value.word64? 15000 (fields 1 "max_delay_ms") = some r.maximum
  maxAttempts : partOr Value.word32? 10 (fields 2 "max_attempts") = some r.maxAttempts

namespace Settings

/-- the settings that a document says: every field as it is given, or its default -/
structure Describes (es : Entries) (s : Settings) : Prop where
  tables : ∀ table ∈ ["panel", "console", "reconnect"], ∀ v, es.value? table = some v →
    v.holdsFields = true
  panel : s.panel.Says (es.field? "panel")
  console : s.console.Says (es.field? "console")
  reconnect : s.reconnect.Says (es.field? "reconnect")

end Settings

/-! ## tables -/

theorem parts?_eq (names : List String) (v : Value) :
    v.parts? names = if v.holdsFields then some (names.zipIdx.map fun p => v.field? p.2 p.1) else none := by
  have hfst : ∀ f : String → Option Value, names.map f = names.zipIdx.map fun p => f p.1 := by
    intro f
    have hm := List.map_map (f := Prod.fst) (g := f) (l := names.zipIdx)
    rw [List.zipIdx_map_fst] at hm
    exact hm
  cases v with
  | table origin es => exact congrArg some (hfst fun name => Entries.value? name es)
  | moment written => exact congrArg some (hfst fun _ => none)
  | array items | tables items => rfl
  | string | integer | bool | real => rfl

theorem PanelSettings.ofToml?_eq_some_iff {v : Value} {p : PanelSettings} :
    ofToml? v = some p ↔ v.holdsFields = true ∧ p.Says v.field? := by
  unfold ofToml?
  rw [parts?_eq]
  cases v.holdsFields with
  | false => exact ⟨nofun, nofun⟩
  | true =>
    show ((partOr Value.text? none (v.field? 0 "url")).bind fun url =>
      (partOr Value.text? none (v.field? 1 "token")).bind fun token =>
        some (⟨url, token⟩ : PanelSettings)) = some p ↔ _
    simp only [Option.bind_eq_some_iff, Option.some_inj, true_and]
    constructor
    · rintro ⟨_, hu, _, ht, rfl⟩
      exact ⟨hu, ht⟩
    · rintro ⟨hu, ht⟩
      exact ⟨_, hu, _, ht, rfl⟩

theorem ConsoleSettings.ofToml?_eq_some_iff {v : Value} {c : ConsoleSettings} :
    ofToml? v = some c ↔ v.holdsFields = true ∧ c.Says v.field? := by
  unfold ofToml?
  rw [parts?_eq]
  cases v.holdsFields with
  | false => exact ⟨nofun, nofun⟩
  | true =>
    show ((partOr Value.word64? 1000 (v.field? 0 "scrollback_lines")).bind fun lines =>
      (partOr Value.word64? 30 (v.field? 1 "power_timeout_secs")).bind fun seconds =>
        some (⟨lines, seconds⟩ : ConsoleSettings)) = some c ↔ _
    simp only [Option.bind_eq_some_iff, Option.some_inj, true_and]
    constructor
    · rintro ⟨_, hs, _, hp, rfl⟩
      exact ⟨hs, hp⟩
    · rintro ⟨hs, hp⟩
      exact ⟨_, hs, _, hp, rfl⟩

theorem ReconnectSettings.ofToml?_eq_some_iff {v : Value} {r : ReconnectSettings} :
    ofToml? v = some r ↔ v.holdsFields = true ∧ r.Says v.field? := by
  unfold ofToml?
  rw [parts?_eq]
  cases v.holdsFields with
  | false => exact ⟨nofun, nofun⟩
  | true =>
    show ((partOr Value.word64? 500 (v.field? 0 "initial_delay_ms")).bind fun initial =>
      (partOr Value.word64? 15000 (v.field? 1 "max_delay_ms")).bind fun maximum =>
        (partOr Value.word32? 10 (v.field? 2 "max_attempts")).bind fun attempts =>
          some (⟨initial, maximum, attempts⟩ : ReconnectSettings)) = some r ↔ _
    simp only [Option.bind_eq_some_iff, Option.some_inj, true_and]
    constructor
    · rintro ⟨_, hi, _, hm, _, ha, rfl⟩
      exact ⟨hi, hm, ha⟩
    · rintro ⟨hi, hm, ha⟩
      exact ⟨_, hi, _, hm, _, ha, rfl⟩

/-! ## documents -/

/-- a table that is missing is read like one without fields -/
theorem partOr_table_iff {α : Type} {read : Value → Option α} {default : α} {told : Fields → α → Prop}
    (hnone : ∀ x, default = x ↔ told (fun _ _ => none) x)
    (hsome : ∀ v x, read v = some x ↔ v.holdsFields = true ∧ told v.field? x)
    (es : Entries) (table : String) (x : α) : partOr read default (es.value? table) = some x ↔
      (∀ v, es.value? table = some v → v.holdsFields = true) ∧ told (es.field? table) x := by
  unfold Toml.Entries.field?
  cases es.value? table with
  | none =>
    show some default = some x ↔ _
    rw [Option.some_inj, hnone]
    exact ⟨fun h => ⟨nofun, h⟩, fun h => h.2⟩
  | some v =>
    show read v = some x ↔ _
    rw [hsome]
    exact ⟨fun h => ⟨fun _ hv => Option.some.inj hv ▸ h.1, h.2⟩, fun h => ⟨h.1 v rfl, h.2⟩⟩

theorem PanelSettings.standard_iff (p : PanelSettings) : standard = p ↔ p.Says fun _ _ => none :=
  ⟨fun h => h ▸ ⟨rfl, rfl⟩, fun ⟨hu, ht⟩ => by cases p; cases hu; cases ht; rfl⟩

theorem ConsoleSettings.standard_iff (c : ConsoleSettings) : standard = c ↔ c.Says fun _ _ => none :=
  ⟨fun h => h ▸ ⟨rfl, rfl⟩, fun ⟨hs, hp⟩ => by cases c; cases hs; cases hp; rfl⟩

theorem ReconnectSettings.standard_iff (r : ReconnectSettings) : standard = r ↔ r.Says fun _ _ => none :=
  ⟨fun h => h ▸ ⟨rfl, rfl, rfl⟩, fun ⟨hi, hm, ha⟩ => by cases r; cases hi; cases hm; cases ha; rfl⟩

theorem Settings.ofToml?_eq_some_iff {es : Entries} {s : Settings} :
    ofToml? es = some s ↔ s.Describes es := by
  have hp := partOr_table_iff PanelSettings.standard_iff
    (fun _ _ => PanelSettings.ofToml?_eq_some_iff) es "panel"
  have hc := partOr_table_iff ConsoleSettings.standard_iff
    (fun _ _ => ConsoleSettings.ofToml?_eq_some_iff) es "console"
  have hr := partOr_table_iff ReconnectSettings.standard_iff
    (fun _ _ => ReconnectSettings.ofToml?_eq_some_iff) es "reconnect"
  show ((partOr PanelSettings.ofToml? .standard (es.value? "panel")).bind fun panel =>
    (partOr ConsoleSettings.ofToml? .standard (es.value? "console")).bind fun console =>
      (partOr ReconnectSettings.ofToml? .standard (es.value? "reconnect")).bind fun reconnect =>
        some (⟨panel, console, reconnect⟩ : Settings)) = some s ↔ _
  simp only [Option.bind_eq_some_iff, Option.some_inj, hp, hc, hr]
  constructor
  · rintro ⟨panel, ⟨hpt, hp⟩, console, ⟨hct, hc⟩, reconnect, ⟨hrt, hr⟩, rfl⟩
    refine ⟨?_, hp, hc, hr⟩
    rw [List.forall_mem_cons, List.forall_mem_cons, List.forall_mem_singleton]
    exact ⟨hpt, hct, hrt⟩
  · rintro ⟨ht, hp, hc, hr⟩
    rw [List.forall_mem_cons, List.forall_mem_cons, List.forall_mem_singleton] at ht
    exact ⟨_, ⟨ht.1, hp⟩, _, ⟨ht.2.1, hc⟩, _, ⟨ht.2.2, hr⟩, rfl⟩

end ServerConsole
