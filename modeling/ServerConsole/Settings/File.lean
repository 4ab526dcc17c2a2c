import ServerConsole.Settings.Basic
import ServerConsole.Toml.Document

/-!
# The settings file

A TOML document with the tables `panel`, `console` and `reconnect`. What it does not set keeps its
default, and what it sets beyond that is ignored. A table may also be given as a list of its values in
order.

* `parts?`           the values of a table by name, or of a list by place;
* `Settings.ofToml?` the settings of a document;
* `Settings.ofBytes` the settings of a file's content.
-/

namespace ServerConsole

open Toml

/-! ## values -/

namespace Toml.Value

def string? : Value → Option String
  | string s => some s
  | _ => none

/-- a number from zero to a bound -/
def natural? (limit : Nat) : Value → Option Nat
  | integer (.ofNat n) => if n ≤ limit then some n else none
  | _ => none

def word64? (v : Value) : Option UInt64 := (v.natural? (UInt64.size - 1)).map Nat.toUInt64

def word32? (v : Value) : Option UInt32 := (v.natural? (UInt32.size - 1)).map Nat.toUInt32

/-- the values of the named parts; a moment has none of them, any other value no parts at all -/
def parts? (names : List String) : Value → Option (List (Option Value))
  | table _ es => some (names.map fun name => Entries.value? name es)
  | array items => some (names.zipIdx.map fun part => items[part.2]?)
  | tables items => some (names.zipIdx.map fun part => (items[part.2]?).map (table .header))
  | moment _ => some (names.map fun _ => none)
  | _ => none

end Toml.Value

/-- a part read as it has to be, or its default when it is not given -/
def partOr {α : Type} (read : Value → Option α) (default : α) : Option Value → Option α
  | none => some default
  | some v => read v

/-! ## tables -/

def PanelSettings.ofToml? (v : Value) : Option PanelSettings := do
  match ← v.parts? ["url", "token"] with
  | [url, token] =>
    let text (v : Value) : Option (Option String) := v.string?.map some
    return ⟨← partOr text none url, ← partOr text none token⟩
  | _ => none

def ConsoleSettings.ofToml? (v : Value) : Option ConsoleSettings := do
  match ← v.parts? ["scrollback_lines", "power_timeout_secs"] with
  | [lines, seconds] =>
    return ⟨← partOr Value.word64? standard.scrollback lines,
      ← partOr Value.word64? standard.patience seconds⟩
  | _ => none

def ReconnectSettings.ofToml? (v : Value) : Option ReconnectSettings := do
  match ← v.parts? ["initial_delay_ms", "max_delay_ms", "max_attempts"] with
  | [initial, maximum, attempts] =>
    return ⟨← partOr Value.word64? standard.initial initial,
      ← partOr Value.word64? standard.maximum maximum,
      ← partOr Value.word32? standard.maxAttempts attempts⟩
  | _ => none

namespace Settings

def ofToml? (es : Entries) : Option Settings :=
  return ⟨← partOr PanelSettings.ofToml? .standard (es.value? "panel"),
    ← partOr ConsoleSettings.ofToml? .standard (es.value? "console"),
    ← partOr ReconnectSettings.ofToml? .standard (es.value? "reconnect")⟩

def ofText? (cs : List Char) : Option Settings := (Toml.parse cs).bind ofToml?

/-! ## files -/

/-- what a path leads to: nothing that can be read, or bytes -/
abbrev Files := String → Option (List UInt8)

/-- a file that is there; its content has to be UTF-8 -/
def ofBytes (path : String) (bytes : List UInt8) : Except Failure Settings :=
  match Text.decode? bytes with
  | none => .error (.fileRead path "stream did not contain valid UTF-8")
  | some cs =>
    match ofText? cs with
    | none => .error (.configInvalid path "malformed document")
    | some s => .ok s

/-- a file that has to be there -/
def ofFile (files : Files) (path : String) : Except Failure Settings :=
  match files path with
  | none => .error (.fileRead path "No such file or directory")
  | some bytes => ofBytes path bytes

/-- a file that may be missing; what stands in its place has to be readable, and what is readable does
stand there -/
def ofDefaultFile (files : Files) (path : String) (isThere : Bool := (files path).isSome) :
    Except Failure Settings :=
  if isThere then ofFile files path else .ok .standard

end Settings

end ServerConsole
