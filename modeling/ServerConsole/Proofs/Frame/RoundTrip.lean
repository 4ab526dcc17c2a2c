import ServerConsole.Frame
import ServerConsole.Proofs.Json.Tagged
import ServerConsole.Proofs.Json.Written

/-!
# Written frames are read back

* `Command.decode_wire`  a command is read as it was written, whatever line it carries;
* `Frame.parse_toJson`   the value a written frame stands for, kind by kind;
* `Frame.ofValue?_written`  and that value is the frame again;
* `Frame.codec_round_trip`  both directions of the channel, with the limit on the size of a message.
-/

namespace ServerConsole

open Json

/-! ## members -/

/-- the member for a text -/
def quotedPart (name text : String) : Part :=
  .ofWritten name (quote text) (.string text) (spells_quote _ text)

def boolPart (name : String) (b : Bool) : Part :=
  .ofWritten name (writeBool b) (.bool b) (spells_writeBool _ b)

/-! ## commands -/

namespace Command

theorem read_eq : read = readContent kind? fun _ content => record.ofValue? content := rfl

theorem parse_toJson (c : Command) :
    parse c.toJson =
      .ok (.object [(tagName, .string "command"), ("command", .string c.line)]) :=
  parse_writeObject [quotedPart tagName "command", quotedPart "command" c.line] rfl

theorem decode_wire (c : Command) : decode c.wire = .ok c := by
  have hv : ofTagged? kind? (fun _ content => record.ofValue? content)
      (.object [(tagName, .string "command"), ("command", .string c.line)]) = some c := rfl
  rw [decode, wire, String.toList_ofList, read_eq, complete_readContent c.parse_toJson, hv]
  rfl

end Command

/-! ## frames -/

namespace Frame

/-- the members of a written frame, as they are read -/
def writtenParts : Frame → List Part
  | console line color daemon =>
    [quotedPart "line" line]
      ++ (match color with | some c => [quotedPart "color" c] | none => [])
      ++ (if daemon then [boolPart "daemon" true] else [])
  | stats _ => []
  | status s => [quotedPart "status" s.name]
  | error message => [quotedPart "message" message]

theorem members_eq {f : Frame} {ms : List Member} (h : f.members = some ms) :
    ms.map writeMember = f.writtenParts.map Part.text := by
  cases f with
  | console line color daemon =>
    obtain rfl := Option.some.inj h
    cases color <;> cases daemon <;> rfl
  | stats s => cases h
  | status s | error message =>
    obtain rfl := Option.some.inj h
    rfl

theorem parse_toJson {f : Frame} {text : List Char} (h : f.toJson = some text) :
    parse text =
      .ok (.object ((tagName, .string f.kind.name) :: f.writtenParts.map Part.member)) := by
  obtain ⟨ms, hms, rfl⟩ := Option.map_eq_some_iff.mp h
  refine parse_writeObject (quotedPart tagName f.kind.name :: f.writtenParts) ?_
  rw [List.map_cons, List.map_cons, members_eq hms]
  rfl

theorem ofValue?_written (f : Frame) (h : f.kind ≠ .stats) :
    ofValue? (.object ((tagName, .string f.kind.name) :: f.writtenParts.map Part.member)) =
      some f := by
  cases f with
  | console line color daemon => cases color <;> cases daemon <;> rfl
  | stats s => exact absurd rfl h
  | status s => cases s <;> rfl
  | error message => rfl

theorem exists_wire (f : Frame) (h : f.kind ≠ .stats) : ∃ text, f.wire = some text := by
  cases f with
  | stats s => exact absurd rfl h
  | console | status | error => exact ⟨_, rfl⟩

theorem decode_wire {f : Frame} {text : String} (hw : f.wire = some text) (h : f.kind ≠ .stats) :
    decode text =
      if text.utf8ByteSize ≤ maxSize then .ok f else .error (.tooLarge text.utf8ByteSize) := by
  obtain ⟨cs, hj, rfl⟩ := Option.map_eq_some_iff.mp hw
  unfold decode
  by_cases hs : (String.ofList cs).utf8ByteSize ≤ maxSize
  · rw [if_neg (Nat.not_lt.mpr hs), if_pos hs, String.toList_ofList, parse_toJson hj]
    dsimp only
    rw [ofValue?_written f h]
  · rw [if_pos (Nat.not_le.mp hs), if_neg hs]

/-- **Round trip.** Commands are read back whatever they carry. A written frame of the panel is read
back as long as it is no longer than a message may be. -/
theorem codec_round_trip :
    (∀ c : Command, Command.decode c.wire = .ok c) ∧
    ∀ f : Frame, f.kind ≠ .stats → ∃ text, f.wire = some text ∧
      decode text =
        if text.utf8ByteSize ≤ maxSize then .ok f
        else .error (.tooLarge text.utf8ByteSize) := by
  refine ⟨Command.decode_wire, fun f h => ?_⟩
  obtain ⟨text, hw⟩ := f.exists_wire h
  exact ⟨text, hw, decode_wire hw h⟩

/-- a line with quotes, a line break, a control character and an umlaut -/
theorem codec_round_trip_escaped :
    let f : Frame := .console "say \"ü\"\n\x01" (some "#ef4444") true
    let text := "\x7b\"type\":\"console\",\"line\":\"say \\\"ü\\\"\\n\\u0001\"," ++
      "\"color\":\"#ef4444\",\"daemon\":true\x7d"
    f.kind ≠ .stats ∧ f.wire = some text ∧ decode text = .ok f := by
  intro f text
  have hk : f.kind ≠ .stats := nofun
  have hw : f.wire = some text := by decide
  obtain ⟨text', hw', hd⟩ := codec_round_trip.2 f hk
  obtain rfl := Option.some.inj (hw.symm.trans hw')
  exact ⟨hk, hw, hd.trans (if_pos (by decide))⟩

end Frame

end ServerConsole
