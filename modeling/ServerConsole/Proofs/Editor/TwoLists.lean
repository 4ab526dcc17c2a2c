import Mathlib.Data.List.Induction
import ServerConsole.Proofs.Editor.Offsets

/-!
# The input line as two lists

The reference is a line that is kept in two parts, the characters before the cursor and those after it.

* `Editing`          what is done to an input line from outside;
* `TwoLists`         the reference, and `TwoLists.editor`, the line it stands for;
* `apply_editor`, `perform_editor`  an edit does to the line what it does to the two lists;
* `Editor.touched?`, `Touch.Fits`   the offset at which an edit touches the line, and where it may be;
* `Editor.edited?`    an edit that comes to nothing when its offset does not fit;
* `editor_as_two_lists`  every sequence of operations on an empty line.
-/

namespace ServerConsole

open Text

/-! ## definitions -/

inductive Editing
  | edit (edit : Edit)
  | paste (text : String)
  | set (text : String)
  | take

structure TwoLists where
  before : List Char
  after : List Char

namespace TwoLists

def empty : TwoLists := ⟨[], []⟩

def chars (t : TwoLists) : List Char := t.before ++ t.after

/-- the line the two lists stand for -/
def editor (t : TwoLists) : Editor := ⟨t.chars, t.before.length⟩

def apply (t : TwoLists) : Edit → TwoLists
  | .insert c => ⟨t.before ++ [c], t.after⟩
  | .backspace => ⟨t.before.dropLast, t.after⟩
  | .delete => ⟨t.before, t.after.tail⟩
  | .left =>
    match t.before.getLast? with
    | some c => ⟨t.before.dropLast, c :: t.after⟩
    | none => t
  | .right =>
    match t.after with
    | c :: after => ⟨t.before ++ [c], after⟩
    | [] => t
  | .home => ⟨[], t.chars⟩
  | .finish => ⟨t.chars, []⟩
  | .clear => empty

/-- an operation, and the text it takes out -/
def perform (t : TwoLists) : Editing → TwoLists × List String
  | .edit x => (t.apply x, [])
  | .paste s => (⟨t.before ++ s.toList.filter fun c => !isControl c, t.after⟩, [])
  | .set s => (⟨s.toList, []⟩, [])
  | .take => (empty, [String.ofList t.chars])

def run (t : TwoLists) : List Editing → TwoLists × List String
  | [] => (t, [])
  | x :: xs =>
    let (t, out) := t.perform x
    let (t, more) := t.run xs
    (t, out ++ more)

end TwoLists

/-- an offset of a line, and whether the character there is taken out -/
structure Touch where
  offset : Nat
  takesOut : Bool

/-- between two characters, and in front of one that is to be taken out -/
structure Touch.Fits (u : Touch) (e : Editor) : Prop where
  valid : (⟨u.offset⟩ : String.Pos.Raw).IsValid e.text
  inside : u.takesOut = true → u.offset < e.text.utf8ByteSize

namespace Editor

def perform (e : Editor) : Editing → Editor × List String
  | .edit x => (e.apply x, [])
  | .paste s => (e.insertText s, [])
  | .set s => (e.set s, [])
  | .take => (e.take.1, [e.take.2])

def run (e : Editor) : List Editing → Editor × List String
  | [] => (e, [])
  | x :: xs =>
    let (e, out) := e.perform x
    let (e, more) := e.run xs
    (e, out ++ more)

/-- where an edit touches the line -/
def touched? (e : Editor) : Edit → Option Touch
  | .insert _ => some ⟨byteIndex e.chars e.cursor, false⟩
  | .backspace => if 0 < e.cursor then some ⟨byteIndex e.chars (e.cursor - 1), true⟩ else none
  | .delete => if e.cursor < e.chars.length then some ⟨byteIndex e.chars e.cursor, true⟩ else none
  | .left | .right | .home | .finish | .clear => none

/-! ## edits that may come to nothing -/

def insert? (e : Editor) (c : Char) : Option Editor :=
  (insertAtByte? e.chars (byteIndex e.chars e.cursor) c).map (⟨·, e.cursor + 1⟩)

def removeAt? (e : Editor) (position : Nat) : Option Editor :=
  (removeAtByte? e.chars (byteIndex e.chars position)).map (⟨·, position⟩)

def edited? (e : Editor) (x : Edit) : Option Editor :=
  match x with
  | .insert c => e.insert? c
  | .backspace => if 0 < e.cursor then e.removeAt? (e.cursor - 1) else some e
  | .delete => if e.cursor < e.chars.length then e.removeAt? e.cursor else some e
  | .left | .right | .home | .finish | .clear => some (e.apply x)

def insertText? (e : Editor) (s : String) : Option Editor :=
  (s.toList.filter fun c => !isControl c).foldlM insert? e

def perform? (e : Editor) : Editing → Option (Editor × List String)
  | .edit x => (e.edited? x).map fun e => (e, [])
  | .paste s => (e.insertText? s).map fun e => (e, [])
  | .set s => some (e.set s, [])
  | .take => some (e.take.1, [e.take.2])

def run? (e : Editor) : List Editing → Option (Editor × List String)
  | [] => some (e, [])
  | x :: xs =>
    (e.perform? x).bind fun (e, out) => (e.run? xs).map fun (e, more) => (e, out ++ more)

theorem insert_eq (e : Editor) (c : Char) : e.insert c = (e.insert? c).getD e := by
  unfold insert insert?
  cases insertAtByte? e.chars (byteIndex e.chars e.cursor) c <;> rfl

theorem removeAt_eq (e : Editor) (position : Nat) :
    e.removeAt position = (e.removeAt? position).getD e := by
  unfold removeAt removeAt?
  cases removeAtByte? e.chars (byteIndex e.chars position) <;> rfl

/-- a character is taken out only if there is one on that side of the cursor -/
theorem removeAt_if (e : Editor) (p : Prop) [Decidable p] (position : Nat) :
    (if p then e.removeAt position else e) =
      (if p then e.removeAt? position else some e).getD e := by
  by_cases h : p
  · rw [if_pos h, if_pos h]
    exact e.removeAt_eq position
  · rw [if_neg h, if_neg h]
    rfl

/-- an edit that comes to nothing leaves the line as it is -/
theorem apply_eq (e : Editor) (x : Edit) : e.apply x = (e.edited? x).getD e := by
  cases x with
  | insert c => exact e.insert_eq c
  | backspace => exact e.removeAt_if _ _
  | delete => exact e.removeAt_if _ _
  | left | right | home | finish | clear => rfl

theorem isSome_insert?_iff (e : Editor) (c : Char) :
    (e.insert? c).isSome = true ↔ Touch.Fits ⟨byteIndex e.chars e.cursor, false⟩ e := by
  rw [insert?, Option.isSome_map, isSome_insertAtByte?_iff]
  exact ⟨fun h => ⟨h, nofun⟩, fun h => h.valid⟩

theorem isSome_removeAt?_iff (e : Editor) (p : Prop) [Decidable p] (position : Nat) :
    (if p then e.removeAt? position else some e).isSome = true ↔
      ∀ u ∈ if p then some (⟨byteIndex e.chars position, true⟩ : Touch) else none, u.Fits e := by
  by_cases h : p
  · have hf : (e.removeAt? position).isSome = true ↔
        Touch.Fits ⟨byteIndex e.chars position, true⟩ e := by
      unfold removeAt?
      rw [Option.isSome_map, isSome_removeAtByte?_iff]
      exact ⟨fun h => ⟨h.1, fun _ => h.2⟩, fun h => ⟨h.valid, h.inside rfl⟩⟩
    simp [h, hf]
  · simp [h]

/-- an edit goes through exactly if the offset it touches fits -/
theorem isSome_edited?_iff (e : Editor) (x : Edit) :
    (e.edited? x).isSome = true ↔ ∀ u ∈ e.touched? x, u.Fits e := by
  cases x with
  | insert c =>
    refine (e.isSome_insert?_iff c).trans ?_
    simp [touched?]
  | backspace => exact e.isSome_removeAt?_iff _ _
  | delete => exact e.isSome_removeAt?_iff _ _
  | left | right | home | finish | clear => simp [edited?, touched?]

end Editor

namespace TwoLists

/-! ## one operation -/

theorem insert?_editor (t : TwoLists) (c : Char) :
    t.editor.insert? c = some (t.apply (.insert c)).editor := by
  unfold Editor.insert? editor chars
  rw [insertAtByte?_middle]
  simp [apply]

theorem removeAt?_editor (a b : List Char) (c : Char) (k : Nat) :
    (⟨a ++ c :: b, k⟩ : Editor).removeAt? a.length = some (⟨a, b⟩ : TwoLists).editor := by
  unfold Editor.removeAt?
  rw [removeAtByte?_middle]
  rfl

/-- an edit goes through, and does to the line what it does to the two lists -/
theorem edited?_editor (t : TwoLists) (x : Edit) : t.editor.edited? x = some (t.apply x).editor := by
  obtain ⟨a, b⟩ := t
  cases x with
  | insert c => exact insert?_editor _ c
  | backspace =>
    cases a using List.reverseRecOn with
    | nil => rfl
    | append_singleton a c =>
      have hr := removeAt?_editor a b c (a ++ [c]).length
      simpa [Editor.edited?, editor, chars, apply] using hr
  | delete =>
    cases b with
    | nil => simp [Editor.edited?, editor, chars, apply]
    | cons c b =>
      have hr := removeAt?_editor a b c a.length
      simpa [Editor.edited?, editor, chars, apply] using hr
  | left =>
    cases a using List.reverseRecOn with
    | nil => rfl
    | append_singleton a c => simp [Editor.edited?, Editor.apply, editor, chars, apply]
  | right =>
    cases b with
    | nil => simp [Editor.edited?, Editor.apply, editor, chars, apply]
    | cons c b => simp [Editor.edited?, Editor.apply, editor, chars, apply]
  | home | clear => rfl
  | finish => simp [Editor.edited?, Editor.apply, editor, chars, apply]

theorem apply_editor (t : TwoLists) (x : Edit) : t.editor.apply x = (t.apply x).editor := by
  rw [Editor.apply_eq, edited?_editor]
  rfl

/-- a paste puts its characters in one by one -/
theorem foldlM_insert?_editor (t : TwoLists) (cs : List Char) :
    cs.foldlM Editor.insert? t.editor = some (⟨t.before ++ cs, t.after⟩ : TwoLists).editor := by
  induction cs generalizing t with
  | nil => simp
  | cons c cs ih =>
    rw [List.foldlM_cons, insert?_editor]
    show cs.foldlM Editor.insert? (t.apply (.insert c)).editor = _
    rw [ih]
    simp [apply]

theorem foldl_insert_editor (t : TwoLists) (cs : List Char) :
    cs.foldl Editor.insert t.editor = (⟨t.before ++ cs, t.after⟩ : TwoLists).editor := by
  induction cs generalizing t with
  | nil => simp
  | cons c cs ih =>
    rw [List.foldl_cons, Editor.insert_eq, insert?_editor, Option.getD_some, ih]
    simp [apply]

theorem perform_editor (t : TwoLists) (x : Editing) :
    t.editor.perform x = ((t.perform x).1.editor, (t.perform x).2) := by
  cases x with
  | edit x => exact congrArg (·, []) (t.apply_editor x)
  | paste s => exact congrArg (·, []) (t.foldl_insert_editor _)
  | set s => simp [Editor.perform, Editor.set, perform, editor, chars]
  | take => rfl

theorem perform?_editor (t : TwoLists) (x : Editing) :
    t.editor.perform? x = some (t.editor.perform x) := by
  rw [perform_editor]
  cases x with
  | edit x => exact congrArg (Option.map (·, [])) (t.edited?_editor x)
  | paste s => exact congrArg (Option.map (·, [])) (t.foldlM_insert?_editor _)
  | set s => simp [Editor.perform?, Editor.set, perform, editor, chars]
  | take => rfl

/-! ## every sequence of operations -/

theorem run_editor (t : TwoLists) (xs : List Editing) :
    t.editor.run xs = ((t.run xs).1.editor, (t.run xs).2) := by
  induction xs generalizing t with
  | nil => rfl
  | cons x xs ih =>
    unfold Editor.run run
    rw [perform_editor]
    dsimp only
    rw [ih]

theorem run?_editor (t : TwoLists) (xs : List Editing) :
    t.editor.run? xs = some (t.editor.run xs) := by
  induction xs generalizing t with
  | nil => rfl
  | cons x xs ih =>
    unfold Editor.run? Editor.run
    rw [perform?_editor, perform_editor]
    dsimp only [Option.bind_some]
    rw [ih]
    rfl

end TwoLists

/-- **The line is edited as two lists are.** Whatever is done to an empty line, in any order: it holds the
characters before and after the cursor of the reference, and the cursor stands between them; the texts
taken out are the same. The cursor is never behind the end. The next edit, whichever it is, touches the
line between two characters, and to take a character out strictly inside, so that no operation of the
whole sequence comes to nothing. -/
theorem editor_as_two_lists (xs : List Editing) :
    let e := (Editor.empty.run xs).1
    let t := (TwoLists.empty.run xs).1
    (e.chars = t.before ++ t.after ∧ e.cursor = t.before.length) ∧
    (Editor.empty.run xs).2 = (TwoLists.empty.run xs).2 ∧
    e.cursor ≤ e.chars.length ∧
    (∀ x, ∀ u ∈ e.touched? x, (⟨u.offset⟩ : String.Pos.Raw).IsValid e.text ∧
      (u.takesOut = true → u.offset < e.text.utf8ByteSize)) ∧
    Editor.empty.run? xs = some (Editor.empty.run xs) := by
  intro e t
  have hr : Editor.empty.run xs = (t.editor, (TwoLists.empty.run xs).2) := TwoLists.empty.run_editor xs
  have he : e = t.editor := congrArg Prod.fst hr
  refine ⟨?_, congrArg Prod.snd hr, ?_, fun x u hu => ?_, TwoLists.empty.run?_editor xs⟩
  · rw [he]
    exact ⟨rfl, rfl⟩
  · have hl : t.before.length ≤ (t.before ++ t.after).length := by
      rw [List.length_append]
      omega
    rw [he]
    exact hl
  · have hs : (e.edited? x).isSome = true := by
      rw [he, t.edited?_editor]
      rfl
    have hf := (e.isSome_edited?_iff x).mp hs u hu
    exact ⟨hf.valid, hf.inside⟩

/-- characters of one to four bytes, and a line break that is not pasted -/
example :
    (Editor.empty.run [.paste "aß\n€😀", .edit .left, .edit .left, .edit .backspace, .edit .delete,
      .edit (.insert 'é'), .take]) = (.empty, ["aé😀"]) := by
  decide +kernel

end ServerConsole
