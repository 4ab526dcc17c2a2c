import ServerConsole.Json.Reader

/-!
# Shapes

A shape says which JSON values stand for the elements of a type, in two forms that belong
together: a reader on texts, which meets faults from left to right, and a partial function on
values already read.

* `string`, `bool`, `natural`, `double`, `any`, `word`  single values;
* `choice`     a named alternative without content, as a string or as a one-member object;
* `optional`, `list`  over another shape;
* `record`     named fields; also taken from a list that gives the fields in order;
* `readTagged` an object whose kind is named by one of its members.
-/

namespace ServerConsole.Json

structure Shape (α : Type) where
  read : (budget depth : Nat) → Reader α
  ofValue? : Value → Option α

/-- the fault of a value of the wrong kind; a broken value counts as broken -/
def wrongKind (s : List Char) : Fault :=
  match s with
  | '[' :: _ | '{' :: _ => .mismatched
  | _ =>
    match readScalar s with
    | .error f => f
    | .ok _ => .mismatched

def expect {α : Type} : Option α → Except Fault α
  | some x => .ok x
  | none => .error .mismatched

namespace Shape

/-! ## single values -/

/-- a string of the accepted words -/
def word {α : Type} (parse? : String → Option α) : Shape α where
  read := fun _ _ s =>
    match skipSpaces s with
    | [] => .error .truncated
    | '"' :: r => do
      let (text, r) ← readString r
      let x ← expect (parse? text)
      pure (x, r)
    | r => .error (wrongKind r)
  ofValue? := fun v => v.string?.bind parse?

def string : Shape String := word some

def bool : Shape Bool where
  read := fun _ _ s =>
    match skipSpaces s with
    | [] => .error .truncated
    | 't' :: r => do pure (true, ← readWord ['r', 'u', 'e'] r)
    | 'f' :: r => do pure (false, ← readWord ['a', 'l', 's', 'e'] r)
    | r => .error (wrongKind r)
  ofValue? := fun v => match v with
    | .bool b => some b
    | _ => none

/-- a number of the accepted ones -/
def number {α : Type} (ofNumber? : Number → Option α) : Shape α where
  read := fun _ _ s => do
    let r := skipSpaces s
    let (n, r) ← match r with
      | [] => .error .truncated
      | '-' :: r => readNumber false r
      | c :: _ => if Text.isDigit c then readNumber true r else .error (wrongKind r)
    let x ← expect (ofNumber? n)
    pure (x, r)
  ofValue? := fun v => match v with
    | .number n => ofNumber? n
    | _ => none

def natural : Shape UInt64 := number fun n => match n with
  | .natural n => some n
  | _ => none

def double : Shape Float := number fun n => some n.toFloat

def any : Shape Value where
  read := readValue
  ofValue? := some

/-! ## alternatives -/

def readNull (s : List Char) : Except Fault (List Char) :=
  match skipSpaces s with
  | [] => .error .truncated
  | 'n' :: r => readWord ['u', 'l', 'l'] r
  | r => .error (wrongKind r)

/-- the end of the one-member object form of an alternative -/
def closeChoice (s : List Char) : Except Fault (List Char) :=
  match skipSpaces s with
  | '}' :: r => .ok r
  | r => .error (unexpected r)

def isUnit : Value → Bool
  | .null => true
  | .object [] => true
  | _ => false

/-- a named alternative: its name, or an object whose one member has that name and no content -/
def choice {α : Type} (parse? : String → Option α) : Shape α where
  read := fun budget depth s =>
    match skipSpaces s with
    | '"' :: r => (word parse?).read budget depth ('"' :: r)
    | '{' :: r =>
      match depth with
      | 0 => .error .malformed
      | depth + 1 => do
        let r := skipSpaces r
        if r.head? ≠ some '"' then throw (unexpected r)
        let (x, r) ← (word parse?).read budget depth r
        let r ← readNull (← readColon r)
        pure (x, ← closeChoice r)
    | r => .error (unexpected r)
  ofValue? := fun v => match v with
    | .string name => parse? name
    | .object [(name, content)] => if isUnit content then parse? name else none
    | _ => none

/-! ## options and lists -/

def optional {α : Type} (shape : Shape α) : Shape (Option α) where
  read := fun budget depth s =>
    match skipSpaces s with
    | 'n' :: r => do pure (none, ← readWord ['u', 'l', 'l'] r)
    | r => do
      let (x, r) ← shape.read budget depth r
      pure (some x, r)
  ofValue? := fun v => match v with
    | .null => some none
    | v => (shape.ofValue? v).map some

def list {α : Type} (shape : Shape α) : Shape (List α) where
  read := fun budget depth s =>
    match skipSpaces s with
    | [] => .error .truncated
    | '[' :: r =>
      match depth with
      | 0 => .error .malformed
      | depth + 1 => readItems (shape.read budget depth) budget true [] r
    | r => .error (wrongKind r)
  ofValue? := fun v => match v with
    | .array items => items.mapM shape.ofValue?
    | _ => none

end Shape

/-! ## records -/

/-- a member of a record under construction: its name, other names, and how its value goes in -/
structure Field (σ : Type) where
  names : List String
  shape : Shape (σ → σ)

def Shape.map {α β : Type} (f : α → β) (shape : Shape α) : Shape β where
  read := fun budget depth s => do
    let (x, r) ← shape.read budget depth s
    pure (f x, r)
  ofValue? := fun v => (shape.ofValue? v).map f

def Field.of {σ α : Type} (names : List String) (shape : Shape α) (set : α → σ → σ) : Field σ :=
  ⟨names, shape.map set⟩

/-- a record: its fields in order, how many of them a list has to give, and what it becomes -/
structure Record (σ α : Type) where
  fields : List (Field σ)
  required : Nat
  blank : σ
  finish? : σ → Option α

namespace Record

/-- the position and field of a name -/
def field? {σ α : Type} (record : Record σ α) (name : String) : Option (Nat × Field σ) :=
  (record.fields.zipIdx.find? (·.1.names.contains name)).map fun (f, i) => (i, f)

/-- members after the opening bracket; `seen` are the positions already given -/
def readMembers {σ α : Type} (record : Record σ α) (budget depth : Nat) :
    Nat → Bool → List Nat → σ → List Char → Except Fault (σ × List Char)
  | 0, _, _, _, _ => .error .truncated
  | fuel + 1, first, seen, acc, s => do
    match ← nextMember first s with
    | .done r => pure (acc, r)
    | .more r =>
      let (name, r) ← readString r
      match record.field? name with
      | none =>
        let r ← skipValue budget (← readColon r)
        record.readMembers budget depth fuel false seen acc r
      | some (i, field) =>
        if seen.contains i then .error .mismatched
        else
          let (set, r) ← field.shape.read budget depth (← readColon r)
          record.readMembers budget depth fuel false (i :: seen) (set acc) r

/-- items after the opening bracket, one for each field in turn -/
def readItems {σ : Type} (budget depth required : Nat) :
    List (Field σ) → Bool → Nat → σ → List Char → Except Fault (σ × List Char)
  | [], _, _, acc, s =>
    match skipSpaces s with
    | ']' :: r => .ok (acc, r)
    | r => .error (unexpected r)
  | field :: fields, first, given, acc, s => do
    match ← nextItem first s with
    | .done r => if given < required then .error .mismatched else pure (acc, r)
    | .more r =>
      let (set, r) ← field.shape.read budget depth r
      readItems budget depth required fields false (given + 1) (set acc) r

def read {σ α : Type} (record : Record σ α) (budget depth : Nat) : Reader α := fun s =>
  match skipSpaces s, depth with
  | [], _ => .error .truncated
  | '[' :: _, 0 | '{' :: _, 0 => .error .malformed
  | '[' :: r, depth + 1 => do
    let (acc, r) ← readItems budget depth record.required record.fields true 0 record.blank r
    let x ← expect (record.finish? acc)
    pure (x, r)
  | '{' :: r, depth + 1 => do
    let (acc, r) ← record.readMembers budget depth budget true [] record.blank r
    let x ← expect (record.finish? acc)
    pure (x, r)
  | r, _ => .error (wrongKind r)

/-- one member of a value already read -/
def addMember {σ α : Type} (record : Record σ α) (state : List Nat × σ) (member : String × Value) :
    Option (List Nat × σ) :=
  match record.field? member.1 with
  | none => some state
  | some (i, field) =>
    if state.1.contains i then none
    else (field.shape.ofValue? member.2).map fun set => (i :: state.1, set state.2)

def ofMembers? {σ α : Type} (record : Record σ α) (members : List (String × Value)) : Option α :=
  (members.foldlM record.addMember ([], record.blank)).bind fun state => record.finish? state.2

def ofItems? {σ α : Type} (record : Record σ α) (items : List Value) : Option α :=
  if items.length < record.required || record.fields.length < items.length then none
  else
    ((record.fields.zip items).foldlM
      (fun acc (p : Field σ × Value) => (p.1.shape.ofValue? p.2).map fun set => set acc)
      record.blank).bind record.finish?

def ofValue? {σ α : Type} (record : Record σ α) : Value → Option α
  | .object members => record.ofMembers? members
  | .array items => record.ofItems? items
  | _ => none

def shape {σ α : Type} (record : Record σ α) : Shape α := ⟨record.read, record.ofValue?⟩

end Record

/-! ## tagged objects -/

/-- the name of the member that tells the kind -/
def tagName : String := "type"

/-- members after the opening bracket: the tag as soon as it is met, the others kept -/
def readTaggedMembers {τ : Type} (tag? : String → Option τ) (budget depth : Nat) :
    Nat → Bool → Option τ → List (String × Value) → List Char →
      Except Fault ((τ × Value) × List Char)
  | 0, _, _, _, _ => .error .truncated
  | fuel + 1, first, tag, done, s => do
    match ← nextMember first s with
    | .done r =>
      let tag ← expect tag
      pure ((tag, .object done.reverse), r)
    | .more r =>
      let (name, r) ← readString r
      if name == tagName then
        if tag.isSome then .error .mismatched
        else
          let (t, r) ← (Shape.word tag?).read budget depth (← readColon r)
          readTaggedMembers tag? budget depth fuel false (some t) done r
      else
        let (v, r) ← readValue budget depth (← readColon r)
        readTaggedMembers tag? budget depth fuel false tag ((name, v) :: done) r

/-- an object with its tag member, or a list whose first item is the tag -/
def readTagged {τ : Type} (tag? : String → Option τ) (budget depth : Nat) : Reader (τ × Value) :=
  fun s =>
    match skipSpaces s, depth with
    | [], _ => .error .truncated
    | '[' :: _, 0 | '{' :: _, 0 => .error .malformed
    | '[' :: r, depth + 1 => do
      match ← nextItem true r with
      | .done _ => .error .mismatched
      | .more r =>
        let (t, r) ← (Shape.word tag?).read budget depth r
        let (items, r) ← readItems (readValue budget depth) budget false [] r
        pure ((t, .array items), r)
    | '{' :: r, depth + 1 => readTaggedMembers tag? budget depth budget true none [] r
    | r, _ => .error (wrongKind r)

/-- tag and content of a value already read -/
def tagged? {τ : Type} (tag? : String → Option τ) : Value → Option (τ × Value)
  | .object members =>
    match members.partition (·.1 == tagName) with
    | ([(_, .string name)], rest) => (tag? name).map (·, .object rest)
    | _ => none
  | .array (.string name :: items) => (tag? name).map (·, .array items)
  | _ => none

end ServerConsole.Json
