import ServerConsole.Proofs.Json.Alike
import ServerConsole.Proofs.Json.Shapes
import ServerConsole.Proofs.Text.Utf8

/-!
# What is read of bytes

A text of bytes is read as the characters it stands for. Where some of its bytes stand for none, what is
read of it is still what a reader would make of the text with these bytes replaced: they lie in strings
that are passed over, and there they make no difference.

* `keeps_readValue`  values that are kept, and `skipValue_alike`, values that are passed over;
* `Shape.Kept`   shapes that are read the same way in texts that are alike, and records of them
                 (`Record.kept`);
* `ofBytes?_eq`  what is read of well-formed bytes, and `complete_of_ofBytes?` of any bytes.
-/

namespace ServerConsole.Json

open Text

/-! ## values -/

theorem keeps_readNumeral (positive : Bool) : Keeps Alike (Taken Alike) (readNumeral positive) :=
  (keeps_readNumber positive).bind fun n => keeps_lift (.ok (Value.number n))

theorem keeps_readPlain : Keeps Alike (Taken Alike) readPlain :=
  keeps_behind (by decide) ((keeps_readWord (by decide)).map _) <|
  keeps_behind (by decide) ((keeps_readWord (by decide)).map _) <|
  keeps_behind (by decide) ((keeps_readWord (by decide)).map _) <|
  keeps_behind (by decide) (keeps_readNumeral false) <|
  keeps_digit (keeps_readNumeral true) (keeps_error unexpected)

theorem keeps_readScalar : Keeps Alike (Taken Alike) readScalar := by
  intro s t h
  cases s with
  | nil => exact follows_error _ _
  | cons c s =>
    obtain ⟨t, rfl, ht⟩ := Similar.cons h
    by_cases hc : c = '"'
    · subst hc
      refine (keeps_readString (ht (by decide))).bind ?_
      rintro ⟨text, r⟩ ⟨_, r'⟩ ⟨rfl, hr⟩
      exact follows_ok ⟨rfl, hr⟩
    · rw [readScalar_of_ne hc, readScalar_of_ne hc]
      exact keeps_readPlain h

section
variable {α : Type} {item : Reader α} (hi : Keeps Alike (Taken Alike) item)
include hi

theorem keeps_readItems (fuel : Nat) (first : Bool) (done : List α) :
    Keeps Alike (Taken Alike) (readItems item fuel first done) := by
  induction fuel generalizing first done with
  | zero => exact keeps_error _
  | succ fuel ih =>
    intro s t h
    rw [readItems, readItems]
    refine (keeps_nextItem first h).bind fun next next' hn => ?_
    cases hn with
    | done hr => exact follows_ok ⟨rfl, hr⟩
    | more hr =>
      refine (hi hr).bind ?_
      rintro ⟨x, r⟩ ⟨_, r'⟩ ⟨rfl, hr⟩
      exact ih false (x :: done) hr

theorem keeps_readMembers (fuel : Nat) (first : Bool) (done : List (String × α)) :
    Keeps Alike (Taken Alike) (readMembers item fuel first done) := by
  induction fuel generalizing first done with
  | zero => exact keeps_error _
  | succ fuel ih =>
    intro s t h
    rw [readMembers, readMembers]
    refine (keeps_nextMember first h).bind fun next next' hn => ?_
    cases hn with
    | done hr => exact follows_ok ⟨rfl, hr⟩
    | more hr =>
      refine (keeps_readString hr).bind ?_
      rintro ⟨name, r⟩ ⟨_, r'⟩ ⟨rfl, hr⟩
      refine (keeps_readColon hr).bind fun r r' hr => (hi hr).bind ?_
      rintro ⟨x, r⟩ ⟨_, r'⟩ ⟨rfl, hr⟩
      exact ih false ((name, x) :: done) hr

end

theorem readValue_zero (budget : Nat) (s : List Char) : readValue budget 0 s =
    behind '[' (fun _ => .error .malformed) (behind '{' (fun _ => .error .malformed) readScalar)
      (skipSpaces s) := by
  unfold readValue
  split
  · next h => rw [h]; rfl
  · next h => rw [h]; rfl
  · next hl ho => rw [behind_of_ne hl, behind_of_ne ho]

theorem readValue_succ (budget depth : Nat) (s : List Char) : readValue budget (depth + 1) s =
    behind '[' (fun r => readItems (readValue budget depth) budget true [] r >>= fun p =>
        .ok (.array p.1, p.2))
      (behind '{' (fun r => readMembers (readValue budget depth) budget true [] r >>= fun p =>
        .ok (.object p.1, p.2)) readScalar) (skipSpaces s) := by
  rw [readValue]
  split
  · next h => rw [h]; rfl
  · next h => rw [h]; rfl
  · next hl ho => rw [behind_of_ne hl, behind_of_ne ho]

theorem keeps_readValue (budget depth : Nat) : Keeps Alike (Taken Alike) (readValue budget depth) := by
  induction depth with
  | zero =>
    rw [funext (readValue_zero budget)]
    exact (keeps_behind (by decide) (keeps_error _)
      (keeps_behind (by decide) (keeps_error _) keeps_readScalar)).spaced
  | succ depth ih =>
    rw [funext (readValue_succ budget depth)]
    refine (keeps_behind (by decide) ?_ (keeps_behind (by decide) ?_ keeps_readScalar)).spaced
    · exact (keeps_readItems ih budget true []).bind fun items => keeps_lift (.ok (Value.array items))
    · exact (keeps_readMembers ih budget true []).bind fun members =>
        keeps_lift (.ok (Value.object members))

/-! ## values that are passed over -/

section
variable {A : List Char → List Char → Prop} [Similar A]

theorem keeps_skipScalar : Keeps A A skipScalar := by
  rw [skipScalar_eq]
  exact keeps_behind (by decide) (keeps_readWord (by decide)) <|
    keeps_behind (by decide) (keeps_readWord (by decide)) <|
    keeps_behind (by decide) (keeps_readWord (by decide)) <|
    keeps_behind (by decide) keeps_skipString <|
    keeps_behind (by decide) keeps_skipNumber <|
    keeps_digit keeps_skipNumber (keeps_error unexpected)

theorem skipName_eq (s : List Char) : skipName s =
    behind '"' (fun r => skipString r >>= readColon) (fun r => .error (unexpected r)) (skipSpaces s) := by
  unfold skipName
  split
  · next h => rw [h]; rfl
  · next h => rw [behind_of_ne h]

theorem keeps_skipName : Keeps A A skipName := by
  rw [funext skipName_eq]
  exact (keeps_behind (by decide) (keeps_skipString.andThen keeps_readColon) (keeps_error _)).spaced

section
variable (fuel : Nat) (outer : List Enclosure) (s : List Char)

theorem skipFrom_value : skipFrom (fuel + 1) true outer s =
    behind '[' (fun r => behind ']' (skipFrom fuel false outer)
        (within (skipFrom fuel true (.list :: outer))) (skipSpaces r))
      (behind '{' (fun r => behind '}' (skipFrom fuel false outer)
          (fun r => skipName r >>= skipFrom fuel true (.object :: outer)) (skipSpaces r))
        fun r => skipScalar r >>= skipFrom fuel false outer) (skipSpaces s) := by
  rw [skipFrom]
  split
  · next r h =>
    rw [h, behind_self]
    split
    · next hr => rw [hr]; rfl
    · next hr => rw [hr]; rfl
    · next hl hn => rw [behind_of_ne hl, within_of_ne hn]
  · next r h =>
    rw [h, behind_of_ne (by simp), behind_self]
    split
    · next hr => rw [hr]; rfl
    · next hr => rw [behind_of_ne hr]
  · next hl ho => rw [behind_of_ne hl, behind_of_ne ho]

theorem skipFrom_list_eq : skipFrom (fuel + 1) false (.list :: outer) s =
    behind ',' (skipFrom fuel true (.list :: outer)) (behind ']' (skipFrom fuel false outer)
      fun r => .error (unexpected r)) (skipSpaces s) := by
  rw [skipFrom]
  split
  · next h => rw [h]; rfl
  · next h => rw [h]; rfl
  · next hc hl => rw [behind_of_ne hc, behind_of_ne hl]

theorem skipFrom_object_eq : skipFrom (fuel + 1) false (.object :: outer) s =
    behind ',' (fun r => skipName r >>= skipFrom fuel true (.object :: outer))
      (behind '}' (skipFrom fuel false outer) fun r => .error (unexpected r)) (skipSpaces s) := by
  rw [skipFrom]
  split
  · next h => rw [h]; rfl
  · next h => rw [h]; rfl
  · next hc hl => rw [behind_of_ne hc, behind_of_ne hl]

end

theorem keeps_skipFrom (fuel : Nat) (value : Bool) (outer : List Enclosure) :
    Keeps A A (skipFrom fuel value outer) := by
  induction fuel generalizing value outer with
  | zero => exact keeps_error _
  | succ fuel ih =>
    cases value with
    | true =>
      rw [funext (skipFrom_value fuel outer)]
      refine (keeps_behind (by decide) ?_ (keeps_behind (by decide) ?_ ?_)).spaced
      · exact (keeps_behind (by decide) (ih false outer) (keeps_within (ih true _))).spaced
      · exact (keeps_behind (by decide) (ih false outer) (keeps_skipName.andThen (ih true _))).spaced
      · exact keeps_skipScalar.andThen (ih false outer)
    | false =>
      cases outer with
      | nil => exact keeps_ok
      | cons e outer =>
        cases e with
        | list =>
          rw [funext (skipFrom_list_eq fuel outer)]
          exact (keeps_behind (by decide) (ih true _)
            (keeps_behind (by decide) (ih false outer) (keeps_error _))).spaced
        | object =>
          rw [funext (skipFrom_object_eq fuel outer)]
          exact (keeps_behind (by decide) (keeps_skipName.andThen (ih true _))
            (keeps_behind (by decide) (ih false outer) (keeps_error _))).spaced

theorem keeps_skipValue (budget : Nat) : Keeps A A (skipValue budget) := keeps_skipFrom _ true []

end

/-- **What is passed over.** A value is passed over with its ill-formed pieces spelled exactly if it is
with them replaced: its strings may hold any bytes. -/
theorem skipValue_alike {s t : List Char} (h : Alike s t) (budget : Nat) :
    (∀ r, skipValue budget s = .ok r → ∃ r', skipValue budget t = .ok r' ∧ Alike r r') ∧
    ∀ r', skipValue budget t = .ok r' → ∃ r, skipValue budget s = .ok r ∧ Alike r r' :=
  ⟨keeps_skipValue budget h, keeps_skipValue (A := flip Alike) budget h⟩

/-! ## shapes -/

/-- the shape is read the same way in texts that are alike -/
def Shape.Kept {α : Type} (shape : Shape α) : Prop := ∀ budget depth, Keeps Alike (Taken Alike) (shape.read budget depth)

section
variable {α β : Type} {budget depth : Nat} {s : List Char}

theorem keeps_expect (x : Option α) : Keeps Alike (Taken Alike) fun s => expect x >>= fun a => .ok (a, s) := by
  intro s t h
  cases x with
  | none => exact follows_error _ _
  | some a => exact follows_ok ⟨rfl, h⟩

theorem kept_any : Shape.any.Kept := keeps_readValue

theorem keeps_settle (x : Option α) : Keeps Alike (Taken Alike) (settle x) := by
  intro s t h
  cases x with
  | none => exact follows_error _ _
  | some a => exact follows_ok ⟨rfl, h⟩

theorem word_read_eq (parse? : String → Option α) (s : List Char) :
    (Shape.word parse?).read budget depth s =
      behind '"' (fun r => readString r >>= fun p => settle (parse? p.1) p.2)
        (fun r => .error (wrongKind r)) (skipSpaces s) := by
  cases hs : skipSpaces s with
  | nil =>
    unfold Shape.word
    dsimp only
    rw [hs]
    rfl
  | cons c q => exact word_read hs budget depth

theorem kept_word (parse? : String → Option α) : (Shape.word parse?).Kept := by
  intro budget depth
  rw [funext (word_read_eq parse?)]
  exact (keeps_behind (by decide) (keeps_readString.bind fun text => keeps_settle (parse? text))
    (keeps_error wrongKind)).spaced

theorem bool_read_eq (s : List Char) : Shape.bool.read budget depth s =
    behind 't' (fun r => (readWord ['r', 'u', 'e'] r).map (true, ·))
      (behind 'f' (fun r => (readWord ['a', 'l', 's', 'e'] r).map (false, ·))
        fun r => .error (wrongKind r)) (skipSpaces s) := by
  cases hs : skipSpaces s with
  | nil =>
    unfold Shape.bool
    dsimp only
    rw [hs]
    rfl
  | cons c q => exact bool_read hs

theorem kept_bool : Shape.bool.Kept := by
  intro budget depth
  rw [funext bool_read_eq]
  exact (keeps_behind (by decide) ((keeps_readWord (by decide)).map true)
    (keeps_behind (by decide) ((keeps_readWord (by decide)).map false) (keeps_error wrongKind))).spaced

theorem Shape.Kept.map {shape : Shape α} (h : shape.Kept) (f : α → β) : (shape.map f).Kept :=
  fun budget depth => (h budget depth).bind fun x => keeps_lift (.ok (f x))

theorem kept_field {σ : Type} {shape : Shape α} (names : List String) (set : α → σ → σ) (h : shape.Kept) :
    (Field.of names shape set).shape.Kept := h.map set

theorem optional_read_eq (shape : Shape α) (s : List Char) : (Shape.optional shape).read budget depth s =
    behind 'n' (fun r => (readWord ['u', 'l', 'l'] r).map (none, ·))
      (fun r => shape.read budget depth r >>= fun p => .ok (some p.1, p.2)) (skipSpaces s) := by
  unfold Shape.optional
  dsimp only
  split
  · next h => rw [h]; exact (map_eq_bind _ _).symm
  · next h => rw [behind_of_ne h]; rfl

theorem kept_optional {shape : Shape α} (h : shape.Kept) : (Shape.optional shape).Kept := by
  intro budget depth
  rw [funext (optional_read_eq shape)]
  exact (keeps_behind (by decide) ((keeps_readWord (by decide)).map none)
    ((h budget depth).bind fun x => keeps_lift (.ok (some x)))).spaced

end

/-! ## records -/

namespace Record

variable {σ α : Type} {record : Record σ α} {budget depth : Nat}

theorem keeps_readMembers (h : ∀ field ∈ record.fields, field.shape.Kept) (fuel : Nat) (first : Bool)
    (seen : List Nat) (acc : σ) :
    Keeps Alike (Taken Alike) (record.readMembers budget depth fuel first seen acc) := by
  induction fuel generalizing first seen acc with
  | zero => exact keeps_error _
  | succ fuel ih =>
    intro s t hst
    rw [Record.readMembers, Record.readMembers]
    refine (keeps_nextMember first hst).bind fun next next' hn => ?_
    cases hn with
    | done hr => exact follows_ok ⟨rfl, hr⟩
    | more hr =>
      refine (keeps_readString hr).bind ?_
      rintro ⟨name, r⟩ ⟨_, r'⟩ ⟨rfl, hr⟩
      dsimp only
      split
      · exact (keeps_readColon hr).bind fun _ _ hr => (keeps_skipValue budget hr).bind fun _ _ hr =>
          ih false seen acc hr
      · next i field hf =>
        split
        · exact follows_error _ _
        · refine (keeps_readColon hr).bind fun _ _ hr =>
            (h field (mem_of_field? hf).1 budget depth hr).bind ?_
          rintro ⟨set, r⟩ ⟨_, r'⟩ ⟨rfl, hr⟩
          exact ih false (i :: seen) (set acc) hr

theorem readItems_nil (required : Nat) (first : Bool) (given : Nat) (acc : σ) (s : List Char) :
    Record.readItems budget depth required [] first given acc s =
      behind ']' (fun r => .ok (acc, r)) (fun r => .error (unexpected r)) (skipSpaces s) := by
  rw [Record.readItems]
  split
  · next h => rw [h]; rfl
  · next h => rw [behind_of_ne h]

theorem keeps_readItems (required : Nat) {fields : List (Field σ)}
    (h : ∀ field ∈ fields, field.shape.Kept) (first : Bool) (given : Nat) (acc : σ) :
    Keeps Alike (Taken Alike) (Record.readItems budget depth required fields first given acc) := by
  induction fields generalizing first given acc with
  | nil =>
    rw [funext (readItems_nil required first given acc)]
    exact (keeps_behind (by decide) (keeps_lift (.ok acc)) (keeps_error _)).spaced
  | cons field fields ih =>
    rw [List.forall_mem_cons] at h
    intro s t hst
    rw [Record.readItems, Record.readItems]
    refine (keeps_nextItem first hst).bind fun next next' hn => ?_
    cases hn with
    | done hr =>
      dsimp only
      split
      · exact follows_error _ _
      · exact follows_ok ⟨rfl, hr⟩
    | more hr =>
      refine (h.1 budget depth hr).bind ?_
      rintro ⟨set, r⟩ ⟨_, r'⟩ ⟨rfl, hr⟩
      exact ih h.2 false (given + 1) (set acc) hr

theorem read_zero (record : Record σ α) (s : List Char) : record.read budget 0 s =
    behind '[' (fun _ => .error .malformed) (behind '{' (fun _ => .error .malformed)
      fun r => .error (wrongKind r)) (skipSpaces s) := by
  cases hs : skipSpaces s with
  | nil =>
    unfold Record.read
    rw [hs]
    rfl
  | cons c q =>
    by_cases hl : c = '['
    · subst hl
      unfold Record.read
      rw [hs]
      rfl
    by_cases ho : c = '{'
    · subst ho
      unfold Record.read
      rw [hs]
      rfl
    rw [read_scalar record hs hl ho, behind_cons hl, behind_cons ho]

theorem read_succ (record : Record σ α) (s : List Char) : record.read budget (depth + 1) s =
    behind '[' (fun r => Record.readItems budget depth record.required record.fields true 0 record.blank r
        >>= fun p => expect (record.finish? p.1) >>= fun x => .ok (x, p.2))
      (behind '{' (fun r => record.readMembers budget depth budget true [] record.blank r
        >>= fun p => expect (record.finish? p.1) >>= fun x => .ok (x, p.2))
        fun r => .error (wrongKind r)) (skipSpaces s) := by
  cases hs : skipSpaces s with
  | nil =>
    unfold Record.read
    rw [hs]
    rfl
  | cons c q =>
    by_cases hl : c = '['
    · subst hl
      exact read_list record hs
    by_cases ho : c = '{'
    · subst ho
      exact read_object record hs
    rw [read_scalar record hs hl ho, behind_cons hl, behind_cons ho]

theorem kept (h : ∀ field ∈ record.fields, field.shape.Kept) : record.shape.Kept := by
  intro budget depth
  show Keeps Alike (Taken Alike) (record.read budget depth)
  cases depth with
  | zero =>
    rw [funext (read_zero record)]
    exact (keeps_behind (by decide) (keeps_error _)
      (keeps_behind (by decide) (keeps_error _) (keeps_error wrongKind))).spaced
  | succ depth =>
    rw [funext (read_succ record)]
    refine (keeps_behind (by decide) ?_ (keeps_behind (by decide) ?_ (keeps_error wrongKind))).spaced
    · exact (keeps_readItems _ h true 0 _).bind fun acc => keeps_expect (record.finish? acc)
    · exact (keeps_readMembers h budget true [] _).bind fun acc => keeps_expect (record.finish? acc)

end Record

/-! ## whole texts -/

section
variable {α : Type} {bytes : List UInt8} {cs : List Char}

theorem spelled_map_some (cs : List Char) : spelled (cs.map some) = cs := by
  induction cs with
  | nil => rfl
  | cons c cs ih => rw [List.map_cons, spelled_some, ih]

/-- well-formed bytes are read as the characters they stand for -/
theorem ofBytes?_eq (reader : Nat → Nat → Reader α) (h : decode? bytes = some cs) :
    ofBytes? reader bytes = (complete reader cs).toOption := by
  unfold ofBytes? complete
  rw [pieces_of_decode? h]
  dsimp only
  rw [spelled_map_some, List.length_map]
  cases reader cs.length maxDepth cs with
  | error f => rfl
  | ok p =>
    show (if (skipSpaces p.2).isEmpty = true then some p.1 else none) =
      (if (skipSpaces p.2).isEmpty = true then .ok p.1 else .error .malformed : Except Fault α).toOption
    split <;> rfl

/-- **What is read of bytes.** What any bytes are read as, the text with its ill-formed pieces replaced is
read as. -/
theorem complete_of_ofBytes? {shape : Shape α} (hs : shape.Kept) {x : α}
    (h : ofBytes? shape.read bytes = some x) : complete shape.read (decodeLossy bytes) = .ok x := by
  unfold ofBytes? at h
  dsimp only at h
  split at h
  · next y rest hr =>
    split at h
    · next hb =>
      cases h
      obtain ⟨⟨_, rest'⟩, hr', rfl, hl⟩ := hs _ _ (alike_spelled (pieces bytes)) _ hr
      replace hl : Alike (skipSpaces rest) (skipSpaces rest') := Similar.skipSpaces hl
      rw [List.isEmpty_iff.mp hb] at hl
      have hlen : (decodeLossy bytes).length = (pieces bytes).length := List.length_map ..
      unfold complete
      rw [hlen, decodeLossy, hr']
      show (if (skipSpaces rest').isEmpty = true then _ else _) = _
      rw [Similar.nil hl]
      rfl
    · cases h
  · cases h

end

end ServerConsole.Json
