import ServerConsole.Proofs.Json.Passed
import ServerConsole.Proofs.Json.Tagged

/-!
# Shapes, read from a text and from a value

The two forms of a shape belong together: a text that reads as a value is read with the shape exactly if
the value has this shape, and as what the value stands for.

* `Shape.AgreesAt`       the two forms agree where a text reads as this value;
* `agreesAt_word`, `agreesAt_bool`, `agreesAt_number`, `agreesAt_any`, `agreesAt_choice`  single values;
* `agreesAt_optional`    options;
* `Record.AgreesOn`      the fields of a record agree at the parts of a value, and so does the record
                         (`Record.agreesAt`);
* `toOption_complete`    whole texts.
-/

namespace ServerConsole.Json

section
variable {α β : Type} {budget depth : Nat} {c : Char} {s q r : List Char} {v : Value}

/-- a text that reads as this value is read with the shape exactly if the value has it -/
def Shape.AgreesAt (shape : Shape α) (v : Value) : Prop :=
  ∀ ⦃budget depth : Nat⦄ ⦃s r : List Char⦄, s.length ≤ budget → readValue budget depth s = .ok (v, r) →
    (shape.read budget depth s).toOption = (shape.ofValue? v).map (·, r)

theorem toOption_settle (x : Option α) (r : List Char) : (settle x r).toOption = x.map (·, r) := by
  cases x <;> rfl

theorem toOption_expect (x : Option α) : (expect x).toOption = x := by cases x <;> rfl

theorem readValue_skipSpaces (budget depth : Nat) (s : List Char) :
    readValue budget depth (skipSpaces s) = readValue budget depth s := by
  cases depth <;> rw [readValue, readValue, skipSpaces_skipSpaces]

/-! ## single values -/

theorem agreesAt_word (parse? : String → Option α) (v : Value) : (Shape.word parse?).AgreesAt v := by
  intro budget depth s r _ h
  rw [word_of_readValue h, toOption_settle]
  rfl

theorem word_ofValue? {parse? : String → Option α} {text : String} {x : α} (h : parse? text = some x) :
    (Shape.word parse?).ofValue? (.string text) = some x := h

theorem agreesAt_any (v : Value) : Shape.any.AgreesAt v := by
  intro budget depth s r _ h
  show (readValue budget depth s).toOption = _
  rw [h]
  rfl

theorem bool_read (hs : skipSpaces s = c :: q) : Shape.bool.read budget depth s =
    if c = 't' then (readWord ['r', 'u', 'e'] q).map (true, ·)
    else if c = 'f' then (readWord ['a', 'l', 's', 'e'] q).map (false, ·)
    else .error (wrongKind (c :: q)) := by
  unfold Shape.bool
  dsimp only
  rw [hs]
  split
  · next he => cases he
  · next he =>
    cases he
    exact (map_eq_bind _ _).symm
  · next he =>
    cases he
    exact (map_eq_bind _ _).symm
  · next ht hf =>
    rw [if_neg, if_neg]
    · rintro rfl
      exact hf _ rfl
    · rintro rfl
      exact ht _ rfl

/-- a number whose first character is known -/
def readSigned (c : Char) (q : List Char) : Except Fault (Number × List Char) :=
  if c = '-' then readNumber false q
  else if Text.isDigit c then readNumber true (c :: q)
  else .error (wrongKind (c :: q))

/-- a value without parts, told by its first letter -/
inductive Letter : Char → List Char → Value → List Char → Prop
  | null {q r : List Char} (h : readWord ['u', 'l', 'l'] q = .ok r) : Letter 'n' q .null r
  | true {q r : List Char} (h : readWord ['r', 'u', 'e'] q = .ok r) : Letter 't' q (.bool true) r
  | false {q r : List Char} (h : readWord ['a', 'l', 's', 'e'] q = .ok r) : Letter 'f' q (.bool false) r
  | string {q r : List Char} (text : String) : Letter '"' q (.string text) r
  | number {c : Char} {q r : List Char} (n : Number) (hn : c ≠ 'n') (ht : c ≠ 't') (hf : c ≠ 'f')
      (h : readSigned c q = .ok (n, r)) : Letter c q (.number n) r

theorem letter_of_readScalar (h : readScalar (c :: q) = .ok (v, r)) : Letter c q v r := by
  unfold readScalar at h
  split at h
  · next he =>
    cases he
    obtain ⟨q', hw, h⟩ := bind_eq_ok h
    cases h
    exact .null hw
  · next he =>
    cases he
    obtain ⟨q', hw, h⟩ := bind_eq_ok h
    cases h
    exact .true hw
  · next he =>
    cases he
    obtain ⟨q', hw, h⟩ := bind_eq_ok h
    cases h
    exact .false hw
  · next he =>
    cases he
    obtain ⟨⟨text, q'⟩, -, h⟩ := bind_eq_ok h
    cases h
    exact .string text
  · next he =>
    cases he
    obtain ⟨⟨n, q'⟩, hx, h⟩ := bind_eq_ok h
    cases h
    exact .number n (by decide) (by decide) (by decide) hx
  · next he => cases he
  · next hn ht hf _ hm he =>
    cases he
    split at h
    · next hd =>
      obtain ⟨⟨n, q'⟩, hx, h⟩ := bind_eq_ok h
      cases h
      refine .number n hn ht hf ?_
      rw [readSigned, if_neg hm, if_pos hd]
      exact hx
    · cases h

theorem agreesAt_bool (v : Value) : Shape.bool.AgreesAt v := by
  intro budget depth s r _ h
  cases reads_of_readValue h with
  | list _ q items hs _ =>
    rw [bool_read hs]
    rfl
  | object _ q members hs _ =>
    rw [bool_read hs]
    rfl
  | scalar c q hs h =>
    rw [bool_read hs]
    cases letter_of_readScalar h with
    | null => rfl
    | true h =>
      rw [if_pos rfl, h]
      rfl
    | false h =>
      rw [if_neg (by decide), if_pos rfl, h]
      rfl
    | string => rfl
    | number n hn ht hf =>
      rw [if_neg ht, if_neg hf]
      rfl

theorem number_read (ofNumber? : Number → Option α) (hs : skipSpaces s = c :: q) :
    (Shape.number ofNumber?).read budget depth s =
      readSigned c q >>= fun (n, r) => (expect (ofNumber? n)).map (·, r) := by
  unfold Shape.number readSigned
  dsimp only
  rw [hs]
  simp only [map_eq_bind]
  split
  · next he => cases he
  · next he =>
    cases he
    rfl
  · next hm he =>
    cases he
    rw [if_neg hm]
    split <;> rfl

theorem agreesAt_number (ofNumber? : Number → Option α) (v : Value) :
    (Shape.number ofNumber?).AgreesAt v := by
  intro budget depth s r _ h
  cases reads_of_readValue h with
  | list _ q items hs _ =>
    rw [number_read _ hs]
    rfl
  | object _ q members hs _ =>
    rw [number_read _ hs]
    rfl
  | scalar c q hs h =>
    rw [number_read _ hs]
    cases letter_of_readScalar h with
    | null | true | false | string => rfl
    | number n hn ht hf hx =>
      rw [hx]
      show ((expect (ofNumber? n)).map (·, r)).toOption = (ofNumber? n).map (·, r)
      cases ofNumber? n <;> rfl

/-- a named alternative, where the name stands alone -/
theorem agreesAt_choice (parse? : String → Option α) (name : String) :
    (Shape.choice parse?).AgreesAt (.string name) := by
  intro budget depth s r hb h
  cases reads_of_readValue h with
  | scalar c q hs hq =>
    cases letter_of_readScalar hq with
    | string =>
      have hl : ('"' :: q).length ≤ budget :=
        hs ▸ Nat.le_trans (List.dropWhile_sublist _).length_le hb
      have hv : readValue budget depth ('"' :: q) = .ok (.string name, r) := by
        rw [← hs, readValue_skipSpaces, h]
      have hr : (Shape.choice parse?).read budget depth s =
          (Shape.word parse?).read budget depth ('"' :: q) := by
        unfold Shape.choice
        dsimp only
        rw [hs]
        rfl
      rw [hr]
      exact agreesAt_word parse? (.string name) hl hv

/-! ## options -/

theorem optional_read_null (shape : Shape α) (hs : skipSpaces s = 'n' :: q) :
    (Shape.optional shape).read budget depth s = (readWord ['u', 'l', 'l'] q).map (none, ·) := by
  unfold Shape.optional
  dsimp only
  rw [hs]
  exact (map_eq_bind _ _).symm

theorem optional_read (shape : Shape α) (hs : skipSpaces s = c :: q) (hc : c ≠ 'n') :
    (Shape.optional shape).read budget depth s =
      shape.read budget depth (c :: q) >>= fun (x, r) => .ok (some x, r) := by
  unfold Shape.optional
  dsimp only
  rw [hs]
  split
  · next he => exact absurd (List.cons.inj he).1 hc
  · rfl

theorem optional_ofValue? (shape : Shape α) (hv : v ≠ .null) :
    (Shape.optional shape).ofValue? v = (shape.ofValue? v).map some := by
  cases v with
  | null => exact absurd rfl hv
  | _ => rfl

theorem agreesAt_optional {shape : Shape α} (h : v ≠ .null → shape.AgreesAt v) :
    (Shape.optional shape).AgreesAt v := by
  intro budget depth s r hb hread
  have hsome : ∀ {c q}, skipSpaces s = c :: q → c ≠ 'n' → v ≠ .null →
      ((Shape.optional shape).read budget depth s).toOption =
        ((Shape.optional shape).ofValue? v).map (·, r) := by
    intro c q hs hc hv
    have hx : (shape.read budget depth (c :: q)).toOption = (shape.ofValue? v).map (·, r) := by
      rw [← hs]
      refine h hv (Nat.le_trans (List.dropWhile_sublist _).length_le hb) ?_
      rw [readValue_skipSpaces, hread]
    rw [optional_read shape hs hc, toOption_bind, hx, optional_ofValue? shape hv]
    cases shape.ofValue? v <;> rfl
  cases reads_of_readValue hread with
  | list _ q items hs _ => exact hsome hs (by decide) nofun
  | object _ q members hs _ => exact hsome hs (by decide) nofun
  | scalar c q hs h =>
    cases letter_of_readScalar h with
    | null h =>
      rw [optional_read_null shape hs, h]
      rfl
    | true => exact hsome hs (by decide) nofun
    | false => exact hsome hs (by decide) nofun
    | string => exact hsome hs (by decide) nofun
    | number n hn => exact hsome hs hn nofun

theorem agreesAt_map {shape : Shape α} (f : α → β) (h : shape.AgreesAt v) : (shape.map f).AgreesAt v := by
  intro budget depth s r hb hread
  show (shape.read budget depth s >>= fun (x, r) => .ok (f x, r)).toOption = _
  rw [toOption_bind, h hb hread]
  show _ = ((shape.ofValue? v).map f).map (·, r)
  cases shape.ofValue? v <;> rfl

theorem agreesAt_field {σ : Type} {shape : Shape α} (names : List String) (set : α → σ → σ)
    (h : shape.AgreesAt v) : (Field.of names shape set).shape.AgreesAt v := agreesAt_map set h

theorem field_ofValue? {σ : Type} {shape : Shape α} {x : α} (names : List String) (set : α → σ → σ)
    (h : shape.ofValue? v = some x) : (Field.of names shape set).shape.ofValue? v = some (set x) :=
  congrArg (Option.map set) h

end

/-! ## records -/

namespace Record

variable {σ α : Type} {record : Record σ α} {budget depth fuel : Nat} {first : Bool} {s r : List Char}

/-- the fields of the record agree at the parts of the value that go into them -/
def AgreesOn (record : Record σ α) : Value → Prop
  | .object members => ∀ m ∈ members, ∀ i field, record.field? m.1 = some (i, field) →
      field.shape.AgreesAt m.2
  | .array items => ∀ p ∈ record.fields.zip items, p.1.shape.AgreesAt p.2
  | _ => True

/-- the field of a name is one of the record, and the name is one of the field -/
theorem mem_of_field? {name : String} {i : Nat} {field : Field σ}
    (h : record.field? name = some (i, field)) : field ∈ record.fields ∧ name ∈ field.names := by
  obtain ⟨⟨f, j⟩, hf, he⟩ := Option.map_eq_some_iff.mp h
  obtain ⟨rfl, rfl⟩ := Prod.mk.inj he
  have hn := List.find?_some hf
  exact ⟨List.fst_mem_of_mem_zipIdx (List.mem_of_find?_eq_some hf), List.contains_iff_mem.mp hn⟩

theorem agreesOn_of_forall (h : ∀ field ∈ record.fields, ∀ v, field.shape.AgreesAt v) (v : Value) :
    record.AgreesOn v := by
  cases v with
  | object members => exact fun m _ i field hf => h field (mem_of_field? hf).1 m.2
  | array items => exact fun p hp => h p.1 (List.of_mem_zip hp).1 p.2
  | _ => trivial

section
variable {name : String} {i : Nat} {field : Field σ}

theorem addMember_unknown (state : List Nat × σ) {m : String × Value} (h : record.field? m.1 = none) :
    record.addMember state m = some state := by
  rw [addMember, h]

theorem addMember_field (state : List Nat × σ) {m : String × Value}
    (h : record.field? m.1 = some (i, field)) :
    record.addMember state m = if state.1.contains i then none
      else (field.shape.ofValue? m.2).map fun set => (i :: state.1, set state.2) := by
  rw [addMember, h]

variable {q q' : List Char} (hn : nextMember first s = .ok (.more q)) (hname : readString q = .ok (name, q'))
include hn hname

theorem readMembers_unknown (h : record.field? name = none) (seen : List Nat) (state : σ) :
    record.readMembers budget depth (fuel + 1) first seen state s =
      readColon q' >>= fun r => skipValue budget r >>=
        record.readMembers budget depth fuel false seen state := by
  rw [Record.readMembers, hn]
  show (readString q >>= _) = _
  rw [hname]
  dsimp only [bind, Except.bind]
  rw [h]

theorem readMembers_field (h : record.field? name = some (i, field)) (seen : List Nat) (state : σ) :
    record.readMembers budget depth (fuel + 1) first seen state s =
      if seen.contains i then .error .mismatched
      else readColon q' >>= fun r => field.shape.read budget depth r >>= fun p =>
        record.readMembers budget depth fuel false (i :: seen) (p.1 state) p.2 := by
  rw [Record.readMembers, hn]
  show (readString q >>= _) = _
  rw [hname]
  dsimp only [bind, Except.bind]
  rw [h]

end

/-- members go into a record as they are read -/
theorem readMembers_of_readMembers (record : Record σ α) {acc ms : List (String × Value)}
    (hb : s.length ≤ budget)
    (h : Json.readMembers (readValue budget depth) fuel first acc s = .ok (ms, r)) :
    ∃ new, ms = acc.reverse ++ new ∧ (record.AgreesOn (.object new) → ∀ seen state,
      (record.readMembers budget depth fuel first seen state s).toOption =
        (new.foldlM record.addMember (seen, state)).map fun x => (x.2, r)) := by
  induction fuel generalizing first acc s with
  | zero => cases h
  | succ fuel ih =>
    rw [Json.readMembers] at h
    obtain ⟨next, hn, h⟩ := bind_eq_ok h
    cases next with
    | done q =>
      obtain ⟨rfl, rfl⟩ := Prod.mk.inj (Except.ok.inj h)
      refine ⟨[], (List.append_nil _).symm, fun _ seen state => ?_⟩
      rw [Record.readMembers, hn]
      rfl
    | more q =>
      obtain ⟨⟨name, q1⟩, hname, h⟩ := bind_eq_ok h
      obtain ⟨q2, hcolon, h⟩ := bind_eq_ok h
      obtain ⟨⟨v, q3⟩, hv, h⟩ := bind_eq_ok h
      replace h : Json.readMembers (readValue budget depth) fuel false ((name, v) :: acc) q3 =
        .ok (ms, r) := h
      have h1 := length_of_nextMember hn
      have h2 := length_of_readString hname
      have h3 := length_of_readColon hcolon
      have h4 := length_of_readValue hv
      have hb2 : q2.length ≤ budget := by omega
      obtain ⟨new, rfl, hnew⟩ := ih (by omega) h
      refine ⟨(name, v) :: new, by simp, fun hag seen state => ?_⟩
      replace hnew := hnew fun m hm => hag m (List.mem_cons_of_mem _ hm)
      rw [List.foldlM_cons]
      cases hf : record.field? name with
      | none =>
        rw [readMembers_unknown hn hname hf, addMember_unknown _ hf, hcolon]
        show (skipValue budget q2 >>= _).toOption = _
        rw [skipValue_of_readValue hv hb2]
        exact hnew seen state
      | some place =>
        obtain ⟨i, field⟩ := place
        rw [readMembers_field hn hname hf, addMember_field _ hf]
        by_cases hseen : seen.contains i = true
        · rw [if_pos hseen, if_pos hseen]
          rfl
        · rw [if_neg hseen, if_neg hseen, hcolon]
          show (field.shape.read budget depth q2 >>= _).toOption = _
          rw [toOption_bind, hag _ List.mem_cons_self i field hf hb2 hv]
          cases field.shape.ofValue? v with
          | none => rfl
          | some set => exact hnew (i :: seen) (set state)

/-- what goes into a record, one field after the other -/
def give (fields : List (Field σ)) (items : List Value) (state : σ) : Option σ :=
  (fields.zip items).foldlM
    (fun acc (p : Field σ × Value) => (p.1.shape.ofValue? p.2).map fun set => set acc) state

/-- items go into a record as they are read, where they are as many as it takes -/
theorem readItems_of_readItems (required : Nat) (fields : List (Field σ)) {acc vs : List Value}
    (hb : s.length ≤ budget)
    (h : Json.readItems (readValue budget depth) fuel first acc s = .ok (vs, r)) :
    ∃ new, vs = acc.reverse ++ new ∧ ((∀ p ∈ fields.zip new, p.1.shape.AgreesAt p.2) →
      ∀ given state, required ≤ given + fields.length →
        (Record.readItems budget depth required fields first given state s).toOption =
          if given + new.length < required || fields.length < new.length then none
          else (give fields new state).map (·, r)) := by
  induction fuel generalizing first fields acc s with
  | zero => cases h
  | succ fuel ih =>
    rw [Json.readItems] at h
    obtain ⟨next, hn, h⟩ := bind_eq_ok h
    cases next with
    | done q =>
      obtain ⟨rfl, rfl⟩ := Prod.mk.inj (Except.ok.inj h)
      refine ⟨[], (List.append_nil _).symm, fun _ given state hg => ?_⟩
      cases fields with
      | nil =>
        have hc : (decide (given + ([] : List Value).length < required) ||
            decide (([] : List (Field σ)).length < ([] : List Value).length)) = false := by
          simpa using hg
        rw [Record.readItems, of_nextItem_done hn, hc]
        rfl
      | cons field fields =>
        rw [Record.readItems, hn]
        show (if given < required then _ else _ : Except Fault _).toOption = _
        by_cases hr : given < required
        · rw [if_pos hr, if_pos (by simp [hr])]
          rfl
        · rw [if_neg hr, if_neg (by simpa using hr)]
          rfl
    | more q =>
      obtain ⟨⟨v, q'⟩, hv, h⟩ := bind_eq_ok h
      replace h : Json.readItems (readValue budget depth) fuel false (v :: acc) q' = .ok (vs, r) := h
      have h1 := length_of_nextItem hn
      have h2 := length_of_readValue hv
      cases fields with
      | nil =>
        obtain ⟨new, rfl, -⟩ := ih [] (by omega) h
        refine ⟨v :: new, by simp, fun _ given state _ => ?_⟩
        rw [if_pos (by simp), Record.readItems]
        split
        · next hs =>
          have hd : nextItem first s = .ok (.done _) := nextItem_done hs
          rw [hn] at hd
          cases hd
        · rfl
      | cons field fields =>
        obtain ⟨new, rfl, hnew⟩ := ih fields (by omega) h
        refine ⟨v :: new, by simp, fun hag given state hg => ?_⟩
        rw [List.zip_cons_cons, List.forall_mem_cons] at hag
        rw [List.length_cons] at hg
        rw [Record.readItems, hn]
        show (field.shape.read budget depth q >>= _).toOption = _
        rw [toOption_bind, hag.1 (Nat.le_trans h1 hb) hv]
        have hg' : required ≤ given + 1 + fields.length := by omega
        have hstep := fun set : σ → σ => hnew hag.2 (given + 1) (set state) hg'
        have hlen : given + (v :: new).length = given + 1 + new.length := by
          rw [List.length_cons]
          omega
        rw [hlen, List.length_cons, List.length_cons, give, List.zip_cons_cons, List.foldlM_cons]
        simp only [Nat.succ_lt_succ_iff]
        cases field.shape.ofValue? v with
        | none => split <;> rfl
        | some set => exact hstep set

section
variable {q : List Char} {c : Char}

theorem read_list (record : Record σ α) (hs : skipSpaces s = '[' :: q) :
    record.read budget (depth + 1) s = (do
      let (state, r) ← Record.readItems budget depth record.required record.fields true 0 record.blank q
      let x ← expect (record.finish? state)
      pure (x, r)) := by
  unfold Record.read
  rw [hs]
  rfl

theorem read_object (record : Record σ α) (hs : skipSpaces s = '{' :: q) :
    record.read budget (depth + 1) s = (do
      let (state, r) ← record.readMembers budget depth budget true [] record.blank q
      let x ← expect (record.finish? state)
      pure (x, r)) := by
  unfold Record.read
  rw [hs]
  rfl

theorem read_scalar (record : Record σ α) (hs : skipSpaces s = c :: q) (hl : c ≠ '[') (ho : c ≠ '{') :
    record.read budget depth s = .error (wrongKind (c :: q)) := by
  unfold Record.read
  rw [hs]
  split
  · next he => cases he
  · next he => exact absurd (List.cons.inj he).1 hl
  · next he => exact absurd (List.cons.inj he).1 ho
  · next he => exact absurd (List.cons.inj he).1 hl
  · next he => exact absurd (List.cons.inj he).1 ho
  · rfl

/-- what is read of the parts makes the record, or does not -/
theorem toOption_finish (record : Record σ α) (x : Except Fault (σ × List Char)) (state? : Option σ)
    (h : x.toOption = state?.map (·, r)) :
    (do let (state, r) ← x
        let y ← expect (record.finish? state)
        pure (y, r) : Except Fault (α × List Char)).toOption =
      (state?.bind record.finish?).map (·, r) := by
  rw [toOption_bind, h]
  cases state? with
  | none => rfl
  | some state =>
    show (expect (record.finish? state) >>= _).toOption = _
    rw [toOption_bind, toOption_expect]
    show _ = (record.finish? state).map (·, r)
    cases record.finish? state <;> rfl

end

/-- a record agrees at a value where its fields agree at the parts -/
theorem agreesAt {record : Record σ α} {v : Value} (hr : record.required ≤ record.fields.length)
    (h : record.AgreesOn v) : record.shape.AgreesAt v := by
  intro budget depth s r hb hread
  show (record.read budget depth s).toOption = (record.ofValue? v).map (·, r)
  cases reads_of_readValue hread with
  | list depth q items hs hq =>
    have hl := length_of_skipSpaces hs
    obtain ⟨new, rfl, hnew⟩ := readItems_of_readItems record.required record.fields (by omega) hq
    have hx := hnew h 0 record.blank (by omega)
    rw [Nat.zero_add] at hx
    rw [read_list record hs]
    show _ = (record.ofItems? items).map (·, r)
    unfold ofItems?
    split
    · next hc =>
      rw [if_pos hc] at hx
      exact toOption_finish record _ none hx
    · next hc =>
      rw [if_neg hc] at hx
      exact toOption_finish record _ _ hx
  | object depth q members hs hq =>
    have hl := length_of_skipSpaces hs
    obtain ⟨new, rfl, hnew⟩ := readMembers_of_readMembers record (by omega) hq
    have hx := hnew h [] record.blank
    rw [read_object record hs]
    show _ = (record.ofMembers? members).map (·, r)
    unfold ofMembers?
    cases hm : members.foldlM record.addMember ([], record.blank) with
    | none =>
      rw [hm] at hx
      exact toOption_finish record _ none hx
    | some state =>
      rw [hm] at hx
      exact toOption_finish record _ (some state.2) hx
  | scalar c q hs hq =>
    have hl : c ≠ '[' := by rintro rfl; cases hq
    have ho : c ≠ '{' := by rintro rfl; cases hq
    rw [read_scalar record hs hl ho]
    cases letter_of_readScalar hq <;> rfl

end Record

/-! ## whole texts -/

/-- **A text and its value.** A text that reads as a value at which the shape agrees is read with the shape
exactly if the value has it. -/
theorem toOption_complete {α : Type} {shape : Shape α} {s : List Char} {v : Value} (h : parse s = .ok v)
    (hv : shape.AgreesAt v) : (complete shape.read s).toOption = shape.ofValue? v := by
  obtain ⟨r, hr, hb⟩ := complete_eq_ok h
  unfold complete
  rw [toOption_bind, hv (Nat.le_refl _) hr]
  cases shape.ofValue? v with
  | none => rfl
  | some x =>
    show (if (skipSpaces r).isEmpty = true then _ else _ : Except Fault α).toOption = _
    rw [if_pos hb]
    rfl

end ServerConsole.Json
