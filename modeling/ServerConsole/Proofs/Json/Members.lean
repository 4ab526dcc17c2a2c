import ServerConsole.Proofs.Json.Ignored
import ServerConsole.Proofs.Json.Records
import ServerConsole.Proofs.Json.Shapes
import ServerConsole.Proofs.Json.Written

/-!
# Records in texts of objects

A record is read from the text of an object whatever else the object has. What the record does not ask
for may be any value at all.

* `holds_writeObject`  a written object holds the members it was written from;
* `Record.readMembers_of_tokens`  members go into a record one after the other;
* `Record.toOption_complete_of_holds`  the text is read as what the members make of the record;
* `Record.ofMembers?_append_unknown`  members that are not asked for make no difference.
-/

namespace ServerConsole.Json

/-! ## texts of objects -/

theorem holds_writeObject {ms : List Member} (h : ∀ m ∈ ms, Closed (tokens m.2)) :
    Holds (writeObject ms) (ms.map Given.ofMember) where
  tokens_eq := by
    have hc : ∀ text ∈ ms.map writeMember, Closed (tokens text) := by
      intro text ht
      obtain ⟨m, hm, rfl⟩ := List.mem_map.mp ht
      exact closed_writeMember (h m hm)
    have hm : (ms.map writeMember).map tokens = (ms.map Given.ofMember).map Given.tokens := by
      rw [List.map_map, List.map_map]
      exact List.map_congr_left fun m _ => tokens_writeMember m
    rw [writeObject, tokens_object hc, hm, tokens_nil]
  isNamed := by
    intro g hg
    obtain ⟨m, -, rfl⟩ := List.mem_map.mp hg
    exact Given.isNamed_ofMember m

/-! ## records -/

namespace Record

section
variable {σ α : Type} {record : Record σ α} {value : Given → Value} {depth : Nat} {s : List Char}
  {rest : List Token} {gs : List Given}

/-- the member goes into a field that agrees at its value, or it is not asked for -/
inductive Admits (record : Record σ α) (depth : Nat) (g : Given) (v : Value) : Prop
  | unknown (hf : record.field? g.name = none) (h : WellFormed g.spelling)
  | field {i : Nat} {field : Field σ} (hf : record.field? g.name = some (i, field))
      (h : Spells depth g.spelling v) (ha : field.shape.AgreesAt v)

theorem readMembers_of_tokens {budget fuel : Nat} {first : Bool} (hn : ∀ g ∈ gs, g.IsNamed)
    (ha : ∀ g ∈ gs, record.Admits depth g (value g))
    (h : tokens s = separated first (gs.map Given.tokens) ++ .mark '}' :: rest) (hb : s.length ≤ budget)
    (hf : (tokens s).length ≤ fuel) :
    ∃ r, tokens r = rest ∧ ∀ seen state,
      (record.readMembers budget depth fuel first seen state s).toOption =
        ((gs.map fun g => (g.name, value g)).foldlM record.addMember (seen, state)).map (·.2, r) := by
  induction gs generalizing first s fuel with
  | nil =>
    have hs : tokens s = .mark '}' :: rest := by
      rw [h]
      cases first <;> rfl
    obtain ⟨r, hr, ht⟩ := skipSpaces_of_mark hs
    cases fuel with
    | zero => rw [hs] at hf; cases hf
    | succ fuel =>
      refine ⟨r, ht, fun seen state => ?_⟩
      rw [Record.readMembers, nextMember_done hr]
      rfl
  | cons g gs ih =>
    rw [List.forall_mem_cons] at hn ha
    rw [List.map_cons, separated_cons, List.append_assoc, List.append_assoc, Given.tokens,
      List.cons_append, List.cons_append] at h
    obtain ⟨q, hq, htq⟩ := nextMember_more h
    obtain ⟨q', hcolon, htq'⟩ := readColon_of_tokens htq
    have hname := (readString_append hn.1 q).2
    have h1 := length_of_nextMember hq
    have h2 := length_of_readString hname
    have h3 := length_of_readColon hcolon
    have hlt : (tokens q').length < (tokens s).length := by
      rw [h, htq']
      simp
      omega
    cases fuel with
    | zero => omega
    | succ fuel =>
    cases ha.1 with
    | unknown hfield hw =>
      obtain ⟨p, hp, h4, htp⟩ := skipValue_of_wellFormed hw htq' (by omega : q'.length ≤ budget)
      have hle : (tokens p).length ≤ (tokens q').length := by
        rw [htq', htp]
        exact (List.sublist_append_right g.spelling _).length_le
      have hf' : (tokens p).length ≤ fuel := by omega
      obtain ⟨r, hr, hread⟩ := ih hn.2 ha.2 htp (by omega) hf'
      refine ⟨r, hr, fun seen state => ?_⟩
      rw [readMembers_unknown hq hname hfield, hcolon, List.map_cons, List.foldlM_cons,
        addMember_unknown _ hfield]
      show (skipValue budget q' >>= _).toOption = _
      rw [hp]
      exact hread seen state
    | @field i field hfield hs hag =>
      obtain ⟨p, hp, htp⟩ := readValue_of_spells hs htq'
        (Nat.le_trans (length_tokens_le q') (by omega : q'.length ≤ budget))
      have h4 := length_of_readValue hp
      have hle : (tokens p).length ≤ (tokens q').length := by
        rw [htq', htp]
        exact (List.sublist_append_right g.spelling _).length_le
      have hf' : (tokens p).length ≤ fuel := by omega
      obtain ⟨r, hr, hread⟩ := ih hn.2 ha.2 htp (by omega) hf'
      refine ⟨r, hr, fun seen state => ?_⟩
      rw [readMembers_field hq hname hfield, hcolon, List.map_cons, List.foldlM_cons,
        addMember_field _ hfield]
      split
      · rfl
      · show (field.shape.read budget depth q' >>= _).toOption = _
        rw [toOption_bind, hag (by omega : q'.length ≤ budget) hp]
        cases field.shape.ofValue? (value g) with
        | none => rfl
        | some set => exact hread (i :: seen) (set state)

/-- **Whatever else there is.** The text of an object is read as what its members make of the record. -/
theorem toOption_complete_of_holds (h : Holds s gs)
    (ha : ∀ g ∈ gs, record.Admits (maxDepth - 1) g (value g)) :
    (complete record.shape.read s).toOption = record.ofMembers? (gs.map fun g => (g.name, value g)) := by
  obtain ⟨q, hs, hq⟩ := skipSpaces_of_mark h.tokens_eq
  have hl := length_of_skipSpaces hs
  obtain ⟨r, hr, hread⟩ := readMembers_of_tokens h.isNamed ha hq (Nat.le_of_lt hl)
    (Nat.le_trans (length_tokens_le q) (Nat.le_of_lt hl))
  have hx : (record.read s.length (maxDepth - 1 + 1) s).toOption =
      (record.ofMembers? (gs.map fun g => (g.name, value g))).map (·, r) := by
    rw [read_object record hs]
    have hall := hread [] record.blank
    unfold ofMembers?
    cases hm : (gs.map fun g => (g.name, value g)).foldlM record.addMember ([], record.blank) with
    | none =>
      rw [hm] at hall
      exact toOption_finish record _ none hall
    | some state =>
      rw [hm] at hall
      exact toOption_finish record _ (some state.2) hall
  show (record.read s.length (maxDepth - 1 + 1) s >>= fun p =>
    if (skipSpaces p.2).isEmpty then pure p.1 else .error .malformed).toOption = _
  rw [toOption_bind, hx]
  cases record.ofMembers? (gs.map fun g => (g.name, value g)) with
  | none => rfl
  | some x =>
    show (if (skipSpaces r).isEmpty then _ else _ : Except Fault α).toOption = _
    rw [skipSpaces_of_nil hr]
    rfl

/-- the member goes into the field at this place, and sets this there -/
def Puts (record : Record σ α) (m : String × Value) (place : Nat) (set : σ → σ) : Prop :=
  ∃ field, record.field? m.1 = some (place, field) ∧ field.shape.ofValue? m.2 = some set

/-- members of different fields go in one after the other -/
theorem foldlM_of_puts {ι : Type} {xs : List ι} {member : ι → String × Value} {place : ι → Nat}
    {set : ι → σ → σ} (hp : ∀ x ∈ xs, record.Puts (member x) (place x) (set x)) {seen : List Nat}
    (hn : (seen ++ xs.map place).Nodup) (acc : σ) :
    ∃ seen', (xs.map member).foldlM record.addMember (seen, acc) =
      some (seen', xs.foldl (fun acc x => set x acc) acc) := by
  induction xs generalizing seen acc with
  | nil => exact ⟨seen, rfl⟩
  | cons x xs ih =>
    rw [List.forall_mem_cons] at hp
    obtain ⟨⟨field, hf, hv⟩, hp⟩ := hp
    rw [List.map_cons, List.nodup_middle] at hn
    have hx : place x ∉ seen := fun h => (List.nodup_cons.mp hn).1 (List.mem_append_left _ h)
    have hn' : ((place x :: seen) ++ xs.map place).Nodup := hn
    obtain ⟨seen', h⟩ := ih hp hn' (set x acc)
    refine ⟨seen', ?_⟩
    rw [List.map_cons, List.foldlM_cons, addMember_field _ hf, if_neg (mt List.contains_iff_mem.mp hx), hv]
    exact h

theorem ofMembers?_of_puts {ι : Type} {xs : List ι} {member : ι → String × Value} {place : ι → Nat}
    {set : ι → σ → σ} (hp : ∀ x ∈ xs, record.Puts (member x) (place x) (set x))
    (hn : (xs.map place).Nodup) :
    record.ofMembers? (xs.map member) = record.finish? (xs.foldl (fun acc x => set x acc) record.blank) := by
  have hn' : ([] ++ xs.map place).Nodup := hn
  obtain ⟨seen, h⟩ := foldlM_of_puts hp hn' record.blank
  rw [ofMembers?, h, Option.bind_some]

/-- members that are not asked for make no difference -/
theorem ofMembers?_append_unknown (ms : List (String × Value)) {unknown : List (String × Value)}
    (hu : ∀ m ∈ unknown, record.field? m.1 = none) :
    record.ofMembers? (ms ++ unknown) = record.ofMembers? ms := by
  have hnone : ∀ state, unknown.foldlM record.addMember state = some state := by
    induction unknown with
    | nil => exact fun state => rfl
    | cons m unknown ih =>
      rw [List.forall_mem_cons] at hu
      intro state
      rw [List.foldlM_cons, addMember_unknown state hu.1]
      exact ih hu.2 state
  unfold ofMembers?
  rw [List.foldlM_append]
  cases ms.foldlM record.addMember ([], record.blank) with
  | none => rfl
  | some state =>
    show (unknown.foldlM record.addMember state).bind _ = _
    rw [hnone]

end

end Record

end ServerConsole.Json
