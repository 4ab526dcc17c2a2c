import Mathlib.Data.Finset.Dedup
import Mathlib.Data.Finset.Insert
import Mathlib.Data.List.Perm.Basic
import ServerConsole.Json.Shape

/-!
# Records do not depend on the order of their members

* `Field.Commutes`      two fields that go into a record in either order;
* `Record.exists_finish?`   what a record is read from has all it needs;
* `Record.add`          one member more, where it does not matter which came first;
* `Record.ofMembers?_perm`  members in another order give the same;
* `Record.ofMembers?_replace`  so do members for others that go in alike.
-/

namespace ServerConsole.Json

section
variable {σ α β : Type}

/-! ## fields -/

/-- whatever the two values are, it does not matter which goes in first -/
def Field.Commutes (f g : Field σ) : Prop :=
  ∀ v w s t, f.shape.ofValue? v = some s → g.shape.ofValue? w = some t →
    ∀ acc, s (t acc) = t (s acc)

theorem Field.Commutes.symm {f g : Field σ} (h : f.Commutes g) : g.Commutes f :=
  fun v w s t hs ht acc => (h w v t s ht hs acc).symm

theorem Field.commutes_of {names names' : List String} {shape : Shape α} {shape' : Shape β}
    {set : α → σ → σ} {set' : β → σ → σ}
    (h : ∀ x y acc, set x (set' y acc) = set' y (set x acc)) :
    (Field.of names shape set).Commutes (.of names' shape' set') := by
  intro v w s t hs ht acc
  obtain ⟨x, -, rfl⟩ := Option.map_eq_some_iff.mp hs
  obtain ⟨y, -, rfl⟩ := Option.map_eq_some_iff.mp ht
  exact h x y acc

end

namespace Record

section
variable {σ α : Type} (record : Record σ α)

def names : List String := record.fields.flatMap Field.names

variable {record}

theorem field?_eq_none {name : String} (h : name ∉ record.names) : record.field? name = none := by
  have hn : record.fields.zipIdx.find? (·.1.names.contains name) = none := by
    rw [List.find?_eq_none]
    intro p hp hc
    have hf : p.1 ∈ record.fields := List.fst_mem_of_mem_zipIdx hp
    exact h (List.mem_flatMap.mpr ⟨p.1, hf, List.contains_iff_mem.mp hc⟩)
  rw [field?, hn]
  rfl

theorem getElem?_of_field? {name : String} {i : Nat} {field : Field σ}
    (h : record.field? name = some (i, field)) : record.fields[i]? = some field := by
  obtain ⟨⟨f, j⟩, hf, he⟩ := Option.map_eq_some_iff.mp h
  obtain ⟨rfl, rfl⟩ := Prod.mk.inj he
  exact List.mem_zipIdx_iff_getElem?.mp (List.mem_of_find?_eq_some hf)

theorem commutes_of_ne (hc : record.fields.Pairwise Field.Commutes) {i j : Nat} {f g : Field σ}
    (hf : record.fields[i]? = some f) (hg : record.fields[j]? = some g) (hn : i ≠ j) :
    f.Commutes g := by
  obtain ⟨hi, rfl⟩ := List.getElem?_eq_some_iff.mp hf
  obtain ⟨hj, rfl⟩ := List.getElem?_eq_some_iff.mp hg
  rw [List.pairwise_iff_getElem] at hc
  rcases Nat.lt_or_gt_of_ne hn with h | h
  · exact hc i j hi hj h
  · exact (hc j i hj hi h).symm

/-- what is read of a record, as members or as items, is a draft that could be finished -/
theorem exists_finish? {v : Value} {x : α} (h : record.ofValue? v = some x) :
    ∃ acc, record.finish? acc = some x := by
  cases v with
  | object ms =>
    obtain ⟨state, -, hx⟩ := Option.bind_eq_some_iff.mp h
    exact ⟨state.2, hx⟩
  | array items =>
    replace h : record.ofItems? items = some x := h
    unfold ofItems? at h
    split at h
    · cases h
    · obtain ⟨acc, -, hx⟩ := Option.bind_eq_some_iff.mp h
      exact ⟨acc, hx⟩
  | null | bool | number | string => cases h

/-! ## members -/

variable (record)

/-- one member more; of the members before, the positions they had are known, but not their order -/
def add (state : Option (Finset Nat × σ)) (member : String × Value) : Option (Finset Nat × σ) :=
  state.bind fun (given, acc) =>
    match record.field? member.1 with
    | none => some (given, acc)
    | some (i, field) =>
      if i ∈ given then none
      else (field.shape.ofValue? member.2).map fun set => (insert i given, set acc)

def addAll (state : Option (Finset Nat × σ)) (members : List (String × Value)) :
    Option (Finset Nat × σ) :=
  members.foldl record.add state

variable {record}

/-- a member of no field changes nothing -/
theorem add_unknown {member : String × Value} (h : record.field? member.1 = none)
    (state : Option (Finset Nat × σ)) : record.add state member = state := by
  rw [add, h]
  exact Option.bind_fun_some state

theorem add_field {member : String × Value} {i : Nat} {field : Field σ}
    (h : record.field? member.1 = some (i, field)) (given : Finset Nat) (acc : σ) :
    record.add (some (given, acc)) member =
      if i ∈ given then none
      else (field.shape.ofValue? member.2).map fun set => (insert i given, set acc) := by
  rw [add, h]
  rfl

theorem addAll_append (state : Option (Finset Nat × σ)) (a b : List (String × Value)) :
    record.addAll state (a ++ b) = record.addAll (record.addAll state a) b :=
  List.foldl_append

theorem map_addMember (seen : List Nat) (acc : σ) (member : String × Value) :
    (record.addMember (seen, acc) member).map (fun s => (s.1.toFinset, s.2)) =
      record.add (some (seen.toFinset, acc)) member := by
  cases h : record.field? member.1 with
  | none =>
    rw [add_unknown h, addMember, h]
    rfl
  | some p =>
    obtain ⟨i, field⟩ := p
    rw [add_field h, addMember, h]
    dsimp only
    by_cases hi : i ∈ seen
    · rw [if_pos (List.contains_iff_mem.mpr hi), if_pos (List.mem_toFinset.mpr hi)]
      rfl
    · rw [if_neg (mt List.contains_iff_mem.mp hi), if_neg (mt List.mem_toFinset.mp hi),
        Option.map_map]
      refine congrArg (Option.map · _) (funext fun set => ?_)
      exact congrArg (·, set acc) List.toFinset_cons

theorem addAll_none (members : List (String × Value)) : record.addAll none members = none := by
  induction members with
  | nil => rfl
  | cons m ms ih => exact ih

theorem map_foldlM_addMember (members : List (String × Value)) (seen : List Nat) (acc : σ) :
    (members.foldlM record.addMember (seen, acc)).map (fun s => (s.1.toFinset, s.2)) =
      record.addAll (some (seen.toFinset, acc)) members := by
  induction members generalizing seen acc with
  | nil => rfl
  | cons m ms ih =>
    show _ = record.addAll (record.add _ m) ms
    rw [List.foldlM_cons, ← map_addMember]
    cases record.addMember (seen, acc) m with
    | none => exact (addAll_none ms).symm
    | some state => exact ih state.1 state.2

theorem ofMembers?_eq (members : List (String × Value)) :
    record.ofMembers? members =
      (record.addAll (some (∅, record.blank)) members).bind fun s => record.finish? s.2 := by
  rw [ofMembers?, ← List.toFinset_nil, ← map_foldlM_addMember, Option.bind_map]
  rfl

theorem add_comm (hc : record.fields.Pairwise Field.Commutes)
    (state : Option (Finset Nat × σ)) (m m' : String × Value) :
    record.add (record.add state m) m' = record.add (record.add state m') m := by
  cases h : record.field? m.1 with
  | none => rw [add_unknown h, add_unknown h]
  | some p =>
  cases h' : record.field? m'.1 with
  | none => rw [add_unknown h', add_unknown h']
  | some q =>
  cases state with
  | none => rfl
  | some state =>
    obtain ⟨⟨i, f⟩, ⟨j, g⟩, given, acc⟩ := p, q, state
    simp only [add, h, h', Option.bind_some]
    by_cases hij : i = j
    · -- one field cannot be given twice
      subst hij
      obtain rfl : f = g :=
        Option.some.inj ((getElem?_of_field? h).symm.trans (getElem?_of_field? h'))
      split
      · rfl
      · cases f.shape.ofValue? m.2 <;> cases f.shape.ofValue? m'.2 <;> simp
    · have hfg := commutes_of_ne hc (getElem?_of_field? h) (getElem?_of_field? h') hij
      by_cases hi : i ∈ given <;> by_cases hj : j ∈ given <;>
        cases hs : f.shape.ofValue? m.2 <;> cases ht : g.shape.ofValue? m'.2 <;>
        simp [hi, hj, hij, Ne.symm hij]
      exact ⟨Finset.insert_comm .., (hfg _ _ _ _ hs ht acc).symm⟩

theorem ofMembers?_perm (hc : record.fields.Pairwise Field.Commutes)
    {ms ms' : List (String × Value)} (h : ms.Perm ms') :
    record.ofMembers? ms = record.ofMembers? ms' := by
  have he : record.addAll (some (∅, record.blank)) ms =
      record.addAll (some (∅, record.blank)) ms' :=
    h.foldl_eq' (fun m _ m' _ state => add_comm hc state m m') _
  rw [ofMembers?_eq, ofMembers?_eq, he]

theorem ofMembers?_replace {x y : List (String × Value)}
    (h : ∀ state, record.addAll state x = record.addAll state y) (a b : List (String × Value)) :
    record.ofMembers? (a ++ x ++ b) = record.ofMembers? (a ++ y ++ b) := by
  rw [ofMembers?_eq, ofMembers?_eq, addAll_append, addAll_append, addAll_append, addAll_append, h]

/-- two names of one field are as good as each other -/
theorem addAll_renamed {name name' : String} (h : record.field? name = record.field? name')
    (v : Value) (state : Option (Finset Nat × σ)) :
    record.addAll state [(name, v)] = record.addAll state [(name', v)] := by
  show record.add state _ = record.add state _
  rw [add, add, h]

theorem addAll_unknown {name : String} (h : record.field? name = none)
    (v : Value) (state : Option (Finset Nat × σ)) :
    record.addAll state [] = record.addAll state [(name, v)] := by
  have hm : record.field? ((name, v) : String × Value).1 = none := h
  exact (add_unknown hm state).symm

end

end Record

end ServerConsole.Json
