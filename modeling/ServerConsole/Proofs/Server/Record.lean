import Mathlib.Algebra.GroupWithZero.Nat
import ServerConsole.Server.Record
import ServerConsole.Proofs.Json.Members

/-!
# Server records read back

* `ofText?_text`       a written identifier is read as itself;
* `Server.valueOf`, `Server.put`  what the written members of a server spell, and what they set;
* `exists_field`       each of them does so in its own field;
* `Server.without`     a server without some of the members that may be left out;
* `ofMembers?_kept`    what the members that are left make of the record;
* `record_round_trip`  a written server is read as itself, whatever stands beside its members, in any order
                       and with defaults for what is left out.
-/

namespace ServerConsole

open Json Text

/-! ## identifiers -/

namespace ServerId

section
variable {ns : List Nat} {cs : List Char}

theorem length_hyphenated (h : ns.sum ≤ cs.length) :
    (hyphenated ns cs).length = cs.length + ns.length := by
  induction ns generalizing cs with
  | nil => rfl
  | cons n ns ih =>
    rw [List.sum_cons] at h
    have hd : ns.sum ≤ (cs.drop n).length := by
      rw [List.length_drop]
      omega
    rw [hyphenated, List.length_append, List.length_cons, ih hd, List.length_take, List.length_drop,
      List.length_cons]
    omega

theorem unhyphenated?_hyphenated (h : ns.sum ≤ cs.length) :
    unhyphenated? ns (hyphenated ns cs) = some cs := by
  induction ns generalizing cs with
  | nil => rfl
  | cons n ns ih =>
    rw [List.sum_cons] at h
    have hn : (cs.take n).length = n := List.length_take_of_le (by omega)
    have hd : ns.sum ≤ (cs.drop n).length := by
      rw [List.length_drop]
      omega
    rw [hyphenated, unhyphenated?, List.drop_left' hn, List.take_left' hn]
    show (unhyphenated? ns (hyphenated ns (cs.drop n))).map (cs.take n ++ ·) = _
    rw [ih hd, Option.map_some, List.take_append_drop]

end

theorem ofDigits?_hexDigits (id : ServerId) : ofDigits? (hexDigits 32 id.bits.toNat) = some id := by
  have hb : id.bits.toNat < Nat.pow 16 32 := id.bits.isLt
  rw [ofDigits?, if_pos (length_hexDigits 32 _), hexNumber?_hexDigits 32 _ hb, Option.map_some,
    BitVec.ofNat_toNat, BitVec.setWidth_eq]

theorem ofText?_text (id : ServerId) : ofText? id.text = some id := by
  have hs : groups.sum ≤ (hexDigits 32 id.bits.toNat).length := by
    rw [length_hexDigits]
    decide
  have hl : id.chars.length = 36 := by
    unfold chars
    rw [length_hyphenated hs, length_hexDigits]
    rfl
  have hc : ofChars? id.chars = ofHyphenated? id.chars := by
    unfold ofChars?
    split
    · next h => omega
    · rfl
    · next h => omega
    · next h => omega
    · next h _ _ => exact absurd hl h
  rw [ofText?, text, String.toList_ofList, hc, ofHyphenated?, if_pos hl]
  unfold chars
  rw [unhyphenated?_hyphenated hs, Option.bind_some]
  exact ofDigits?_hexDigits id

end ServerId

/-! ## members -/

namespace Server

/-- what is read of the member of a name -/
def valueOf (s : Server) : String → Value
  | "id" => .string s.id.text
  | "name" => .string s.name
  | "description" => .string s.description
  | "status" => .string s.status.name
  | "is_suspended" => .bool s.suspendedFlag
  | "memory" => .number (.natural s.memory)
  | "cpu" => .number (.natural s.cpu)
  | "disk" => .number (.natural s.disk)
  | _ => .null

/-- what the member of a name does: the place of its field, and what it sets -/
def put (s : Server) : String → Nat × (Draft → Draft)
  | "id" => (0, fun d => { d with id := some s.id })
  | "name" => (1, fun d => { d with name := some s.name })
  | "description" => (2, fun d => { d with description := s.description })
  | "status" => (3, fun d => { d with status := some s.status })
  | "is_suspended" => (4, fun d => { d with suspendedFlag := s.suspendedFlag })
  | "memory" => (5, fun d => { d with memory := some s.memory })
  | "cpu" => (6, fun d => { d with cpu := some s.cpu })
  | "disk" => (7, fun d => { d with disk := some s.disk })
  | _ => (8, fun d => d)

/-- each written member spells its value, and goes into its field -/
theorem exists_field (s : Server) (depth : Nat) {m : Member} (hm : m ∈ s.members) :
    ∃ field, record.field? m.1 = some ((s.put m.1).1, field) ∧
      Spells depth (tokens m.2) (s.valueOf m.1) ∧ field.shape.AgreesAt (s.valueOf m.1) ∧
      field.shape.ofValue? (s.valueOf m.1) = some (s.put m.1).2 := by
  simp only [members, List.mem_cons, List.not_mem_nil, or_false] at hm
  rcases hm with rfl | rfl | rfl | rfl | rfl | rfl | rfl | rfl
  · refine ⟨.of ["id"] ServerId.shape fun x d => { d with id := some x }, rfl, spells_quote depth _,
      agreesAt_field _ _ (agreesAt_word _ _), ?_⟩
    exact field_ofValue? _ _ (word_ofValue? (ServerId.ofText?_text s.id))
  · exact ⟨_, rfl, spells_quote depth _, agreesAt_field _ _ (agreesAt_word _ _), rfl⟩
  · exact ⟨_, rfl, spells_quote depth _, agreesAt_field _ _ (agreesAt_word _ _), rfl⟩
  · exact ⟨_, rfl, spells_quote depth _, agreesAt_field _ _ (agreesAt_choice _ _),
      congrArg (Option.map _) (Status.ofName?_name s.status)⟩
  · exact ⟨_, rfl, spells_writeBool depth _, agreesAt_field _ _ (agreesAt_bool _), rfl⟩
  · exact ⟨_, rfl, spells_writeNatural depth _, agreesAt_field _ _ (agreesAt_number _ _), rfl⟩
  · exact ⟨_, rfl, spells_writeNatural depth _, agreesAt_field _ _ (agreesAt_number _ _), rfl⟩
  · exact ⟨_, rfl, spells_writeNatural depth _, agreesAt_field _ _ (agreesAt_number _ _), rfl⟩

theorem nodup_places (s : Server) : (s.members.map fun m => (s.put m.1).1).Nodup := by
  show [0, 1, 2, 3, 4, 5, 6, 7].Nodup
  decide

theorem commutes_record : record.fields.Pairwise Field.Commutes := by
  simp only [record, List.pairwise_cons, List.forall_mem_cons, List.not_mem_nil]
  refine ⟨⟨?_, ?_, ?_, ?_, ?_, ?_, ?_, nofun⟩, ⟨?_, ?_, ?_, ?_, ?_, ?_, nofun⟩,
    ⟨?_, ?_, ?_, ?_, ?_, nofun⟩, ⟨?_, ?_, ?_, ?_, nofun⟩, ⟨?_, ?_, ?_, nofun⟩, ⟨?_, ?_, nofun⟩,
    ⟨?_, nofun⟩, nofun, .nil⟩ <;>
    exact Field.commutes_of fun _ _ _ => rfl

/-! ## members left out -/

/-- the two members that a record can do without -/
def optionalNames : List String := ["description", "is_suspended"]

/-- the members of a server, some of them left out -/
def kept (s : Server) (dropped : List String) : List Member := s.members.filter fun m => m.1 ∉ dropped

/-- the server that is read where some members are left out -/
def without (s : Server) (dropped : List String) : Server where
  id := s.id
  name := s.name
  description := if "description" ∈ dropped then "" else s.description
  status := s.status
  suspendedFlag := if "is_suspended" ∈ dropped then false else s.suspendedFlag
  memory := s.memory
  cpu := s.cpu
  disk := s.disk

section
variable (s : Server) {dropped : List String}

theorem without_nil : s.without [] = s := rfl

theorem kept_nil : s.kept [] = s.members := by
  unfold kept
  rw [List.filter_eq_self]
  intro m _
  exact decide_eq_true List.not_mem_nil

theorem finish?_kept (hd : dropped ⊆ optionalNames) :
    Draft.finish? ((s.kept dropped).foldl (fun d m => (s.put m.1).2 d) {}) = some (s.without dropped) := by
  have hin : ∀ name, name ∉ optionalNames → name ∉ dropped := fun name hn h => hn (hd h)
  have h1 := hin "id" (by decide)
  have h2 := hin "name" (by decide)
  have h3 := hin "status" (by decide)
  have h4 := hin "memory" (by decide)
  have h5 := hin "cpu" (by decide)
  have h6 := hin "disk" (by decide)
  unfold kept members without
  by_cases hdesc : "description" ∈ dropped <;> by_cases hflag : "is_suspended" ∈ dropped <;>
    simp only [List.filter_cons, h1, h2, h3, h4, h5, h6, hdesc, hflag, not_true, not_false_eq_true,
      decide_true, decide_false, if_true, Bool.false_eq_true, if_false] <;>
    rfl

theorem ofMembers?_kept (hd : dropped ⊆ optionalNames) :
    record.ofMembers? ((s.kept dropped).map fun m => (m.1, s.valueOf m.1)) = some (s.without dropped) := by
  have hp : ∀ m ∈ s.kept dropped, record.Puts (m.1, s.valueOf m.1) (s.put m.1).1 (s.put m.1).2 := by
    intro m hm
    obtain ⟨field, hf, -, -, hv⟩ := s.exists_field 0 (List.mem_filter.mp hm).1
    exact ⟨field, hf, hv⟩
  have hn : ((s.kept dropped).map fun m => (s.put m.1).1).Nodup :=
    s.nodup_places.sublist (List.filter_sublist.map _)
  rw [Record.ofMembers?_of_puts hp hn]
  exact s.finish?_kept hd

end

/-! ## reading -/

section
variable (s : Server) {text : List Char} {gs unknown : List Given} {dropped : List String}

theorem complete_of_holds (hg : Holds text gs)
    (hperm : gs.Perm ((s.kept dropped).map Given.ofMember ++ unknown)) (hd : dropped ⊆ optionalNames)
    (hu : ∀ g ∈ unknown, g.name ∉ record.names ∧ WellFormed g.spelling) :
    complete shape.read text = .ok (s.without dropped) := by
  have hunknown : ∀ g ∈ unknown, record.field? g.name = none :=
    fun g hg => Record.field?_eq_none (hu g hg).1
  have hadmits : ∀ g ∈ gs, record.Admits (maxDepth - 1) g (s.valueOf g.name) := by
    intro g hg
    rcases List.mem_append.mp (hperm.mem_iff.mp hg) with hk | hk
    · obtain ⟨m, hm, rfl⟩ := List.mem_map.mp hk
      obtain ⟨field, hf, hs, ha, -⟩ := s.exists_field (maxDepth - 1) (List.mem_filter.mp hm).1
      exact .field hf hs ha
    · exact .unknown (hunknown g hk) (hu g hk).2
  have hrest : ∀ m ∈ unknown.map fun g => (g.name, s.valueOf g.name), record.field? m.1 = none := by
    intro m hm
    obtain ⟨g, hg, rfl⟩ := List.mem_map.mp hm
    exact hunknown g hg
  apply eq_ok_of_toOption
  rw [shape, Record.toOption_complete_of_holds hg hadmits,
    Record.ofMembers?_perm commutes_record (hperm.map fun g => (g.name, s.valueOf g.name)),
    List.map_append, Record.ofMembers?_append_unknown _ hrest, List.map_map]
  exact s.ofMembers?_kept hd

end

/-- **Server records.** A written server is read as itself. So is the text of an object that has its members
in any order, with any others among them, whose names are no names of fields and whose values may be any
values at all; where the description or the flag is left out, it is empty, or not set. -/
theorem record_round_trip (s : Server) :
    complete shape.read s.toJson = .ok s ∧
      ∀ (text : List Char) (gs unknown : List Given) (dropped : List String), Holds text gs →
        gs.Perm ((s.kept dropped).map Given.ofMember ++ unknown) → dropped ⊆ optionalNames →
        (∀ g ∈ unknown, g.name ∉ record.names ∧ WellFormed g.spelling) →
        complete shape.read text = .ok (s.without dropped) := by
  refine ⟨?_, fun text gs unknown dropped hg hp hd hu => s.complete_of_holds hg hp hd hu⟩
  have hc : ∀ m ∈ s.members, Closed (tokens m.2) := by
    intro m hm
    obtain ⟨-, -, hs, -⟩ := s.exists_field 0 hm
    exact hs.closed
  have hp : (s.members.map Given.ofMember).Perm ((s.kept []).map Given.ofMember ++ []) := by
    rw [s.kept_nil, List.append_nil]
  rw [← s.without_nil]
  exact s.complete_of_holds (holds_writeObject hc) hp (List.nil_subset _) nofun

/-- the members in another order, with spaces, without the optional ones, and with a number that no double
is large enough for -/
theorem record_round_trip_mixed : complete shape.read
    ("\x7b \"disk\": 3, \"x\": [1e999], \"status\":\"failed\", \"name\":\"\\n\", \"memory\":1, " ++
      "\"cpu\":2, \"id\": \"00000000-0000-0000-0000-00000000000a\"\x7d").toList =
      .ok ⟨⟨10⟩, "\n", "", .failed, false, 1, 2, 3⟩ := by
  let x : Member := ("x", "[1e999]".toList)
  let ms : List Member := [("disk", writeNatural 3), x, ("status", quote "failed"), ("name", quote "\n"),
    ("memory", writeNatural 1), ("cpu", writeNatural 2), ("id", quote "00000000-0000-0000-0000-00000000000a")]
  have hnumber : Plain ['1', 'e', '9', '9', '9'] :=
    .positive ⟨['1'], [], ['e', '9', '9', '9'], rfl, .inr ⟨⟨nofun, List.all_eq_true.mp rfl⟩, by decide⟩,
      .none, .digits (.inl rfl) (List.mem_cons_self ..) ⟨nofun, List.all_eq_true.mp rfl⟩⟩
  have hx : tokens x.2 = [.mark '[', .plain ['1', 'e', '9', '9', '9'], .mark ']'] := by decide +kernel
  have hw : WellFormed (tokens x.2) := by
    rw [hx]
    exact .array [[.plain ['1', 'e', '9', '9', '9']]] (List.forall_mem_singleton.mpr (.plain hnumber))
  refine (record_round_trip ⟨⟨10⟩, "\n", "", .failed, true, 1, 2, 3⟩).2 _ (ms.map Given.ofMember)
    [Given.ofMember x] optionalNames ⟨by decide +kernel, fun g hg => ?_⟩ (by decide +kernel)
    (List.Subset.refl _) (List.forall_mem_singleton.mpr ⟨by decide +kernel, hw⟩)
  obtain ⟨m, -, rfl⟩ := List.mem_map.mp hg
  exact Given.isNamed_ofMember m

end Server

end ServerConsole
