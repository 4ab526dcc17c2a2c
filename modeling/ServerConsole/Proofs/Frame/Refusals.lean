import ServerConsole.Proofs.Frame.Layout

/-!
# How refused messages are told apart

* `Frame.knownNames`       the kinds a message is checked against when it is no frame;
* `Frame.decodeTwice`      a message read as a frame, and once more as any value if that fails;
* `Frame.decode_eq_decodeTwice`  one reading of the value is enough;
* `Frame.member?_of_mem`   with distinct names, the type of an object is the one it carries;
* `Frame.refusals_told_apart`  unknown kinds, missing kinds and broken frames.
-/

namespace ServerConsole.Frame

open Json

/-! ## two readings -/

def knownNames : List String := ["console", "stats", "status", "error"]

theorem isSome_ofName?_iff {k : String} : (FrameKind.ofName? k).isSome = true ↔ k ∈ knownNames := by
  have hn : FrameKind.all.map FrameKind.name = knownNames := rfl
  rw [FrameKind.ofName?, List.find?_isSome, ← hn, List.mem_map]
  simp only [beq_iff_eq]

/-- the value is only looked at when the frame cannot be read -/
def decodeTwice (text : String) : Except Refusal Frame :=
  if maxSize < text.utf8ByteSize then .error (.tooLarge text.utf8ByteSize)
  else match complete (readContent FrameKind.ofName? ofContent?) text.toList with
    | .ok frame => .ok frame
    | .error fault =>
      match parse text.toList with
      | .error fault => .error (.json fault)
      | .ok v =>
        match (v.member? tagName).bind Value.string? with
        | none => .error .noKind
        | some k => if knownNames.contains k then .error (.json fault) else .error (.unknownKind k)

theorem refusalOf_eq (v : Value) :
    refusalOf v =
      match (v.member? tagName).bind Value.string? with
      | none => .noKind
      | some k => if knownNames.contains k then .json .mismatched else .unknownKind k := by
  have hk : ∀ k, (FrameKind.ofName? k).isSome = knownNames.contains k := fun k =>
    Bool.eq_iff_iff.mpr (isSome_ofName?_iff.trans List.contains_iff_mem.symm)
  cases hv : (v.member? tagName).bind Value.string? with
  | none => simp only [refusalOf, hv]
  | some k => simp only [refusalOf, hv, hk]

theorem decode_eq_decodeTwice (text : String) : decode text = decodeTwice text := by
  unfold decode decodeTwice
  split
  · rfl
  cases hp : parse text.toList with
  | error fault =>
    cases hc : complete (readContent FrameKind.ofName? ofContent?) text.toList with
    | error fault' => rfl
    | ok f =>
      -- what is taken as a frame can be read as a value
      obtain ⟨v, hv⟩ := parse_of_complete_readContent hc
      rw [hp] at hv
      cases hv
  | ok v =>
    have hv : ofTagged? FrameKind.ofName? ofContent? v = ofValue? v := rfl
    rw [complete_readContent hp, hv]
    cases hf : ofValue? v with
    | some f => simp only [expect, hf]
    | none =>
      cases hk : (v.member? tagName).bind Value.string? with
      | none => simp only [expect, refusalOf_eq, hf, hk]
      | some k =>
        by_cases hn : knownNames.contains k = true
        · simp only [expect, refusalOf_eq, hf, hk, if_pos hn]
        · simp only [expect, refusalOf_eq, hf, hk, if_neg hn]

/-! ## objects with distinct names -/

section
variable {ms : List (String × Value)}

theorem member?_of_mem (hd : (ms.map Prod.fst).Nodup) {name : String} {v : Value}
    (h : (name, v) ∈ ms) : (Value.object ms).member? name = some v := by
  have hi : ∀ m ∈ ms.reverse, (m.1 == name) = true → m = (name, v) := by
    intro m hm he
    exact List.inj_on_of_nodup_map hd (List.mem_reverse.mp hm) h (beq_iff_eq.mp he)
  show (ms.reverse.find? (·.1 == name)).map (·.2) = some v
  cases hf : ms.reverse.find? (·.1 == name) with
  | none =>
    have hn := List.find?_eq_none.mp hf (name, v) (List.mem_reverse.mpr h)
    exact absurd (beq_self_eq_true name) hn
  | some m =>
    have hn := List.find?_some hf
    rw [hi m (List.mem_of_find?_eq_some hf) hn]
    rfl

theorem mem_of_member? {name : String} {v : Value}
    (h : (Value.object ms).member? name = some v) : (name, v) ∈ ms := by
  obtain ⟨m, hf, rfl⟩ := Option.map_eq_some_iff.mp h
  have hn := List.find?_some hf
  rw [← beq_iff_eq.mp hn]
  exact List.mem_reverse.mp (List.mem_of_find?_eq_some hf)

end

/-! ## kinds -/

theorem kind_of_ofContent? {kind : FrameKind} {content : Value} {f : Frame}
    (h : ofContent? kind content = some f) : f.kind = kind := by
  cases kind with
  | console =>
    obtain ⟨d, hd⟩ := Record.exists_finish? h
    obtain ⟨line, -, rfl⟩ := Option.map_eq_some_iff.mp hd
    rfl
  | stats =>
    obtain ⟨sample, -, rfl⟩ := Option.map_eq_some_iff.mp h
    rfl
  | status | error =>
    obtain ⟨d, hd⟩ := Record.exists_finish? h
    obtain ⟨x, -, rfl⟩ := Option.map_eq_some_iff.mp hd
    rfl

theorem tagOf?_eq_some {v : Value} {kind : FrameKind} (h : tagOf? FrameKind.ofName? v = some kind) :
    v = .string kind.name := by
  cases v with
  | string k =>
    replace h : FrameKind.ofName? k = some kind := h
    have hk := List.find?_some h
    rw [beq_iff_eq.mp hk]
  | null | bool | number | array | object => cases h

/-- a frame is of the kind the type member names -/
theorem mem_of_ofValue? {ms : List (String × Value)} {f : Frame}
    (h : ofValue? (.object ms) = some f) : (tagName, .string f.kind.name) ∈ ms := by
  rw [ofValue?_object] at h
  split at h
  · next m hm =>
    obtain ⟨kind, ht, hf⟩ := Option.bind_eq_some_iff.mp h
    have hmem : m ∈ ms.filter isTag := hm ▸ List.mem_singleton_self m
    obtain ⟨hms, hn⟩ := List.mem_filter.mp hmem
    have he : m = (tagName, .string f.kind.name) := by
      rw [kind_of_ofContent? hf, ← tagOf?_eq_some ht, ← beq_iff_eq.mp hn]
    exact he ▸ hms
  · cases h

/-! ## refusals -/

section
variable {text : String}

theorem decode_of_parse {v : Value} (hs : text.utf8ByteSize ≤ maxSize)
    (hp : parse text.toList = .ok v) :
    decode text = match ofValue? v with | some f => .ok f | none => .error (refusalOf v) := by
  cases hv : ofValue? v with
  | some f => simp only [decode, if_neg (Nat.not_lt.mpr hs), hp, hv]
  | none => simp only [decode, if_neg (Nat.not_lt.mpr hs), hp, hv]

theorem decode_of_not_parse (hp : ∀ v, parse text.toList ≠ .ok v) :
    (text.utf8ByteSize ≤ maxSize → ∃ fault, decode text = .error (.json fault)) ∧
    (maxSize < text.utf8ByteSize → decode text = .error (.tooLarge text.utf8ByteSize)) := by
  constructor
  · intro hs
    cases h : parse text.toList with
    | error fault => exact ⟨fault, by rw [decode, if_neg (Nat.not_lt.mpr hs), h]⟩
    | ok v => exact absurd h (hp v)
  · intro hs
    rw [decode, if_pos hs]

variable {ms : List (String × Value)} (hs : text.utf8ByteSize ≤ maxSize)
  (hp : parse text.toList = .ok (.object ms))

include hs hp

theorem decode_of_tag (hd : (ms.map Prod.fst).Nodup) {k : String}
    (hk : (tagName, .string k) ∈ ms) :
    (k ∉ knownNames → decode text = .error (.unknownKind k)) ∧
    (k ∈ knownNames → (∃ f, decode text = .ok f ∧ f.kind.name = k) ∨
      ∃ fault, decode text = .error (.json fault)) := by
  have hm := member?_of_mem hd hk
  have hkind : ∀ f, ofValue? (.object ms) = some f → f.kind.name = k := by
    intro f hf
    rw [member?_of_mem hd (mem_of_ofValue? hf)] at hm
    exact Value.string.inj (Option.some.inj hm)
  have hr : refusalOf (.object ms) =
      if knownNames.contains k then .json .mismatched else .unknownKind k := by
    rw [refusalOf_eq, hm]
    rfl
  rw [decode_of_parse hs hp, hr]
  cases hv : ofValue? (.object ms) with
  | some f =>
    have hf := hkind f hv
    refine ⟨fun hn => absurd ?_ hn, fun _ => .inl ⟨f, rfl, hf⟩⟩
    rw [← hf, ← isSome_ofName?_iff, FrameKind.ofName?_name]
    rfl
  | none =>
    refine ⟨fun hn => ?_, fun hn => .inr ⟨.mismatched, ?_⟩⟩
    · dsimp only
      rw [if_neg (mt List.contains_iff_mem.mp hn)]
    · dsimp only
      rw [if_pos (List.contains_iff_mem.mpr hn)]

theorem decode_of_no_tag (hk : ∀ k, (tagName, .string k) ∉ ms) :
    decode text = .error .noKind := by
  have hr : refusalOf (.object ms) = .noKind := by
    rw [refusalOf_eq]
    cases hm : (Value.object ms).member? tagName with
    | none => rfl
    | some v =>
      cases v with
      | string k => exact absurd (mem_of_member? hm) (hk k)
      | null | bool | number | array | object => rfl
  have hv : ofValue? (.object ms) = none := by
    cases hv : ofValue? (.object ms) with
    | none => rfl
    | some f => exact absurd (mem_of_ofValue? hv) (hk f.kind.name)
  rw [decode_of_parse hs hp, hr, hv]

end

theorem isForwardCompatible_iff (r : Refusal) :
    r.isForwardCompatible = true ↔ ∃ k, r = .unknownKind k := by
  cases r with
  | unknownKind k => exact ⟨fun _ => ⟨k, rfl⟩, fun _ => rfl⟩
  | json | noKind | tooLarge => exact ⟨nofun, nofun⟩

/-- **Refusals are told apart.** Reading the value at once or only after a frame could not be read
comes to the same. With distinct names, the string the type member carries decides between a frame
of that kind, a broken frame and an unknown kind; without such a member the kind is missing. What is
no value at all is a broken frame, unless it is too long to be looked at. -/
theorem refusals_told_apart :
    (∀ text, decode text = decodeTwice text) ∧
    (∀ (text : String) (ms : List (String × Value)), text.utf8ByteSize ≤ maxSize →
      parse text.toList = .ok (.object ms) → (ms.map Prod.fst).Nodup →
        (∀ k, (tagName, .string k) ∈ ms →
          (k ∉ knownNames → decode text = .error (.unknownKind k)) ∧
          (k ∈ knownNames → (∃ f, decode text = .ok f ∧ f.kind.name = k) ∨
            ∃ fault, decode text = .error (.json fault))) ∧
        ((∀ k, (tagName, .string k) ∉ ms) → decode text = .error .noKind)) ∧
    (∀ text : String, (∀ v, parse text.toList ≠ .ok v) →
      (text.utf8ByteSize ≤ maxSize → ∃ fault, decode text = .error (.json fault)) ∧
      (maxSize < text.utf8ByteSize → decode text = .error (.tooLarge text.utf8ByteSize))) ∧
    ∀ r : Refusal, r.isForwardCompatible = true ↔ ∃ k, r = .unknownKind k := by
  refine ⟨decode_eq_decodeTwice, ?_, fun text => decode_of_not_parse, isForwardCompatible_iff⟩
  intro text ms hs hp hd
  exact ⟨fun k hk => decode_of_tag hs hp hd hk, decode_of_no_tag hs hp⟩

/-- a kind of a newer panel, after a member no frame has a field for -/
theorem refusals_told_apart_newer :
    let text := "\x7b\"online\":true,\"type\":\"players\"\x7d"
    text.utf8ByteSize ≤ maxSize ∧ decode text = .error (.unknownKind "players") := by
  intro text
  have hs : text.utf8ByteSize ≤ maxSize := by decide
  have ht : text.toList =
      objectText [] [boolPart "online" true, quotedPart tagName "players"] [] := by decide
  have hp : parse text.toList =
      .ok (.object [("online", .bool true), (tagName, .string "players")]) := by
    have hl := lists_objectText spaces_nil spaces_nil
      [boolPart "online" true, quotedPart tagName "players"]
    rw [ht]
    exact hl.parse
  have hd := (refusals_told_apart.2.1 text _ hs hp (by decide)).1 "players" (by simp)
  exact ⟨hs, hd.1 (by decide)⟩

/-! ## a text that is too long -/

theorem utf8ByteSize_replicate (n : Nat) :
    (String.ofList (List.replicate n 'x')).utf8ByteSize = n := by
  induction n with
  | zero => rfl
  | succ n ih =>
    rw [List.replicate_succ, ← List.singleton_append, String.ofList_append,
      String.utf8ByteSize_append, ih, Nat.add_comm]
    rfl

theorem parse_replicate_ne (n : Nat) (v : Value) : parse (List.replicate (n + 1) 'x') ≠ .ok v := by
  intro h
  rw [parse_eq_ok_iff, List.replicate_succ, tokens_plain rfl] at h
  generalize tokens ((List.replicate n 'x').dropWhile isPlain) = ts at h
  cases h with
  | plain h => cases h

/-- no value, but not a broken frame either: it is refused for its size before it is looked at -/
theorem oversize_not_broken :
    let text := String.ofList (List.replicate (maxSize + 1) 'x')
    (∀ v, parse text.toList ≠ .ok v) ∧ ¬ ∃ fault, decode text = .error (.json fault) := by
  intro text
  have hp : ∀ v, parse text.toList ≠ .ok v := by
    intro v
    rw [String.toList_ofList]
    exact parse_replicate_ne maxSize v
  have hs : text.utf8ByteSize = maxSize + 1 := utf8ByteSize_replicate (maxSize + 1)
  refine ⟨hp, ?_⟩
  rintro ⟨fault, hf⟩
  rw [(decode_of_not_parse hp).2 (by omega)] at hf
  cases hf

end ServerConsole.Frame
