import Mathlib.Logic.Relation
import ServerConsole.Proofs.Frame.RoundTrip
import ServerConsole.Proofs.Json.Records

/-!
# The layout of a frame does not matter

* `Frame.fieldNames`        the names that mean something in some kind of frame;
* `Frame.Relaid`            one change of the layout of a text;
* `Frame.ofValue?_perm`     members in another order make the same frame;
* `Frame.Interchangeable`   members that can stand for others in every kind of frame;
* `Frame.decode_of_relaid`  texts that differ by such changes are read as the same frame.
-/

namespace ServerConsole.Frame

open Json

/-! ## fields -/

theorem commutes_consoleRecord : consoleRecord.fields.Pairwise Field.Commutes := by
  simp only [consoleRecord, List.pairwise_cons, List.forall_mem_cons, List.not_mem_nil]
  refine ⟨⟨?_, ?_, nofun⟩, ⟨?_, nofun⟩, nofun, .nil⟩ <;>
    exact Field.commutes_of fun _ _ _ => rfl

theorem commutes_sampleRecord : Sample.record.fields.Pairwise Field.Commutes := by
  simp only [Sample.record, List.pairwise_cons, List.forall_mem_cons, List.not_mem_nil]
  refine ⟨⟨?_, ?_, ?_, ?_, ?_, nofun⟩, ⟨?_, ?_, ?_, ?_, nofun⟩, ⟨?_, ?_, ?_, nofun⟩,
    ⟨?_, ?_, nofun⟩, ⟨?_, nofun⟩, nofun, .nil⟩ <;>
    exact Field.commutes_of fun _ _ _ => rfl

def fieldNames : List String :=
  tagName :: (consoleRecord.names ++ Sample.record.names ++ statusRecord.names ++ errorRecord.names)

/-! ## changes of the layout -/

/-- the two names of the text of an output line -/
def isLineName (name : String) : Bool := name == "line" || name == "data"

/-- one change; every text that reads as an object lists its members (`lists_of_parse`), and can be
changed so -/
inductive Relaid : List Char → List Char → Prop
  | reordered {s s' : List Char} {es es' : List Entry} (h : Lists s es) (h' : Lists s' es')
      (hp : es.Perm es') : Relaid s s'
  /-- spaces at a place that is not inside a token -/
  | spaced {a b w : List Char} (h : tokens (a ++ b) = tokens a ++ tokens b) (hw : Spaces w) :
      Relaid (a ++ b) (a ++ (w ++ b))
  | renamed {s s' : List Char} {before after : List Entry} {e e' : Entry}
      (h : Lists s (before ++ [e] ++ after)) (h' : Lists s' (before ++ [e'] ++ after))
      (hn : isLineName e.name = true) (hn' : isLineName e'.name = true)
      (hv : e'.value = e.value) : Relaid s s'
  | added {s s' : List Char} {before after : List Entry} {e : Entry}
      (h : Lists s (before ++ [] ++ after)) (h' : Lists s' (before ++ [e] ++ after))
      (hn : e.name ∉ fieldNames) : Relaid s s'

/-! ## members -/

theorem ofValue?_object (ms : List (String × Value)) :
    ofValue? (.object ms) =
      match ms.filter isTag with
      | [m] => (tagOf? FrameKind.ofName? m.2).bind fun kind =>
          ofContent? kind (.object (ms.filter (!isTag ·)))
      | _ => none := by
  rw [ofValue?, tagged?_eq]
  match ms.filter isTag with
  | [] | _ :: _ :: _ => rfl
  | [m] => exact Option.bind_map

theorem ofContent?_perm (kind : FrameKind) {ms ms' : List (String × Value)} (h : ms.Perm ms') :
    ofContent? kind (.object ms) = ofContent? kind (.object ms') := by
  cases kind with
  | console => exact Record.ofMembers?_perm commutes_consoleRecord h
  | stats => exact congrArg (Option.map _) (Record.ofMembers?_perm commutes_sampleRecord h)
  | status => exact Record.ofMembers?_perm (List.pairwise_singleton ..) h
  | error => exact Record.ofMembers?_perm (List.pairwise_singleton ..) h

theorem ofValue?_perm {ms ms' : List (String × Value)} (h : ms.Perm ms') :
    ofValue? (.object ms) = ofValue? (.object ms') := by
  have ht := h.filter isTag
  have hc := fun kind => ofContent?_perm kind (h.filter (!isTag ·))
  rw [ofValue?_object, ofValue?_object]
  -- one tag stays the one tag; with none or several there is no frame in any order
  generalize ms.filter isTag = tags, ms'.filter isTag = tags' at ht
  match tags, tags' with
  | [], _ =>
    obtain rfl := List.nil_perm.mp ht
    rfl
  | [m], _ =>
    obtain rfl := List.singleton_perm.mp ht
    exact congrArg (Option.bind _) (funext hc)
  | _ :: _ :: _, [] | _ :: _ :: _, [_] => cases ht.length_eq
  | _ :: _ :: _, _ :: _ :: _ => rfl

/-- members that can stand for others in every kind of frame; none of them is a tag -/
structure Interchangeable (x y : List (String × Value)) : Prop where
  left : x.filter isTag = []
  right : y.filter isTag = []
  console : ∀ state, consoleRecord.addAll state x = consoleRecord.addAll state y
  stats : ∀ state, Sample.record.addAll state x = Sample.record.addAll state y
  status : ∀ state, statusRecord.addAll state x = statusRecord.addAll state y
  error : ∀ state, errorRecord.addAll state x = errorRecord.addAll state y

section
variable {x y : List (String × Value)} {v : Value} {name name' : String}

theorem Interchangeable.ofValue? (h : Interchangeable x y) (a b : List (String × Value)) :
    ofValue? (.object (a ++ x ++ b)) = Frame.ofValue? (.object (a ++ y ++ b)) := by
  have hc : ∀ kind a b, ofContent? kind (.object (a ++ x ++ b)) =
      ofContent? kind (.object (a ++ y ++ b)) := by
    intro kind a b
    cases kind with
    | console => exact Record.ofMembers?_replace h.console a b
    | stats => exact congrArg (Option.map _) (Record.ofMembers?_replace h.stats a b)
    | status => exact Record.ofMembers?_replace h.status a b
    | error => exact Record.ofMembers?_replace h.error a b
  simp only [ofValue?_object, List.filter_append, h.left, h.right, filter_not_isTag h.left,
    filter_not_isTag h.right, hc]

theorem filter_isTag_singleton (h : (name == tagName) = false) : [(name, v)].filter isTag = [] := by
  rw [List.filter_cons_of_neg (by simp [isTag, h])]
  rfl

theorem interchangeable_renamed (h : isLineName name = true) (h' : isLineName name' = true) :
    Interchangeable [(name, v)] [(name', v)] := by
  have hl : ∀ {n : String}, isLineName n = true → n = "line" ∨ n = "data" := by
    intro n hn
    simpa [isLineName] using hn
  have ht : ∀ {n : String}, isLineName n = true → (n == tagName) = false := by
    intro n hn
    rcases hl hn with rfl | rfl <;> rfl
  refine ⟨filter_isTag_singleton (ht h), filter_isTag_singleton (ht h'), ?_, ?_, ?_, ?_⟩ <;>
    refine fun state => Record.addAll_renamed ?_ v state <;>
    rcases hl h with rfl | rfl <;> rcases hl h' with rfl | rfl <;> rfl

theorem interchangeable_added (h : name ∉ fieldNames) : Interchangeable [] [(name, v)] := by
  have hn : name ≠ tagName ∧ name ∉ consoleRecord.names ∧ name ∉ Sample.record.names ∧
      name ∉ statusRecord.names ∧ name ∉ errorRecord.names := by
    simpa [fieldNames, and_assoc] using h
  obtain ⟨ht, hc, hs, hst, he⟩ := hn
  exact {
    left := rfl
    right := filter_isTag_singleton (beq_eq_false_iff_ne.mpr ht)
    console := Record.addAll_unknown (Record.field?_eq_none hc) v
    stats := Record.addAll_unknown (Record.field?_eq_none hs) v
    status := Record.addAll_unknown (Record.field?_eq_none hst) v
    error := Record.addAll_unknown (Record.field?_eq_none he) v }

end

/-! ## texts -/

/-- what a text stands for, whatever its size -/
def Means (s : List Char) (f : Frame) : Prop := ∃ v, parse s = .ok v ∧ ofValue? v = some f

theorem decode_eq_ok_iff {text : String} {f : Frame} :
    decode text = .ok f ↔ text.utf8ByteSize ≤ maxSize ∧ Means text.toList f := by
  unfold decode Means
  by_cases hs : text.utf8ByteSize ≤ maxSize
  · rw [if_neg (Nat.not_lt.mpr hs)]
    cases parse text.toList with
    | error fault => simp
    | ok v => cases hv : ofValue? v <;> simp [hs, hv]
  · rw [if_pos (Nat.not_le.mp hs)]
    simp [hs]

theorem Means.of_lists {s s' : List Char} {es es' : List Entry} {f : Frame} (hm : Means s f)
    (h : Lists s es) (h' : Lists s' es')
    (hv : ofValue? (.object (es.map Entry.member)) = ofValue? (.object (es'.map Entry.member))) :
    Means s' f := by
  obtain ⟨v, hp, hf⟩ := hm
  obtain rfl : _ = v := Except.ok.inj (h.parse.symm.trans hp)
  exact ⟨_, h'.parse, hv ▸ hf⟩

/-- one change of the layout -/
theorem Relaid.means {s s' : List Char} {f : Frame} (h : Relaid s s') (hm : Means s f) :
    Means s' f := by
  cases h with
  | reordered h h' hp => exact hm.of_lists h h' (ofValue?_perm (hp.map _))
  | spaced h hw =>
    obtain ⟨v, hp, hf⟩ := hm
    rw [parse_eq_ok_iff] at hp
    refine ⟨v, ?_, hf⟩
    rw [parse_eq_ok_iff, tokens_insertSpaces h hp.closed hw]
    exact hp
  | @renamed _ _ before after e e' h h' hn hn' hv =>
    refine hm.of_lists h h' ?_
    have hi := interchangeable_renamed (v := e.value) hn hn'
    have he : e'.member = (e'.name, e.value) := by rw [← hv]; rfl
    simp only [List.map_append, List.map_cons, List.map_nil, he]
    exact hi.ofValue? _ _
  | @added _ _ before after e h h' hn =>
    refine hm.of_lists h h' ?_
    have hi := interchangeable_added (v := e.value) hn
    simp only [List.map_append, List.map_cons, List.map_nil]
    exact hi.ofValue? _ _

theorem means_of_relaid {s s' : List Char} {f : Frame}
    (h : Relation.ReflTransGen Relaid s s') (hm : Means s f) : Means s' f := by
  induction h with
  | refl => exact hm
  | tail _ hstep ih => exact hstep.means ih

/-- **The layout does not matter.** Members in another order, spaces between tokens, the other name
of the line, members no frame has a field for: as long as the text is no longer than a message may
be, the frame is the same. -/
theorem decode_of_relaid {text text' : String} {f : Frame} (hd : decode text = .ok f)
    (h : Relation.ReflTransGen Relaid text.toList text'.toList)
    (hs : text'.utf8ByteSize ≤ maxSize) : decode text' = .ok f := by
  obtain ⟨-, hm⟩ := decode_eq_ok_iff.mp hd
  exact decode_eq_ok_iff.mpr ⟨hs, means_of_relaid h hm⟩

/-- the tag moved to the end, the line renamed, one more member, a line break after the bracket -/
theorem decode_of_relaid_moved :
    let f : Frame := .console "hi" none false
    let text := "\x7b\"type\":\"console\",\"line\":\"hi\"\x7d"
    let text' := "\x7b\n\"data\":\"hi\",\"extra\":true,\"type\":\"console\"\x7d"
    decode text = .ok f ∧ Relation.ReflTransGen Relaid text.toList text'.toList ∧
      text'.utf8ByteSize ≤ maxSize ∧ decode text' = .ok f := by
  intro f text text'
  let type := quotedPart tagName "console"
  let line := quotedPart "line" "hi"
  let data := quotedPart "data" "hi"
  let extra := boolPart "extra" true
  have hl : ∀ parts, Lists (objectText [] parts []) (parts.map Part.entry) :=
    lists_objectText spaces_nil spaces_nil
  have hd : decode text = .ok f :=
    (decode_wire (f := f) (by decide) nofun).trans (if_pos (by decide))
  have h1 : Relaid (objectText [] [type, line] []) (objectText [] [line, type] []) :=
    .reordered (hl _) (hl _) (.swap ..)
  have h2 : Relaid (objectText [] [line, type] []) (objectText [] [data, type] []) :=
    @Relaid.renamed _ _ [] [type.entry] line.entry data.entry (hl _) (hl _) rfl rfl rfl
  have h3 : Relaid (objectText [] [data, type] []) (objectText [] [data, extra, type] []) :=
    @Relaid.added _ _ [data.entry] [type.entry] extra.entry (hl _) (hl _) (by decide)
  have h4 : Relaid (objectText [] [data, extra, type] []) ('{' :: '\n' ::
      (joined ([data, extra, type].map Part.text) ++ ['}'])) :=
    .spaced (a := ['{']) (w := ['\n'])
      (by rw [tokens_mark rfl, tokens_nil]; exact tokens_mark (c := '{') rfl)
      (List.forall_mem_singleton.mpr rfl)
  have h : Relation.ReflTransGen Relaid text.toList text'.toList := by
    have ht : text.toList = objectText [] [type, line] [] := by decide
    have ht' : text'.toList =
      '{' :: '\n' :: (joined ([data, extra, type].map Part.text) ++ ['}']) := by decide
    rw [ht, ht']
    exact .tail (.tail (.tail (.single h1) h2) h3) h4
  have hs : text'.utf8ByteSize ≤ maxSize := by decide
  exact ⟨hd, h, hs, decode_of_relaid hd h hs⟩

end ServerConsole.Frame
