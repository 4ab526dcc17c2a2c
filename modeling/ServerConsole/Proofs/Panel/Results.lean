import Mathlib.Control.Monad.Basic
import ServerConsole.Panel.Call
import ServerConsole.Proofs.Json.Bytes

/-!
# What a response comes to

Whether a call succeeded is what the envelope says. The status only counts where there is no envelope,
and as a part of the failure.

* `Envelope.Says`          what a value says of success, and `Envelope.says_of_ofValue?` that it is this
                          which the envelope holds;
* `Response.envelope?_eq`, `Response.ofValue?_of_envelope?`  the envelope of a body that reads as a value,
                          as it is or with its ill-formed bytes replaced;
* `Response.Outcome`      everything a response can come to;
* `outcome_of_payload`    what a call makes of a response is one of these;
* `reason_not_blank`      whatever a response fails with can be shown;
* `power_outcome`         the result of a power call.
-/

namespace ServerConsole.Panel

open Json Text

/-! ## reasons -/

theorem defaultReason_not_blank : isBlankText Envelope.defaultReason = false := by decide

theorem phrases_not_blank : ∀ p ∈ reasonPhrases, isBlankText p.2 = false := by decide +kernel

theorem reasonPhrase?_not_blank {status : UInt16} {phrase : String}
    (h : reasonPhrase? status = some phrase) : isBlankText phrase = false := by
  obtain ⟨p, hp, rfl⟩ := Option.map_eq_some_iff.mp h
  exact phrases_not_blank p (List.mem_of_find?_eq_some hp)

/-- the wording for a status, with a phrase of its own or not, can be shown -/
theorem phrase_not_blank (status : UInt16) :
    isBlankText ((reasonPhrase? status).getD Envelope.defaultReason) = false := by
  cases h : reasonPhrase? status with
  | none => exact defaultReason_not_blank
  | some phrase => exact reasonPhrase?_not_blank h

namespace Envelope

variable {α : Type} {e : Envelope α}

theorem reason_not_blank (e : Envelope α) : isBlankText e.reason = false := by
  rw [reason]
  split
  · split
    · exact defaultReason_not_blank
    · next hb => exact Bool.eq_false_iff.mpr hb
  · exact defaultReason_not_blank

theorem result_of_success (h : e.success = true) : e.result = .ok e.payload := by rw [result, if_pos h]

theorem result_of_failure (h : e.success = false) : e.result = .error e.reason := by
  rw [result, if_neg (Bool.eq_false_iff.mp h)]

/-! ## values -/

section
variable {payload : Shape α} {v : Value}

theorem agreesAt (h : ∀ v, payload.AgreesAt v) (v : Value) : (shape payload).AgreesAt v := by
  refine Record.agreesAt (show 2 ≤ 3 by decide) (Record.agreesOn_of_forall (fun field hf v => ?_) v)
  simp only [record, List.mem_cons, List.not_mem_nil, or_false] at hf
  rcases hf with rfl | rfl | rfl
  · exact agreesAt_field _ _ (agreesAt_bool v)
  · exact agreesAt_field _ _ (agreesAt_optional fun _ => h v)
  · exact agreesAt_field _ _ (agreesAt_optional fun _ => agreesAt_word _ v)

theorem kept (h : payload.Kept) : (shape payload).Kept := by
  refine Record.kept fun field hf => ?_
  simp only [record, List.mem_cons, List.not_mem_nil, or_false] at hf
  rcases hf with rfl | rfl | rfl
  · exact kept_field _ _ kept_bool
  · exact kept_field _ _ (kept_optional h)
  · exact kept_field _ _ (kept_optional (kept_word _))

/-- what a value says of success: the member of an object, or the first item of a list -/
def Says (v : Value) (b : Bool) : Prop :=
  match v with
  | .object members => ("success", .bool b) ∈ members
  | .array items => items.head? = some (.bool b)
  | _ => False

theorem bool_ofValue? {b : Bool} (h : Shape.bool.ofValue? v = some b) : v = .bool b := by
  cases v with
  | bool c => exact congrArg Value.bool (Option.some.inj h)
  | _ => cases h

/-- one member: it says so, or what was said before stands -/
theorem success_addMember {state state' : List Nat × Draft α} {m : String × Value}
    (h : (record payload).addMember state m = some state') :
    state'.2.success = state.2.success ∨
      ∃ b, state'.2.success = some b ∧ m = ("success", .bool b) := by
  unfold Record.addMember at h
  split at h
  · rw [Option.some.inj h]
    exact .inl rfl
  · next i field hf =>
    split at h
    · cases h
    obtain ⟨set, hset, rfl⟩ := Option.map_eq_some_iff.mp h
    obtain ⟨hm, hn⟩ := Record.mem_of_field? hf
    simp only [record, List.mem_cons, List.not_mem_nil, or_false] at hm
    rcases hm with rfl | rfl | rfl
    · obtain ⟨b, hb, rfl⟩ := Option.map_eq_some_iff.mp hset
      exact .inr ⟨b, rfl, Prod.ext (List.mem_singleton.mp hn) (bool_ofValue? hb)⟩
    · obtain ⟨x, -, rfl⟩ := Option.map_eq_some_iff.mp hset
      exact .inl rfl
    · obtain ⟨x, -, rfl⟩ := Option.map_eq_some_iff.mp hset
      exact .inl rfl

theorem success_addMembers {members : List (String × Value)} {state state' : List Nat × Draft α} {b : Bool}
    (h : members.foldlM (record payload).addMember state = some state')
    (hb : state'.2.success = some b) :
    state.2.success = some b ∨ ("success", .bool b) ∈ members := by
  induction members generalizing state with
  | nil =>
    rw [Option.some.inj h]
    exact .inl hb
  | cons m members ih =>
    rw [List.foldlM_cons] at h
    obtain ⟨next, hn, h⟩ := Option.bind_eq_some_iff.mp h
    rcases ih h with hs | hs
    · rcases success_addMember hn with he | ⟨c, hc, rfl⟩
      · exact .inl (he ▸ hs)
      · rw [hc] at hs
        obtain rfl := Option.some.inj hs
        exact .inr List.mem_cons_self
    · exact .inr (List.mem_cons_of_mem m hs)

/-- what a field leaves alone, items leave alone -/
theorem success_give {fields : List (Json.Field (Draft α))}
    (hf : ∀ field ∈ fields, ∀ v set, field.shape.ofValue? v = some set →
      ∀ d, (set d).success = d.success)
    {items : List Value} {d d' : Draft α} (h : Record.give fields items d = some d') :
    d'.success = d.success := by
  induction fields generalizing items d with
  | nil => rw [Option.some.inj h]
  | cons field fields ih =>
    rw [List.forall_mem_cons] at hf
    cases items with
    | nil => rw [Option.some.inj h]
    | cons item items =>
      obtain ⟨next, hn, h⟩ := Option.bind_eq_some_iff.mp h
      obtain ⟨set, hset, rfl⟩ := Option.map_eq_some_iff.mp hn
      rw [ih hf.2 h, hf.1 item set hset]

/-- the fields behind the first one -/
theorem success_rest (payload : Shape α) : ∀ field ∈ (record payload).fields.tail, ∀ v set,
    field.shape.ofValue? v = some set → ∀ d, (set d).success = d.success := by
  intro field hf v set hset d
  simp only [record, List.tail_cons, List.mem_cons, List.not_mem_nil, or_false] at hf
  rcases hf with rfl | rfl <;> obtain ⟨x, -, rfl⟩ := Option.map_eq_some_iff.mp hset <;> rfl

theorem success_of_finish? {d : Draft α} {e : Envelope α} (h : (record payload).finish? d = some e) :
    d.success = some e.success := by
  obtain ⟨b, hb, rfl⟩ := Option.map_eq_some_iff.mp h
  exact hb

theorem says_of_ofItems? {items : List Value} {e : Envelope α}
    (h : (record payload).ofItems? items = some e) : Says (.array items) e.success := by
  unfold Record.ofItems? at h
  split at h
  · cases h
  obtain ⟨d, hd, he⟩ := Option.bind_eq_some_iff.mp h
  cases items with
  | nil =>
    obtain rfl := Option.some.inj hd
    cases success_of_finish? he
  | cons item items =>
    obtain ⟨next, hn, hd⟩ := Option.bind_eq_some_iff.mp hd
    obtain ⟨set, hset, rfl⟩ := Option.map_eq_some_iff.mp hn
    obtain ⟨b, hb, rfl⟩ := Option.map_eq_some_iff.mp hset
    obtain rfl : item = .bool b := bool_ofValue? hb
    have hs : d.success = some b := success_give (success_rest payload) hd
    rw [success_of_finish? he] at hs
    exact congrArg (fun b => some (Value.bool b)) (Option.some.inj hs).symm

/-- an envelope holds what the value says -/
theorem says_of_ofValue? {e : Envelope α} (h : (shape payload).ofValue? v = some e) : Says v e.success := by
  cases v with
  | object members =>
    obtain ⟨state, hs, he⟩ := Option.bind_eq_some_iff.mp h
    exact (success_addMembers hs (success_of_finish? he)).resolve_left nofun
  | array items => exact says_of_ofItems? h
  | _ => cases h

end

end Envelope

/-! ## outcomes -/

namespace Response

section
variable {α : Type} {payload : Shape α} {r : Response} {v : Value}

theorem envelope?_eq (hp : ∀ v, payload.AgreesAt v) {cs : List Char} (hb : decode? r.body = some cs)
    (hv : parse cs = .ok v) : r.envelope? payload = (Envelope.shape payload).ofValue? v := by
  rw [envelope?, ofBytes?_eq _ hb, toOption_complete hv (Envelope.agreesAt hp v)]

theorem ofValue?_of_envelope? (hp : ∀ v, payload.AgreesAt v) (hk : payload.Kept) {e : Envelope α}
    (he : r.envelope? payload = some e) (hv : parse (decodeLossy r.body) = .ok v) :
    (Envelope.shape payload).ofValue? v = some e := by
  rw [← toOption_complete hv (Envelope.agreesAt hp v), complete_of_ofBytes? (Envelope.kept hk) he]
  rfl

end

/-- what a response comes to for a payload of the given shape -/
inductive Outcome {α : Type} (shape : Shape α) (r : Response) : Except Failure (Option α) → Prop
  | success (e : Envelope α) (he : r.envelope? shape = some e) (hs : e.success = true) :
      Outcome shape r (.ok e.payload)
  | refused (e : Envelope α) (he : r.envelope? shape = some e) (hs : e.success = false) :
      Outcome shape r (.error (.api r.status e.reason))
  | unreadable (he : r.envelope? shape = none) (hs : isSuccess r.status = true) :
      Outcome shape r (.error undecodable)
  | failed (he : r.envelope? shape = none) (hs : isSuccess r.status = false) :
      Outcome shape r
        (.error (.api r.status ((reasonPhrase? r.status).getD Envelope.defaultReason)))

section
variable {α : Type} {shape : Shape α} {r : Response} {f : Failure}

theorem outcome_of_payload (shape : Shape α) (r : Response) : Outcome shape r (r.payload shape) := by
  rw [payload]
  cases he : r.envelope? shape with
  | some e =>
    show Outcome shape r (e.result.mapError (.api r.status))
    cases hs : e.success with
    | true =>
      rw [Envelope.result_of_success hs]
      exact .success e he hs
    | false =>
      rw [Envelope.result_of_failure hs]
      exact .refused e he hs
  | none =>
    cases hs : isSuccess r.status with
    | true => exact .unreadable he hs
    | false => exact .failed he hs

theorem payload_eq_ok_iff {p : Option α} : r.payload shape = .ok p ↔
    ∃ e, r.envelope? shape = some e ∧ e.success = true ∧ e.payload = p := by
  constructor
  · intro h
    have ho := outcome_of_payload shape r
    rw [h] at ho
    cases ho with
    | success e he hs => exact ⟨e, he, hs, rfl⟩
  · rintro ⟨e, he, hs, rfl⟩
    simp only [payload, he, Envelope.result_of_success hs]
    rfl

theorem reason_not_blank (h : r.payload shape = .error f) : isBlankText f.reason = false := by
  have ho := outcome_of_payload shape r
  rw [h] at ho
  cases ho with
  | refused e => exact e.reason_not_blank
  | unreadable => decide
  | failed => exact phrase_not_blank r.status

end

end Response

/-! ## power calls -/

variable {r : Response} {f : Failure}

theorem powerResult_eq_ok_iff :
    powerResult r = .ok () ↔ ∃ e, r.envelope? .any = some e ∧ e.success = true := by
  rw [powerResult]
  cases h : r.payload .any with
  | ok p =>
    obtain ⟨e, he, hs, -⟩ := Response.payload_eq_ok_iff.mp h
    exact ⟨fun _ => ⟨e, he, hs⟩, fun _ => rfl⟩
  | error f =>
    refine ⟨nofun, fun ⟨e, he, hs⟩ => ?_⟩
    rw [Response.payload_eq_ok_iff.mpr ⟨e, he, hs, rfl⟩] at h
    cases h

theorem payload_of_powerResult (h : powerResult r = .error f) : r.payload .any = .error f := by
  rw [powerResult] at h
  cases hp : r.payload .any with
  | ok p =>
    rw [hp] at h
    cases h
  | error g =>
    rw [hp] at h
    exact congrArg _ (Except.error.inj h)

/-- a success is one that the value of the body says -/
theorem says_of_powerResult {v : Value} (hv : parse (decodeLossy r.body) = .ok v)
    (h : powerResult r = .ok ()) : Envelope.Says v true := by
  obtain ⟨e, he, hs⟩ := powerResult_eq_ok_iff.mp h
  exact hs ▸ Envelope.says_of_ofValue? (Response.ofValue?_of_envelope? agreesAt_any kept_any he hv)

/-- **The result of a power call.** The call succeeded exactly if the response carries an envelope that
says so, whatever its status. It fails with a reason that can be shown: that the response is
malformed, where a success status comes without an envelope, and with the status in every other case. Any
envelope of a body that reads as a value, with its ill-formed bytes replaced, is what this value stands
for, and a success is said there. A body without such bytes has the envelope if the value stands for
one. -/
theorem power_outcome (r : Response) :
    (powerResult r = .ok () ↔ ∃ e, r.envelope? .any = some e ∧ e.success = true) ∧
    (∀ f, powerResult r = .error f →
      isBlankText f.reason = false ∧
      ((r.envelope? .any = none ∧ isSuccess r.status = true ∧ f = Response.undecodable) ∨
        (r.envelope? .any = none ∧ isSuccess r.status = false ∧
          f = .api r.status ((reasonPhrase? r.status).getD Envelope.defaultReason)) ∨
        ∃ e, r.envelope? .any = some e ∧ e.success = false ∧ f = .api r.status e.reason)) ∧
    ∀ v, parse (decodeLossy r.body) = .ok v →
      (∀ e, r.envelope? .any = some e → (Envelope.shape .any).ofValue? v = some e) ∧
      (powerResult r = .ok () → Envelope.Says v true) ∧
      ∀ cs, decode? r.body = some cs → r.envelope? .any = (Envelope.shape .any).ofValue? v := by
  refine ⟨powerResult_eq_ok_iff, fun f h => ?_, fun v hv => ⟨fun e he => ?_, says_of_powerResult hv,
    fun cs hb => ?_⟩⟩
  · have hp := payload_of_powerResult h
    refine ⟨Response.reason_not_blank hp, ?_⟩
    have ho := Response.outcome_of_payload .any r
    rw [hp] at ho
    cases ho with
    | refused e he hs => exact .inr (.inr ⟨e, he, hs, rfl⟩)
    | unreadable he hs => exact .inl ⟨he, hs, rfl⟩
    | failed he hs => exact .inr (.inl ⟨he, hs, rfl⟩)
  · exact Response.ofValue?_of_envelope? agreesAt_any kept_any he hv
  · rw [decodeLossy_of_decode? hb] at hv
    exact Response.envelope?_eq agreesAt_any hb hv

/-- a response with a status that is no success -/
def teapot (body : String) : Response := ⟨418, encode body.toList⟩

/-- a success with a member that is not asked for, and in it a byte that belongs to no character -/
def stray : Response :=
  ⟨200, encode "\x7b\"success\":true,\"x\":\"".toList ++ 0xff :: encode "\"\x7d".toList⟩

/-- a refusal without a reason of its own, and successes with and without such a byte -/
theorem power_outcome_teapot :
    powerResult (teapot "\x7b\"success\":false,\"error\":\" \"\x7d") =
        .error (.api 418 "request failed") ∧
      isBlankText (Failure.api 418 "request failed").reason = false ∧
      powerResult (teapot "\x7b\"success\":true\x7d") = .ok () ∧
      (∃ v, parse "\x7b\"success\":true\x7d".toList = .ok v ∧ Envelope.Says v true) ∧
      powerResult stray = .ok () ∧
      ∃ v, parse (decodeLossy stray.body) = .ok v ∧ Envelope.Says v true := by
  have hf : powerResult (teapot "\x7b\"success\":false,\"error\":\" \"\x7d") =
      .error (.api 418 "request failed") := by decide +kernel
  have hs : powerResult (teapot "\x7b\"success\":true\x7d") = .ok () := by decide +kernel
  have hb : decodeLossy (teapot "\x7b\"success\":true\x7d").body = "\x7b\"success\":true\x7d".toList := by
    decide +kernel
  have hv : (parse "\x7b\"success\":true\x7d".toList).toOption.isSome = true := by decide +kernel
  have ht : powerResult stray = .ok () := by decide +kernel
  have hw : (parse (decodeLossy stray.body)).toOption.isSome = true := by decide +kernel
  obtain ⟨v, hv⟩ := Option.isSome_iff_exists.mp hv
  have hv := eq_ok_of_toOption hv
  obtain ⟨w, hw⟩ := Option.isSome_iff_exists.mp hw
  have hw := eq_ok_of_toOption hw
  exact ⟨hf, ((power_outcome _).2.1 _ hf).1, hs,
    ⟨v, hv, ((power_outcome _).2.2 v (hb ▸ hv)).2.1 hs⟩,
    ht, w, hw, ((power_outcome _).2.2 w hw).2.1 ht⟩

/-- a server error whose envelope says success is taken for a success -/
theorem power_server_error :
    let r : Response := ⟨500, encode "\x7b\"success\":true\x7d".toList⟩
    isSuccess r.status = false ∧ powerResult r = .ok () := by decide +kernel

end ServerConsole.Panel
