import Mathlib.Data.List.Induction
import ServerConsole.Link.State
import ServerConsole.Proofs.Frame.RoundTrip
import ServerConsole.Proofs.Link.Reports
import ServerConsole.Proofs.Text.Trim

/-!
# The reason of a refusal

A refusal names its reason: the body of the answer that refused the upgrade, the reason of a close frame,
or the message of an error frame. The first two fall back on a text of their own when they are blank.

* `isBlankText_reason_iff`  which final causes give a blank reason;
* `Explained`               a blank reason is the message of an error frame, and every error frame refuses;
                            the events of a task are so (`explained_reports`);
* `error_observed`          what the owner is shown while the channel has failed;
* `reasons_given_iff`       when every reason of a run says something.
-/

namespace ServerConsole.Link

open Text

/-! ## causes -/

theorem isBlankText_trimmedOr {default : String} (hd : isBlankText default = false) (s : String) :
    isBlankText (Disconnect.trimmedOr default s) = false := by
  unfold Disconnect.trimmedOr
  by_cases he : (trim s).isEmpty = true
  · rw [if_pos he]
    exact hd
  · rw [if_neg he, (trimmed_trim s).isBlankText_eq]
    exact eq_false_of_ne_true he

theorem ofHttp_of_final {status : UInt16} (h : status = 401 ∨ status = 403)
    (body : Option (List UInt8)) :
    Disconnect.ofHttp status body = .rejected (Disconnect.trimmedOr
      (if status = 401 then "authentication failed" else Disconnect.insufficient)
      (String.ofList (decodeLossy (body.getD [])))) :=
  if_pos h

/-- whatever the body of a refused upgrade, bytes that are no text included -/
theorem isBlankText_ofHttp {status : UInt16} (h : status = 401 ∨ status = 403)
    (body : Option (List UInt8)) : isBlankText (Disconnect.ofHttp status body).reason = false := by
  have hd : isBlankText (if status = 401 then "authentication failed" else Disconnect.insufficient) =
      false := by
    split <;> rfl
  rw [ofHttp_of_final h]
  simp only [Disconnect.reason, isBlankText_trimmedOr hd]

theorem isBlankText_ofClose {f : CloseFrame} (h : Disconnect.rejectionCodes.contains f.code = true) :
    isBlankText (Disconnect.ofClose (some f)).reason = false := by
  have hd : isBlankText Disconnect.insufficient = false := rfl
  have hc : Disconnect.ofClose (some f) =
      .rejected (Disconnect.trimmedOr Disconnect.insufficient f.reason) := if_pos h
  rw [hc]
  simp only [Disconnect.reason, isBlankText_trimmedOr hd]

/-- of the causes that refuse for good only an error frame can leave the reason blank -/
theorem isBlankText_reason_iff {c : Cause} (hc : c.isFinal = true) :
    isBlankText c.verdict.reason = true ↔ ∃ m, c = .refused m ∧ isBlankText m = true := by
  cases c with
  | failed e =>
    cases e with
    | http status body =>
      have hs : status = 401 ∨ status = 403 := by simpa [Cause.isFinal] using hc
      have hb : isBlankText (Cause.failed (.http status body)).verdict.reason = false :=
        isBlankText_ofHttp hs body
      simp [hb]
    | io _ | connectionClosed | alreadyClosed | reset | unfinishedHandshake | other _ => cases hc
  | closed f =>
    cases f with
    | none => cases hc
    | some f =>
      have hs : Disconnect.rejectionCodes.contains f.code = true := by
        simpa [Cause.isFinal, Disconnect.rejectionCodes, or_assoc] using hc
      have hb : isBlankText (Cause.closed (some f)).verdict.reason = false := isBlankText_ofClose hs
      simp [hb]
  | refused m =>
    refine ⟨fun h => ⟨m, rfl, h⟩, ?_⟩
    rintro ⟨m', he, h⟩
    cases he
    exact h
  | ended => cases hc

/-! ## the events of a run -/

structure Explained (w : List Event) : Prop where
  reason : ∀ r, .rejected r ∈ w → isBlankText r = true → .frame (.error r) ∈ w
  refusal : ∀ m, .frame (.error m) ∈ w → .rejected m ∈ w

theorem explained_nil : Explained [] := ⟨nofun, nofun⟩

theorem Explained.append {a b : List Event} (ha : Explained a) (hb : Explained b) :
    Explained (a ++ b) where
  reason r hr hblank := by
    rcases List.mem_append.mp hr with hr | hr
    · exact List.mem_append_left _ (ha.reason r hr hblank)
    · exact List.mem_append_right _ (hb.reason r hr hblank)
  refusal m hm := by
    rcases List.mem_append.mp hm with hm | hm
    · exact List.mem_append_left _ (ha.refusal m hm)
    · exact List.mem_append_right _ (hb.refusal m hm)

/-- what is reported of a cause that refuses for good: the error frame, if it is one, and the reason -/
theorem explained_refusal {c : Cause} (hc : c.isFinal = true) :
    Explained (c.frames ++ [.rejected c.verdict.reason]) where
  reason r hr hblank := by
    have hf : .rejected r ∉ c.frames := by cases c <;> simp [Cause.frames]
    have he : r = c.verdict.reason := by simpa [hf] using hr
    obtain ⟨m, rfl, -⟩ := (isBlankText_reason_iff hc).mp (he ▸ hblank)
    rw [he]
    exact .head _
  refusal m hm := by
    cases c with
    | refused m' =>
      obtain rfl : m = m' := by simpa [Cause.frames] using hm
      exact .tail _ (.head _)
    | failed _ | closed _ | ended => simp [Cause.frames] at hm

theorem explained_of_takes {t u : Task} {h : Happening} {v : List Event} (hs : t.Takes h u v) :
    Explained v := by
  cases hs with
  | passes => exact explained_nil
  | brings f hs hp hf =>
    refine ⟨by simp, fun m hm => ?_⟩
    rw [List.mem_singleton, Event.frame.injEq] at hm
    exact absurd (congrArg Frame.kind hm.symm) hf
  | rejects c queue hs hp hc => exact explained_refusal hc
  | opens | retries | givesUp | stops => exact ⟨by simp, by simp⟩

theorem explained_run (t : Task) (hs : List Happening) : Explained (reported (t.run hs).2) := by
  induction hs generalizing t with
  | nil => exact explained_nil
  | cons h hs ih =>
    rw [Task.run_cons, reported_append]
    exact (explained_of_takes (t.takes h)).append (ih _)

theorem explained_reports (p : Policy) (hs : List Happening) : Explained (Task.reports p hs) :=
  explained_run _ hs

/-! ## what the owner is shown -/

theorem isBlankText_gaveUpText (k : UInt32) : isBlankText (gaveUpText k) = false := by
  have hg : isBlankText "gave up after " = false := rfl
  exact isBlankText_append_left (isBlankText_append_left hg _) _

theorem error_observed {w : List Event} {text : String}
    (h : (w.foldl Link.observe .new).error = some text) :
    .rejected text ∈ w ∨ ∃ k, text = gaveUpText k := by
  induction w using List.reverseRecOn with
  | nil => cases h
  | append_singleton w e ih =>
    rw [List.foldl_append] at h
    cases e with
    | opened _ => cases h
    | rejected r => exact .inl (List.mem_append_right _ (by rw [← Option.some.inj h]; exact .head _))
    | gaveUp k => exact .inr ⟨k, (Option.some.inj h).symm⟩
    | frame _ | lost _ | reconnecting _ _ | closed => exact (ih h).imp_left (List.mem_append_left _)

theorem exists_observed {w : List Event} {r : String} (h : .rejected r ∈ w) :
    ∃ a, a <+: w ∧ (a.foldl Link.observe .new).error = some r := by
  obtain ⟨a, b, rfl⟩ := List.append_of_mem h
  refine ⟨a ++ [.rejected r], ⟨b, by simp⟩, ?_⟩
  rw [List.foldl_append]
  rfl

/-- **A refusal says why, unless it is an error frame that does not.** In every run of the task: all
reasons it reports are more than blanks exactly if the messages of all error frames are, and exactly then
what the owner is shown at any time, the end of the retries included, is more than blanks. A refused
upgrade and a close frame never leave the reason blank, whatever their bytes. -/
theorem reasons_given_iff (p : Policy) (hs : List Happening) :
    let w := Task.reports p hs
    let spoken : Prop := ∀ m, .frame (.error m) ∈ w → isBlankText m = false
    ((∀ r, .rejected r ∈ w → isBlankText r = false) ↔ spoken) ∧
    ((∀ a, a <+: w → ∀ text, (a.foldl Link.observe .new).error = some text →
      isBlankText text = false) ↔ spoken) ∧
    ∀ c : Cause, c.isFinal = true →
      (isBlankText c.verdict.reason = true ↔ ∃ m, c = .refused m ∧ isBlankText m = true) := by
  intro w spoken
  have hw : Explained w := explained_reports p hs
  have hiff : (∀ r, .rejected r ∈ w → isBlankText r = false) ↔ spoken := by
    refine ⟨fun h m hm => h m (hw.refusal m hm), fun h r hr => ?_⟩
    by_contra hb
    have hb' : isBlankText r = true := eq_true_of_ne_false hb
    exact hb (h r (hw.reason r hr hb'))
  refine ⟨hiff, ⟨fun h => hiff.mp fun r hr => ?_, fun h a ha text ht => ?_⟩,
    fun c => isBlankText_reason_iff⟩
  · obtain ⟨a, ha, he⟩ := exists_observed hr
    exact h a ha r he
  · rcases error_observed ht with hr | ⟨k, rfl⟩
    · exact hiff.mpr h text (ha.subset hr)
    · exact isBlankText_gaveUpText k

/-- an error frame without a message: the channel has failed, and the owner is shown an empty text -/
theorem blank_refusal :
    let text := "\x7b\"type\":\"error\",\"message\":\"\"\x7d"
    let w := Task.reports .standard [.connected, .received (.text text)]
    w = [.opened false, .frame (.error ""), .rejected ""] ∧
      w.foldl Link.observe .new = ⟨.failed, some "", true⟩ := by
  intro text w
  have hd : Frame.decode text = .ok (.error "") :=
    (Frame.decode_wire (f := .error "") (by decide) nofun).trans (if_pos (by decide))
  have hm : ∀ t : Task, t.message (.text text) = t.frame (.error "") := by
    intro t
    rw [Task.message, hd]
  have hw : w = [.opened false, .frame (.error ""), .rejected ""] := by
    show reported (_ ++ (((Task.new .standard).opened.1.message (.text text)).2 ++ [])) = _
    rw [hm]
    rfl
  rw [hw]
  exact ⟨rfl, rfl⟩

end ServerConsole.Link
