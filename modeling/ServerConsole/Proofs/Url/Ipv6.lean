import Mathlib.Data.List.TakeWhile
import ServerConsole.Proofs.Json.Quoted
import ServerConsole.Proofs.Url.Host

/-!
# Addresses in brackets there and back

The pieces of an address are written without leading zeros, and the longest run of zero pieces is left out
between two colons. Nothing else of an address has two colons, so that the run is found again, and the
pieces that are there tell how long it was.

* `side?_written`        written pieces are read;
* `splitDouble_written`  two colons behind written pieces are the first ones;
* `of_longestRun`        what is left out are zeros, two pieces at least;
* `parse?_chars`         an address of eight pieces is read as it is written.
-/

namespace ServerConsole.Url.Ipv6

open Text

/-! ## pieces -/

theorem hexNumber?_dropZeros (cs : List Char) : hexNumber? (cs.dropWhile (· == '0')) = hexNumber? cs := by
  induction cs with
  | nil => rfl
  | cons c cs ih =>
    by_cases hc : c = '0'
    · have hz : hexNumber? ('0' :: cs) = hexNumber? cs := rfl
      rw [hc, List.dropWhile_cons_of_pos rfl, ih, hz]
    · rw [List.dropWhile_cons_of_neg (by simpa using hc)]

theorem hexDigits_add (j k n : Nat) :
    hexDigits (j + k) n = hexDigits j (n / Nat.pow 16 k) ++ hexDigits k n := by
  induction k generalizing n with
  | zero => simp [hexDigits, Nat.pow]
  | succ k ih =>
    have hd : n / 16 / Nat.pow 16 k = n / Nat.pow 16 (k + 1) := by
      rw [Nat.div_div_eq_div_mul, Nat.mul_comm]
      rfl
    rw [← Nat.add_assoc, hexDigits, ih, hd, hexDigits, List.append_assoc]

theorem hexText_ne_nil (n : Nat) : hexText n ≠ [] := by
  unfold hexText
  split
  · exact List.cons_ne_nil _ _
  · next hn => exact hn

variable {n : Nat}

theorem hexNumber?_hexText (h : n < 0x10000) : hexNumber? (hexText n) = some n := by
  have hn : hexNumber? ((hexDigits 16 n).dropWhile (· == '0')) = some n := by
    rw [hexNumber?_dropZeros, hexNumber?_hexDigits 16 n (Nat.lt_trans h (by decide))]
  unfold hexText
  split
  · next he =>
    rw [he] at hn
    exact hn
  · exact hn

/-- twelve zeros are in front of the digits that may be none -/
theorem length_hexText (h : n < 0x10000) : (hexText n).length ≤ 4 := by
  have hz : n / Nat.pow 16 4 = 0 := Nat.div_eq_of_lt h
  have hd : (hexDigits 16 n).dropWhile (· == '0') = (hexDigits 4 n).dropWhile (· == '0') := by
    rw [hexDigits_add 12 4, hz]
    rfl
  have hl : ((hexDigits 4 n).dropWhile (· == '0')).length ≤ 4 :=
    Nat.le_trans (List.dropWhile_sublist _).length_le (Nat.le_of_eq (length_hexDigits 4 n))
  unfold hexText
  rw [hd]
  split
  · decide
  · exact hl

theorem piece?_hexText (p : UInt16) : piece? (hexText p.toNat) = some p := by
  have hp : p.toNat < 0x10000 := p.toNat_lt
  have hl := length_hexText hp
  unfold piece?
  rw [hexNumber?_hexText hp, List.isEmpty_eq_false_iff.mpr (hexText_ne_nil _), if_neg (by simpa using hl)]
  exact congrArg some UInt16.ofNat_toNat

theorem not_mem_hexText {c : Char} (h : c ∉ pieceDigits) : c ∉ hexText n := fun hm =>
  h (mem_hexText c hm)

/-! ## sides -/

variable {ps : List UInt16}

theorem joined?_hexTexts (tail : Bool) (ps : List UInt16) :
    joined? tail (ps.map fun p => hexText p.toNat) = some ps := by
  induction ps with
  | nil => rfl
  | cons p ps ih =>
    cases ps with
    | nil =>
      have hd : (hexText p.toNat).contains '.' = false := by
        rw [Bool.eq_false_iff]
        exact fun hc => not_mem_hexText (by decide) (List.contains_iff_mem.mp hc)
      show (if tail && (hexText p.toNat).contains '.' then _ else _) = _
      rw [hd, Bool.and_false, if_neg Bool.false_ne_true, piece?_hexText]
      rfl
    | cons q ps =>
      rw [List.map_cons, List.map_cons, joined?, ← List.map_cons (f := fun p : UInt16 => hexText p.toNat),
        ih, piece?_hexText]
      exact List.cons_ne_nil _ _

theorem written_singleton (p : UInt16) : written [p] = hexText p.toNat := by
  rw [written, List.map_singleton, joinWith]

theorem written_cons (p q : UInt16) (ps : List UInt16) :
    written (p :: q :: ps) = hexText p.toNat ++ ':' :: written (q :: ps) := rfl

theorem exists_written_cons (q : UInt16) (ps : List UInt16) :
    ∃ c rest, written (q :: ps) = c :: rest ∧ c ≠ ':' := by
  obtain ⟨c, cs, hc⟩ := List.exists_cons_of_ne_nil (hexText_ne_nil q.toNat)
  have hn : c ≠ ':' := by
    rintro rfl
    exact not_mem_hexText (by decide) (hc ▸ List.mem_cons_self)
  cases ps with
  | nil => exact ⟨c, cs, by rw [written_singleton, hc], hn⟩
  | cons r ps => exact ⟨c, _, by rw [written_cons, hc]; rfl, hn⟩

theorem side?_written (tail : Bool) (ps : List UInt16) : side? tail (written ps) = some ps := by
  cases ps with
  | nil => rfl
  | cons p ps =>
    obtain ⟨c, rest, hc, -⟩ := exists_written_cons p ps
    have hs : splitOn ':' (written (p :: ps)) = (p :: ps).map fun p => hexText p.toNat := by
      refine splitOn_joinWith (List.cons_ne_nil _ _) fun piece hp => ?_
      obtain ⟨q, -, rfl⟩ := List.mem_map.mp hp
      exact not_mem_hexText (by decide)
    unfold side?
    rw [hs, joined?_hexTexts, hc]
    rfl

/-! ## double colons -/

theorem splitDouble_append {piece : List Char} (h : ':' ∉ piece) (rest : List Char) :
    splitDouble (piece ++ rest) = (splitDouble rest).map fun (a, b) => (piece ++ a, b) := by
  induction piece with
  | nil => simp
  | cons c piece ih =>
    rw [List.mem_cons, not_or] at h
    have hc : splitDouble (c :: (piece ++ rest)) =
        (splitDouble (piece ++ rest)).map fun (a, b) => (c :: a, b) := by
      rw [splitDouble]
      exact fun cs he => absurd he.symm h.1
    rw [List.cons_append, hc, ih h.2, Option.map_map]
    rfl

theorem splitDouble_colon {c : Char} (h : c ≠ ':') (rest : List Char) :
    splitDouble (':' :: c :: rest) = (splitDouble (c :: rest)).map fun (a, b) => (':' :: a, b) := by
  rw [splitDouble]
  intro cs _ he
  exact h (List.cons.inj he).1

/-- written pieces have no double colon, not even where something follows them -/
theorem splitDouble_written (ps : List UInt16) (rest : List Char) :
    splitDouble (written ps ++ rest) = (splitDouble rest).map fun (a, b) => (written ps ++ a, b) := by
  induction ps with
  | nil => simp [written, joinWith]
  | cons p ps ih =>
    have hp : ':' ∉ hexText p.toNat := not_mem_hexText (by decide)
    cases ps with
    | nil =>
      rw [written_singleton]
      exact splitDouble_append hp rest
    | cons q ps =>
      obtain ⟨c, cs, hc, hn⟩ := exists_written_cons q ps
      rw [hc] at ih
      rw [written_cons, List.append_assoc, splitDouble_append hp, hc, List.cons_append, List.cons_append,
        splitDouble_colon hn, ← List.cons_append, ih, Option.map_map, Option.map_map]
      simp [Function.comp_def]

/-! ## runs of zeros -/

/-- the best of several is one of them, or the one before them -/
theorem best_mem (runs : List (Nat × Nat)) (best : Nat × Nat) :
    runs.foldl (fun best run => if best.2 < run.2 then run else best) best ∈ best :: runs := by
  induction runs generalizing best with
  | nil => exact List.mem_singleton_self best
  | cons run runs ih =>
    have h := ih (if best.2 < run.2 then run else best)
    rw [List.foldl_cons]
    rcases List.mem_cons.mp h with h | h
    · rw [h]
      split <;> simp
    · exact List.mem_cons_of_mem _ (List.mem_cons_of_mem _ h)

theorem of_longestRun {start length : Nat} (h : longestRun ps = some (start, length)) :
    2 ≤ length ∧ length = zerosFrom (ps.drop start) := by
  unfold longestRun at h
  dsimp only at h
  split at h
  · next hl =>
    have hm := best_mem ((List.range ps.length).map fun i => (i, zerosFrom (ps.drop i))) (0, 0)
    rw [Option.some.inj h] at hm hl
    refine ⟨hl, ?_⟩
    rcases List.mem_cons.mp hm with hm | hm
    · cases hm
      cases hl
    · obtain ⟨i, -, he⟩ := List.mem_map.mp hm
      obtain ⟨rfl, rfl⟩ := Prod.mk.inj he
      rfl
  · cases h

/-- zeros, and what is behind them -/
theorem eq_zeros_append (qs : List UInt16) :
    qs = List.replicate (zerosFrom qs) 0 ++ qs.drop (zerosFrom qs) := by
  have hz : qs.takeWhile (· == 0) = List.replicate (zerosFrom qs) 0 :=
    List.eq_replicate_iff.mpr ⟨rfl, fun q hq =>
      beq_iff_eq.mp (List.mem_takeWhile_imp (p := (· == 0)) hq)⟩
  have hs : qs.takeWhile (· == 0) ++ qs.dropWhile (· == 0) = qs := List.takeWhile_append_dropWhile
  have hd : (qs.takeWhile (· == 0) ++ qs.dropWhile (· == 0)).drop (zerosFrom qs) =
      qs.dropWhile (· == 0) := List.drop_left
  rw [hs] at hd
  rw [← hz, hd, hs]

/-! ## addresses -/

theorem parse?_chars (a : Ipv6) (h : a.pieces.length = 8) : parse? a.chars = some a := by
  unfold chars
  cases hr : longestRun a.pieces with
  | none =>
    have hn : splitDouble (written a.pieces) = none := by
      have hs := splitDouble_written a.pieces []
      rwa [List.append_nil] at hs
    show parse? (written a.pieces) = some a
    rw [parse?, hn]
    show ((side? true (written a.pieces)).filter _).map _ = _
    rw [side?_written]
    simp [Option.filter, h]
  | some run =>
    obtain ⟨start, length⟩ := run
    obtain ⟨h2, hz⟩ := of_longestRun hr
    have hs : splitDouble (written (a.pieces.take start) ++ ':' :: ':' ::
          written (a.pieces.drop (start + length))) =
        some (written (a.pieces.take start), written (a.pieces.drop (start + length))) := by
      rw [splitDouble_written, splitDouble]
      simp
    have hzeros := eq_zeros_append (a.pieces.drop start)
    rw [← hz, List.drop_drop] at hzeros
    have hl : (a.pieces.drop start).length = length + (a.pieces.drop (start + length)).length := by
      refine (congrArg List.length hzeros).trans ?_
      rw [List.length_append, List.length_replicate]
    rw [List.length_drop] at hl
    have ht : (a.pieces.take start).length = start := by
      rw [List.length_take]
      omega
    show parse? (written (a.pieces.take start) ++ ':' :: ':' ::
      written (a.pieces.drop (start + length))) = some a
    rw [parse?, hs]
    dsimp only
    rw [side?_written, side?_written]
    dsimp only
    rw [if_pos (by omega)]
    have hk : 8 - (a.pieces.take start).length - (a.pieces.drop (start + length)).length = length := by
      omega
    rw [hk, List.append_assoc, ← hzeros, List.take_append_drop]

end ServerConsole.Url.Ipv6
