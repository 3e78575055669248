/-
Doubles that compare equal.

Two doubles compare equal when they have the same bits, or are the two zeros.

* `eq_or_zero_of_beq` — doubles that compare equal are the same, zeros apart;
* `floatOrder?_congr` — doubles that compare equal are in the same order to others.

Design notes: a double is known through the sign, the exponent and the mantissa that its
bits are unpacked to; `eq_of_unpack` reads the bits back off them.
-/
import Mathlib
import RowScope.Number.Decimal

open Float.Model Float.Model.UnpackedFloat

namespace RowScope

theorem sign_injective {b c : BitVec 1} (h : Sign.ofBitVec b = Sign.ofBitVec c) : b = c := by
  have hv : ∀ v : BitVec 1, (Sign.ofBitVec v).toBitVec = v := by decide
  rw [← hv b, ← hv c, h]

/-- The fields of a double determine its bits. -/
theorem eq_of_fields {b c : BitVec Format.binary64.numBits} (hs : unpackSign b = unpackSign c)
    (he : unpackExponent b = unpackExponent c) (hm : unpackMantissa b = unpackMantissa c) :
    b = c := by
  apply BitVec.eq_of_getLsbD_eq
  intro i hi
  have hi64 : i < 64 := hi
  by_cases h1 : i < 52
  · have h := congrArg (fun v => BitVec.getLsbD v i) hm
    simpa [unpackMantissa, h1, Nat.le_of_lt_succ] using h
  · by_cases h2 : i < 63
    · have h := congrArg (fun v => BitVec.getLsbD v (i - 52)) he
      have h3 : i - 52 < 11 := by omega
      have h4 : 52 + (i - 52) = i := by omega
      simpa [unpackExponent, h3, h4] using h
    · have h := congrArg (fun v => BitVec.getLsbD v (i - 63)) hs
      have h3 : i - 63 < 1 := by omega
      have h4 : 63 + (i - 63) = i := by omega
      simpa [unpackSign, h3, h4] using h

theorem toNat_one_append (v : BitVec 52) : (1#1 ++ v).toNat = 2 ^ 52 + v.toNat := by
  rw [BitVec.toNat_append, ← Nat.shiftLeft_add_eq_or_of_lt v.isLt]
  rfl

/-- The bits of a double that is a number can be read off what it is unpacked to. -/
theorem eq_of_unpack {b c : BitVec Format.binary64.numBits}
    (h : UnpackedFloat.unpack Format.binary64 b = UnpackedFloat.unpack Format.binary64 c)
    (hnan : UnpackedFloat.unpack Format.binary64 b ≠ .notANumber) : b = c := by
  have hb := (unpackMantissa b).isLt
  have hc := (unpackMantissa c).isLt
  unfold UnpackedFloat.unpack at h hnan
  dsimp only at h hnan hb hc
  split_ifs at h hnan
  all_goals simp at h hnan
  · next hbi hbm hci hcm =>
    exact eq_of_fields (sign_injective h) (hbi.trans hci.symm) (hbm.trans hcm.symm)
  · next _ hbz hbm _ hcz hcm =>
    exact eq_of_fields (sign_injective h) (hbz.trans hcz.symm) (hbm.trans hcm.symm)
  · next _ hbz _ _ hcz _ =>
    obtain ⟨hs, hm, -⟩ := h
    exact eq_of_fields (sign_injective hs) (hbz.trans hcz.symm) (BitVec.eq_of_toNat_eq hm)
  · -- a mantissa below the normal range lacks the bit that a normal one has
    rw [toNat_one_append] at h
    omega
  · rw [toNat_one_append] at h
    omega
  · obtain ⟨hs, hm, he⟩ := h
    rw [toNat_one_append, toNat_one_append] at hm
    exact eq_of_fields (sign_injective hs) (BitVec.eq_of_toNat_eq (by omega))
      (BitVec.eq_of_toNat_eq (by omega))

theorem eq_of_compare {x y : UnpackedFloat} (h : x.compare y = some .eq) :
    (x = y ∧ x ≠ .notANumber) ∨ (∃ s, x = .zero s) ∧ ∃ s, y = .zero s := by
  cases x with
  | notANumber => simp [UnpackedFloat.compare] at h
  | infinity s =>
    cases y with
    | infinity t => cases s <;> cases t <;> simp_all [UnpackedFloat.compare]
    | notANumber => simp [UnpackedFloat.compare] at h
    | zero t => cases s <;> simp [UnpackedFloat.compare] at h
    | finite t => cases s <;> simp [UnpackedFloat.compare] at h
  | zero s =>
    cases y with
    | zero t => exact .inr ⟨⟨s, rfl⟩, t, rfl⟩
    | notANumber => simp [UnpackedFloat.compare] at h
    | infinity t => cases t <;> simp [UnpackedFloat.compare] at h
    | finite t => cases t <;> simp [UnpackedFloat.compare] at h
  | finite s m e hm =>
    cases y with
    | zero t => cases s <;> simp [UnpackedFloat.compare] at h
    | notANumber => simp [UnpackedFloat.compare] at h
    | infinity t => cases s <;> cases t <;> simp [UnpackedFloat.compare] at h
    | finite t =>
      cases s <;> cases t <;>
        simp [UnpackedFloat.compare, Std.LawfulEqCmp.compare_eq_iff_eq,
          Ordering.then_eq_eq] at h <;>
        simp [h]

theorem compare_zero_left (s t : Sign) (z : UnpackedFloat) :
    UnpackedFloat.compare (.zero s) z = UnpackedFloat.compare (.zero t) z := by
  cases z with
  | infinity r => cases r <;> rfl
  | finite r => cases r <;> rfl
  | _ => rfl

theorem compare_zero_right (s t : Sign) (z : UnpackedFloat) :
    UnpackedFloat.compare z (.zero s) = UnpackedFloat.compare z (.zero t) := by
  cases z with
  | infinity r => cases r <;> rfl
  | finite r => cases r <;> rfl
  | _ => rfl

variable {x y : Float}

theorem beq_iff_compare :
    (x == y) = true ↔ x.toModel.unpack.compare y.toModel.unpack = some .eq := by
  show (x.toModel.unpack.compare y.toModel.unpack == some .eq) = true ↔ _
  exact beq_iff_eq

theorem lt_iff_compare :
    x < y ↔ x.toModel.unpack.compare y.toModel.unpack = some .lt := by
  show decide (x.toModel < y.toModel) = true ↔ _
  rw [decide_eq_true_iff]
  show (x.toModel.unpack.compare y.toModel.unpack == some .lt) = true ↔ _
  exact beq_iff_eq

theorem exists_unpack_zero : ∃ s, (0 : Float).toModel.unpack = .zero s := by
  have h : ((0 : Float).toModel.unpack.compare (.zero .positive) == some .eq) = true := by
    decide +kernel
  rcases eq_of_compare (beq_iff_eq.1 h) with ⟨heq, -⟩ | ⟨hz, -⟩
  · exact ⟨.positive, heq⟩
  · exact hz

/-- Doubles that compare equal are the same, or are both a zero. -/
theorem eq_or_zero_of_beq (h : (x == y) = true) : x = y ∨ (x == 0) = true ∧ (y == 0) = true := by
  rcases eq_of_compare (beq_iff_compare.1 h) with ⟨heq, hnan⟩ | ⟨⟨s, hx⟩, t, hy⟩
  · left
    obtain ⟨⟨xbits, hxbits⟩⟩ := x
    obtain ⟨⟨ybits, hybits⟩⟩ := y
    have hbits : xbits.toBitVec = ybits.toBitVec := eq_of_unpack heq hnan
    obtain rfl : xbits = ybits := UInt64.toBitVec_inj.1 hbits
    rfl
  · right
    obtain ⟨r, hr⟩ := exists_unpack_zero
    rw [beq_iff_compare, beq_iff_compare, hx, hy, hr]
    exact ⟨rfl, rfl⟩

/-- Doubles that compare equal are in the same order to others. -/
theorem floatOrder?_congr (h : (x == y) = true) (z : Float) :
    floatOrder? x z = floatOrder? y z ∧ floatOrder? z x = floatOrder? z y := by
  simp only [floatOrder?, lt_iff_compare, beq_iff_compare]
  rcases eq_of_compare (beq_iff_compare.1 h) with ⟨heq, -⟩ | ⟨⟨s, hx⟩, t, hy⟩
  · rw [heq]
    exact ⟨rfl, rfl⟩
  · rw [hx, hy, compare_zero_left s t, compare_zero_right s t]
    exact ⟨rfl, rfl⟩

end RowScope
