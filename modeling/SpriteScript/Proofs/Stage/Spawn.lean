import SpriteScript.Proofs.Number.Mixture
import SpriteScript.Stage.Spawn

namespace SpriteScript

/-! Random places. There is room for them if the width of the area can be packed, and then they
are inside of the area. -/

open Float.Model (Format UnpackedFloat)
open Float.Model.UnpackedFloat

namespace Number

/-! ## Opposite numbers -/

theorem IsFinite.opposite {number : Float32} (finite : IsFinite number) :
    IsFinite (-number) ∧ value (-number) = -value number := by
  have unpacked : Binary.unpacked (-number) =
      unpack .binary32 (pack .binary32 (Binary.unpacked number).neg) := rfl
  have less := abs_value_lt number
  rw [value, ← abs_neg, ← valueOf_neg] at less
  have kept := unpacked.trans (finite.canonical.neg.unpack_pack wide less)
  rw [IsFinite, value, kept, valueOf_neg]
  exact ⟨finite.canonical.neg.isFinite, rfl⟩

/-! ## Fractions -/

theorem unpacked_ofBits {fraction : UInt32} (less : fraction.toNat < 2 ^ 23) :
    Binary.unpacked (Float32.ofBits ((0x3F800000 : UInt32) ||| fraction)) =
      .finite .positive (2 ^ 23 + fraction.toNat) (-23) (by omega) := by
  have bits : ((0x3F800000 : UInt32) ||| fraction).toBitVec = packComponents .binary32 .positive
      (BitVec.ofNat _ 127) (BitVec.ofNat _ (2 ^ 23 + fraction.toNat)) := by
    apply BitVec.eq_of_toNat_eq
    have kept : (BitVec.ofNat 23 (2 ^ 23 + fraction.toNat)).toNat = fraction.toNat := by
      rw [BitVec.toNat_ofNat]
      omega
    simp only [packComponents, BitVec.toNat_append, kept]
    rw [UInt32.toNat_toBitVec, UInt32.toNat_or]
    rfl
  have normal := @unpack_packed_normal .binary32 .positive (2 ^ 23 + fraction.toNat) 127 (by omega)
    (by simp only [Format.mantissaBits]; omega) (by simp) (by decide) (by decide)
  rw [← bits] at normal
  have canonical : IsCanonical .binary32
      (.finite .positive (2 ^ 23 + fraction.toNat) (-23) (by omega)) := by
    refine .finite (by decide) ?_ fun _ => ?_
    · simp only [Format.mantissaBits]
      omega
    · simp [Format.mantissaBits]
  have unpacked : Binary.unpacked (Float32.ofBits ((0x3F800000 : UInt32) ||| fraction)) =
      unpack .binary32 (pack .binary32
        (unpack .binary32 ((0x3F800000 : UInt32) ||| fraction).toBitVec)) := rfl
  rw [unpacked, normal]
  exact canonical.unpack_pack_finite (by decide)

theorem inUnit_fraction {fraction : UInt32} (less : fraction.toNat < 2 ^ 23) :
    InUnit (Float32.ofBits ((0x3F800000 : UInt32) ||| fraction) - 1.0) := by
  have unpacked := unpacked_ofBits less
  have finite : IsFinite (Float32.ofBits ((0x3F800000 : UInt32) ||| fraction)) := by
    rw [IsFinite, unpacked]
    rfl
  have whole : (2 : ℚ) ^ 23 * 2 ^ (-23 : Int) = 1 := by norm_num
  have exactly : value (Float32.ofBits ((0x3F800000 : UInt32) ||| fraction)) =
      1 + fraction.toNat * 2 ^ (-23 : Int) := by
    rw [value, unpacked, valueOf_positive, Nat.cast_add, Nat.cast_pow, Nat.cast_ofNat, add_mul,
      whole]
  have lessCast : (fraction.toNat : ℚ) < 2 ^ 23 := by exact_mod_cast less
  have below := mul_lt_mul_of_pos_right lessCast (two_zpow_pos (-23))
  have computes := computes_sub finite (isFinite_one : IsFinite (Arithmetic.one : Float32))
  rw [value_one, exactly, add_sub_cancel_left] at computes
  rw [whole] at below
  exact computes.inUnit (by positivity) below.le

end Number

/-! ## Room -/

namespace Generator

open Number

variable {extent : Float32}

/-- The width of an area is a number of the format, so it is not rounded. -/
theorem computes_width (finite : IsFinite extent) :
    Computes (extent - -extent) (2 * value extent) := by
  have computes := computes_sub finite finite.opposite.1
  rwa [finite.opposite.2, sub_neg_eq_add, ← two_mul] at computes

theorem hasRoom_iff (finite : IsFinite extent) :
    hasRoom extent = true ↔ 0 < value extent ∧ 2 * value extent < ceiling .binary32 := by
  have isNumber : IsNumber .binary32 (2 * value extent) := finite.isNumber.double
  have measured : (extent - -extent).isFinite = true ↔ |2 * value extent| < ceiling .binary32 :=
    (computes_width finite).isFinite_iff.trans isNumber.lt_threshold_iff
  rw [hasRoom, Bool.and_eq_true, decide_eq_true_iff, lt_iff_value finite.opposite.1 finite,
    finite.opposite.2, measured, neg_lt_self_iff]
  refine and_congr_right fun positive => ?_
  rw [abs_of_pos (by linarith)]

theorem fraction_lt (bits : UInt32) : (bits >>> 9).toNat < 2 ^ 23 := by
  have bound := bits.toNat_lt
  rw [UInt32.toNat_shiftRight, Nat.shiftRight_eq_div_pow]
  exact Nat.div_lt_of_lt_mul (by simpa using bound)

theorem coordinate_isFinite (generator : Generator) (room : hasRoom extent = true) :
    (generator.coordinate extent).1.isFinite = true := by
  have widthFinite : IsFinite (extent - -extent) := (Bool.and_eq_true_iff.mp room).2
  have finite := widthFinite.of_sub
  have positive := ((hasRoom_iff finite).mp room).1
  have whole : value (extent - -extent) = 2 * value extent :=
    ((computes_width finite).rounds widthFinite).eq_of_isNumber finite.isNumber.double
  have inUnit := inUnit_fraction (fraction_lt generator.next.1)
  have part := computes_mul inUnit.finite widthFinite
  have nonneg := mul_nonneg inUnit.nonneg (show 0 ≤ value (extent - -extent) by linarith)
  have atMost : _ * value (extent - -extent) ≤ value (extent - -extent) :=
    mul_le_of_le_one_left (by linarith) inUnit.le_one
  have partFinite := part.isFinite_iff.mpr (by
    rw [abs_of_nonneg nonneg]
    exact (atMost.trans (le_abs_self _)).trans_lt
      (widthFinite.abs_le_greatest.trans_lt (greatest_lt_threshold _)))
  have rounds := part.rounds partFinite
  have least := rounds.le_of_ge (isNumber_zero _) nonneg
  have most := rounds.le_of_le widthFinite.isNumber atMost
  refine (computes_add partFinite finite.opposite.1).isFinite_iff.mpr ?_
  refine lt_of_le_of_lt (le_trans ?_ finite.abs_le_greatest) (greatest_lt_threshold _)
  rw [finite.opposite.2, abs_of_pos positive, abs_le]
  constructor <;> linarith

theorem place?_isFinite {generator rest : Generator} {point : Point Float32}
    (placed : generator.place? extent = some (point, rest)) : point.isFinite = true := by
  rw [place?] at placed
  split at placed
  · next room =>
      cases placed
      exact Bool.and_eq_true_iff.mpr
        ⟨coordinate_isFinite _ room, coordinate_isFinite _ room⟩
  · cases placed

end Generator

end SpriteScript
