import SourceAtlas.Value.Number

/-! # Numbers compared with zero

    A number is at most zero, above zero, or no number at all
    (`Number.isBelow_of_not_isAtMost`).  Finite numbers are compared as
    fractions; for the other ones the comparison is that of the floating-point
    numbers, which are taken apart to see what it says. -/

namespace SourceAtlas

open Float.Model

/-- The number is none: a floating-point number that stands for an undefined result. -/
def Number.isNaN : Number → Bool
  | real x => x.isNaN
  | whole _ | truth _ => false

/-! ## Floating-point numbers that are not finite -/

namespace Binary64

theorem toNat_unpackExponent (x : Float) :
    (@UnpackedFloat.unpackExponent Format.binary64 x.toBits.toBitVec).toNat
      = x.toBits.toNat / pow2 52 % pow2 11 := by
  show (x.toBits.toNat >>> 52) % 2 ^ 11 = _
  rw [Nat.shiftRight_eq_div_pow]
  rfl

/-- With the last exponent a floating-point number is infinite or none. -/
theorem unpack_of_last {x : Float} (h : x.toBits.toNat / pow2 52 % pow2 11 = 2047) :
    x.toModel.unpack = .notANumber ∨ ∃ sign, x.toModel.unpack = .infinity sign := by
  have hones : @UnpackedFloat.unpackExponent Format.binary64 x.toModel.toBits.toBitVec = -1#_ :=
    BitVec.eq_of_toNat_eq ((toNat_unpackExponent x).trans h)
  have hunpack : x.toModel.unpack
      = if @UnpackedFloat.unpackMantissa Format.binary64 x.toModel.toBits.toBitVec = 0#_ then
          .infinity (.ofBitVec (@UnpackedFloat.unpackSign Format.binary64
            x.toModel.toBits.toBitVec))
        else .notANumber :=
    if_pos hones
  rw [hunpack]
  split
  · exact Or.inr ⟨_, rfl⟩
  · exact Or.inl rfl

/-- With any other exponent it is a number. -/
theorem isNaN_of_not_last {x : Float} (h : x.toBits.toNat / pow2 52 % pow2 11 ≠ 2047) :
    x.isNaN = false := by
  have hones : @UnpackedFloat.unpackExponent Format.binary64 x.toModel.toBits.toBitVec ≠ -1#_ := by
    intro heq
    exact h ((toNat_unpackExponent x).symm.trans (congrArg BitVec.toNat heq))
  have hunpack : x.toModel.unpack = ite _ _ _ := if_neg hones
  show x.toModel.unpack.isNaN = false
  rw [hunpack]
  by_cases hzero : @UnpackedFloat.unpackExponent Format.binary64 x.toModel.toBits.toBitVec = 0#_
  · rw [if_pos hzero]
    by_cases hnone : @UnpackedFloat.unpackMantissa Format.binary64 x.toModel.toBits.toBitVec = 0#_
    · rw [dif_pos hnone]
      rfl
    · rw [dif_neg hnone]
      rfl
  · rw [if_neg hzero]
    rfl

/-- A floating-point number is finite, infinite, or none. -/
theorem kinds (x : Float) :
    ((∃ negative m e, ofFloat x = finite negative m e) ∧ x.isNaN = false)
    ∨ (∀ negative m e, ofFloat x ≠ finite negative m e)
      ∧ (x.toModel.unpack = .notANumber ∨ ∃ sign, x.toModel.unpack = .infinity sign) := by
  by_cases hlast : x.toBits.toNat / pow2 52 % pow2 11 = 2047
  · refine Or.inr ⟨fun negative m e => ?_, unpack_of_last hlast⟩
    simp only [ofFloat, if_pos hlast]
    split <;> exact Binary64.noConfusion
  · refine Or.inl ⟨?_, isNaN_of_not_last hlast⟩
    simp only [ofFloat, if_neg hlast]
    split <;> exact ⟨_, _, _, rfl⟩

end Binary64

theorem Binary64.lt_iff_compare (x y : Float) :
    x < y ↔ x.toModel.unpack.compare y.toModel.unpack = some .lt := by
  have hlt : (x < y) = (decide (x.toModel < y.toModel) = true) := rfl
  rw [hlt, decide_eq_true_iff]
  show (x.toModel.unpack.compare y.toModel.unpack == some .lt) = true ↔ _
  exact beq_iff_eq

namespace Number

/-- A number is a fraction, or neither zero nor comparable as one. -/
theorem fraction?_kinds (n : Number) :
    ((∃ num den, n.fraction? = some (num, den)) ∧ n.isNaN = false)
    ∨ ∃ x, n = real x ∧ n.fraction? = none
      ∧ (x.toModel.unpack = .notANumber ∨ ∃ sign, x.toModel.unpack = .infinity sign) := by
  cases n with
  | whole i => exact Or.inl ⟨⟨i, 1, rfl⟩, rfl⟩
  | truth b => exact Or.inl ⟨⟨_, 1, rfl⟩, rfl⟩
  | real x =>
      rcases Binary64.kinds x with ⟨⟨negative, m, e, hx⟩, hnan⟩ | ⟨hx, hkind⟩
      · simp only [fraction?, hx]
        exact Or.inl ⟨⟨_, _, rfl⟩, hnan⟩
      · refine Or.inr ⟨x, rfl, ?_, hkind⟩
        cases hparts : Binary64.ofFloat x with
        | finite negative m e => exact absurd hparts (hx negative m e)
        | nan => simp only [fraction?, hparts]
        | infinite negative => simp only [fraction?, hparts]

/-- What is not at most zero is above zero, unless it is no number. -/
theorem isBelow_of_not_isAtMost {n : Number} (h : n.isAtMost (whole 0) = false) :
    (whole 0).isBelow n = !n.isNaN := by
  obtain ⟨hbelow, hsame⟩ := Bool.or_eq_false_iff.mp h
  have hzero : (whole 0).fraction? = some (0, 1) := rfl
  -- Fractions are compared by products; what is beyond them is compared with zero as it stands.
  rcases fraction?_kinds n with ⟨⟨num, den, hn⟩, hnan⟩ | ⟨x, rfl, hn, hkind⟩
  · simp only [isBelow, isSame, hn, hzero, decide_eq_false_iff_not] at hbelow hsame ⊢
    rw [hnan, Bool.not_false, decide_eq_true_iff]
    omega
  · have hbeyond : (real x).beyond = x := by
      rw [beyond, hn]
      rfl
    have hbeyondZero : (whole 0).beyond = 0.0 := rfl
    have hunpackZero : (0.0 : Float).toModel.unpack = .zero .positive := rfl
    have hnan : (real x).isNaN = x.toModel.unpack.isNaN := rfl
    simp only [isBelow, hn, hzero, hbeyond, hbeyondZero, hnan, decide_eq_false_iff_not,
      Binary64.lt_iff_compare, hunpackZero] at hbelow ⊢
    rcases hkind with hx | ⟨sign, hx⟩
    · rw [hx]
      rfl
    · rw [hx] at hbelow ⊢
      cases sign with
      | positive => rfl
      | negative => exact absurd rfl hbelow

end Number

end SourceAtlas
