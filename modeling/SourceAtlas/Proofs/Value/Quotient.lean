import Mathlib
import SourceAtlas.Proofs.Value.Compare

/-! # Quotients that are not too large

    A quotient of whole numbers is rounded to a mantissa of at most `2 ^ 53` and
    an exponent (`exponentFor`, `scaled_exponentFor_lt`).  If it is less than
    `2 ^ 1022`, the exponent is one of those that finite numbers have
    (`exponentFor_le`), so there is a floating-point number next to it
    (`isSome_ofQuotient?`). -/

namespace SourceAtlas.Binary64

open Float.Model

/-! ## Bits -/

/-- A floating-point number is made of any bits that do not have the last exponent. -/
theorem toBits_ofBits {b : UInt64} (h : b.toNat / pow2 52 % pow2 11 ≠ 2047) :
    (Float.ofBits b).toBits = b := by
  have hexponent : (@UnpackedFloat.unpackExponent Format.binary64 b.toBitVec).toNat
      = b.toNat / pow2 52 % pow2 11 := by
    show (b.toNat >>> 52) % 2 ^ 11 = _
    rw [Nat.shiftRight_eq_div_pow]
    rfl
  have hones : @UnpackedFloat.unpackExponent Format.binary64 b.toBitVec ≠ -1#_ := by
    intro heq
    exact h (hexponent.symm.trans (congrArg BitVec.toNat heq))
  have hnan : @UnpackedFloat.isNaNBits Format.binary64 b.toBitVec = false :=
    decide_eq_false fun hbits => hones hbits.1
  have hpack := @UnpackedFloat.pack_unpack Format.binary64 b.toBitVec (by decide)
  rw [hnan] at hpack
  exact congrArg UInt64.ofBitVec hpack

/-- Without the last exponent, a floating-point number is finite. -/
theorem finite_of_not_last {x : Float} (h : x.toBits.toNat / pow2 52 % pow2 11 ≠ 2047) :
    ∃ negative m e, ofFloat x = finite negative m e := by
  simp only [ofFloat, if_neg h]
  split <;> exact ⟨_, _, _, rfl⟩

theorem finite_ofBits (negative : Bool) {magnitude : Nat} (h : magnitude < 2047 * pow2 52) :
    ∃ negative' m e, ofFloat (Float.ofBits (UInt64.ofNat
      ((if negative then pow2 63 else 0) + magnitude))) = finite negative' m e := by
  have h11 : pow2 11 = 2048 := rfl
  have h52 : pow2 52 = 4503599627370496 := rfl
  have h63 : pow2 63 = 9223372036854775808 := rfl
  generalize hsign : (if negative then pow2 63 else 0) = sign
  have hcases : sign = pow2 63 ∨ sign = 0 := by
    rw [← hsign]
    cases negative
    · exact Or.inr rfl
    · exact Or.inl rfl
  have hfits : sign + magnitude < 2 ^ 64 := by omega
  have hbits : (UInt64.ofNat (sign + magnitude)).toNat / pow2 52 % pow2 11 ≠ 2047 := by
    rw [UInt64.toNat_ofNat_of_lt' hfits, h11, h52]
    omega
  exact finite_of_not_last (by rwa [toBits_ofBits hbits])

/-- A mantissa and an exponent within their bounds make a finite number. -/
theorem finite_pack (negative : Bool) {m : Nat} {e : Int} (hm : m ≤ pow2 53) (he : e ≤ 970) :
    ∃ negative' m' e', ofFloat (pack negative m e) = finite negative' m' e' := by
  have h52 : pow2 52 = 4503599627370496 := rfl
  have h53 : pow2 53 = 9007199254740992 := rfl
  unfold pack
  by_cases htop : m = pow2 53
  · rw [if_pos htop]
    dsimp only
    refine finite_ofBits negative ?_
    rw [if_neg (by omega), if_neg (by omega), h52]
    omega
  · rw [if_neg htop]
    dsimp only
    refine finite_ofBits negative ?_
    rw [if_neg (by omega), h52]
    split <;> omega

/-! ## Rounding -/

theorem roundHalfEven_le {num den bound : Nat} (h : num < den * bound) :
    roundHalfEven num den ≤ bound := by
  have hquotient : num / den < bound := Nat.div_lt_of_lt_mul h
  unfold roundHalfEven
  dsimp only
  split
  · exact hquotient
  · exact hquotient.le

theorem nearest_of_ne_zero (negative : Bool) {num : Nat} (den : Nat) (h : num ≠ 0) :
    nearest negative num den
      = pack negative (roundHalfEven (scaled num den (exponentFor num den)).1
        (scaled num den (exponentFor num den)).2) (exponentFor num den) := by
  rw [nearest, if_neg h]

theorem exponentFor_le {num den : Nat} (hnum : num ≠ 0) (h : num < den * 2 ^ 1022) :
    exponentFor num den ≤ 970 := by
  have hlog : Nat.log2 num < Nat.log2 den + 1023 := by
    rw [Nat.log2_lt hnum]
    calc num < den * 2 ^ 1022 := h
      _ ≤ 2 ^ (Nat.log2 den + 1) * 2 ^ 1022 := Nat.mul_le_mul_right _ Nat.lt_log2_self.le
      _ = 2 ^ (Nat.log2 den + 1023) := by rw [← Nat.pow_add]
  unfold exponentFor
  dsimp only
  split <;> omega

/-- With an exponent that is not below the guess, the mantissa is small enough. -/
theorem scaled_lt {num den : Nat} (hden : den ≠ 0) {e : Int}
    (he : (Nat.log2 num : Int) - Nat.log2 den - 52 ≤ e) :
    (scaled num den e).1 < (scaled num den e).2 * pow2 53 := by
  have hnum : num < 2 ^ (Nat.log2 num + 1) := Nat.lt_log2_self
  have hlog : 2 ^ Nat.log2 den ≤ den := Nat.log2_self_le hden
  unfold scaled
  split
  · next hnonneg =>
      calc num < 2 ^ (Nat.log2 num + 1) := hnum
        _ ≤ 2 ^ (Nat.log2 den + e.toNat + 53) := Nat.pow_le_pow_right (by decide) (by omega)
        _ = 2 ^ Nat.log2 den * 2 ^ e.toNat * 2 ^ 53 := by rw [Nat.pow_add, Nat.pow_add]
        _ ≤ den * pow2 e.toNat * pow2 53 :=
            Nat.mul_le_mul_right _ (Nat.mul_le_mul_right _ hlog)
  · next hneg =>
      calc num * pow2 (-e).toNat < 2 ^ (Nat.log2 num + 1) * 2 ^ (-e).toNat :=
            Nat.mul_lt_mul_of_pos_right hnum (Nat.two_pow_pos _)
        _ = 2 ^ (Nat.log2 num + 1 + (-e).toNat) := by rw [← Nat.pow_add]
        _ ≤ 2 ^ (Nat.log2 den + 53) := Nat.pow_le_pow_right (by decide) (by omega)
        _ = 2 ^ Nat.log2 den * 2 ^ 53 := Nat.pow_add ..
        _ ≤ den * pow2 53 := Nat.mul_le_mul_right _ hlog

/-- An exponent that is less by one doubles the mantissa. -/
theorem scaled_pred {num den : Nat} {e : Int} {bound : Nat}
    (h : (scaled num den e).1 < (scaled num den e).2 * bound) :
    (scaled num den (e - 1)).1 < (scaled num den (e - 1)).2 * (bound * 2) := by
  unfold scaled at h ⊢
  rcases lt_trichotomy e 0 with hneg | rfl | hpos
  · have hexponent : (-(e - 1)).toNat = (-e).toNat + 1 := by omega
    rw [if_neg (by omega)] at h ⊢
    rw [hexponent, pow2_succ, ← Nat.mul_assoc, ← Nat.mul_assoc]
    exact Nat.mul_lt_mul_of_pos_right h Nat.two_pos
  · rw [if_pos le_rfl] at h
    rw [if_neg (by decide), ← Nat.mul_assoc]
    exact Nat.mul_lt_mul_of_pos_right (by simpa [pow2] using h) Nat.two_pos
  · have hexponent : e.toNat = (e - 1).toNat + 1 := by omega
    rw [if_pos (by omega)] at h ⊢
    rw [hexponent, pow2_succ] at h
    calc num < den * (pow2 (e - 1).toNat * 2) * bound := h
      _ = den * pow2 (e - 1).toNat * (bound * 2) := by ring

/-- The mantissa has at most 53 binary digits. -/
theorem scaled_exponentFor_lt {num den : Nat} (hden : den ≠ 0) :
    (scaled num den (exponentFor num den)).1
      < (scaled num den (exponentFor num den)).2 * pow2 53 := by
  unfold exponentFor
  dsimp only
  generalize hguess : (Nat.log2 num : Int) - Nat.log2 den - 52 = guess
  split
  · next hlt =>
      rcases le_or_gt (-1074) (guess - 1) with hle | hgt
      · rw [max_eq_left hle]
        exact scaled_pred hlt
      · rw [max_eq_right hgt.le]
        exact scaled_lt hden (by omega)
  · exact scaled_lt hden (hguess ▸ le_max_left ..)

/-- **QUOTIENTS**: there is a floating-point number next to a quotient of at most `2 ^ 1022`. -/
theorem isSome_ofQuotient? {num : Int} {den : Nat} (h : num.natAbs < den * 2 ^ 1022) :
    (ofQuotient? num den).isSome = true := by
  have hden : den ≠ 0 := by
    rintro rfl
    rw [Nat.zero_mul] at h
    exact Nat.not_lt_zero _ h
  have hfinite : ∃ negative m e, ofFloat (ofQuotient num den) = finite negative m e := by
    unfold ofQuotient
    by_cases hnum : num.natAbs = 0
    · rw [nearest, if_pos hnum]
      exact finite_pack _ (Nat.zero_le _) (by decide)
    · rw [nearest_of_ne_zero _ _ hnum]
      exact finite_pack _ (roundHalfEven_le (scaled_exponentFor_lt hden)) (exponentFor_le hnum h)
  obtain ⟨negative, m, e, hparts⟩ := hfinite
  unfold ofQuotient?
  dsimp only
  rw [hparts]
  rfl

end SourceAtlas.Binary64
