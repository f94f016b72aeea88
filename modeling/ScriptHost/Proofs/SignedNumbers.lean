import Mathlib
import ScriptHost.Script.Number

/-!
# Signs of numbers

Two forms of a script number may be one double.  A number with its sign in front is the same double
whether the sign is taken off before it is rounded or after.
-/

namespace ScriptHost.Proofs.SignedNumbers

open Script Binary Float.Model

variable {x : Float} {v : Value} {n : Nat} {negative : Bool}

/-! ## Bits -/

/-- Bits that are not those of a value that is no number are kept. -/
theorem toBits_ofBits {b : UInt64} (h : b.toNat / 2 ^ 52 % 2 ^ 11 = 2047 → b.toNat % 2 ^ 52 = 0) :
    (Float.ofBits b).toBits = b := by
  have hvalid : Format.binary64.Valid b.toBitVec := by
    refine ⟨fun hexponent hmantissa => absurd ?_ hmantissa⟩
    rw [UnpackedFloat.unpackExponent_def] at hexponent
    rw [UnpackedFloat.unpackMantissa_def]
    have hones : b.toNat / 2 ^ 52 % 2 ^ 11 = 2047 := by
      have htoNat := congrArg BitVec.toNat hexponent
      simpa [BitVec.extractLsb', Nat.shiftRight_eq_div_pow] using htoNat
    refine BitVec.eq_of_toNat_eq ?_
    simpa [BitVec.extractLsb'] using h hones
  exact UInt64.toBitVec_inj.mp (UnpackedFloat.pack_unpack_of_valid hvalid)

theorem ratioBits_le (num den : Nat) : ratioBits num den ≤ 2047 * 2 ^ 52 := by
  unfold ratioBits
  split
  · omega
  · exact Nat.min_le_right _ _

/-- The bits of a double that is not past infinity, with a sign. -/
def signedBits (negative : Bool) (n : Nat) : UInt64 :=
  ((if negative then 2 ^ 63 else 0) + n).toUInt64

theorem toNat_signedBits (h : n ≤ 2047 * 2 ^ 52) :
    (signedBits negative n).toNat = (if negative then 2 ^ 63 else 0) + n := by
  unfold signedBits
  cases negative with
  | false => simp; omega
  | true => simp; omega

theorem toBits_signedBits (h : n ≤ 2047 * 2 ^ 52) :
    (Float.ofBits (signedBits negative n)).toBits = signedBits negative n := by
  refine toBits_ofBits ?_
  rw [toNat_signedBits h]
  cases negative with
  | false => simp; omega
  | true => simp; omega

theorem negate_signedBits (h : n ≤ 2047 * 2 ^ 52) :
    negate (Float.ofBits (signedBits negative n)) = Float.ofBits (signedBits (!negative) n) := by
  unfold negate
  rw [toBits_signedBits h]
  refine congrArg Float.ofBits (UInt64.toNat.inj ?_)
  rw [UInt64.toNat_add, toNat_signedBits h, toNat_signedBits h]
  cases negative with
  | false => simp; omega
  | true => simp; omega

theorem ofRatio_eq (negative : Bool) (num den : Nat) :
    ofRatio negative num den = Float.ofBits (signedBits negative (ratioBits num den)) := rfl

theorem infinity_eq (negative : Bool) :
    infinity negative = Float.ofBits (signedBits negative (2047 * 2 ^ 52)) := by
  cases negative with
  | false => rfl
  | true => rfl

@[simp]
theorem negate_ofRatio (negative : Bool) (num den : Nat) :
    negate (ofRatio negative num den) = ofRatio (!negative) num den := by
  rw [ofRatio_eq, negate_signedBits (ratioBits_le num den), ofRatio_eq]

@[simp]
theorem negate_infinity (negative : Bool) : negate (infinity negative) = infinity (!negative) := by
  rw [infinity_eq, negate_signedBits (Nat.le_refl _), infinity_eq]

/-- A decimal is rounded to the same double before and after its sign is taken off. -/
theorem negate_toFloat (digits : Nat) (exponent : Int) :
    negate (Decimal.toFloat false digits exponent) = Decimal.toFloat true digits exponent := by
  unfold Decimal.toFloat
  split
  · simp
  · dsimp only
    split
    · simp
    · split
      · simp
      · split
        · simp
        · simp

/-! ## Doubles of numbers -/

@[simp]
theorem toFloat_ofFloat (x : Float) : (Value.ofFloat x).toFloat? = some x := by
  unfold Value.ofFloat
  dsimp only
  split
  · rename_i h
    simp only [Bool.and_eq_true, decide_eq_true_eq, beq_iff_eq] at h
    obtain ⟨⟨hmin, hmax⟩, hbits⟩ := h
    have hback : (Int32.ofInt ((truncate? x).getD 0)).toInt = (truncate? x).getD 0 :=
      Int32.toInt_ofInt_of_le hmin (Int.lt_of_le_of_lt hmax (by decide))
    change some (Binary.ofInt _) = _
    rw [hback, Float.toBits_inj.mp hbits]
  · rfl

@[simp]
theorem toFloat_ofInt (i : Int) : (Value.ofInt i).toFloat? = some (Binary.ofInt i) := by
  unfold Value.ofInt
  split
  · rename_i h
    simp only [Bool.and_eq_true, decide_eq_true_eq] at h
    change some (Binary.ofInt _) = _
    rw [Int32.toInt_ofInt_of_le h.1 (Int.lt_of_le_of_lt h.2 (by decide))]
  · rfl

/-- A number with the other sign is the double with the other sign. -/
theorem toFloat_neg (h : v.toFloat? = some x) : (Number.neg v).toFloat? = some (negate x) := by
  cases v with
  | int i =>
      cases h
      by_cases hzero : i = 0
      · subst hzero
        exact congrArg some (negate_ofRatio false 0 1).symm
      · have hneg : Number.neg (.int i) = Value.ofInt (-i.toInt) := if_neg hzero
        have hne : i.toInt ≠ 0 := fun heq => hzero (Int32.toInt_inj.mp heq)
        have hsign : decide (-i.toInt < 0) = !decide (i.toInt < 0) := by
          rw [← decide_not]
          exact decide_eq_decide.mpr (by omega)
        rw [hneg, toFloat_ofInt]
        unfold Value.intToFloat Binary.ofInt
        rw [negate_ofRatio, hsign, Int.natAbs_neg]
  | float y =>
      cases h
      rfl
  | _ => cases h

/-! ## Great integers -/

theorem le_roundQuotient {num den m : Nat} (hden : 0 < den) (h : m * den ≤ num) :
    m ≤ roundQuotient num den := by
  have hquotient : m ≤ num / den := (Nat.le_div_iff_mul_le hden).mpr h
  unfold roundQuotient
  dsimp only
  split
  · exact hquotient
  · split
    · omega
    · split
      · exact hquotient
      · omega

/-- Past the greatest double, an integer is infinity. -/
theorem ratioBits_great (h : 2 ^ 1100 ≤ n) : ratioBits n 1 = 2047 * 2 ^ 52 := by
  have hne : n ≠ 0 := by
    rintro rfl
    exact absurd h (Nat.not_le.mpr (Nat.two_pow_pos _))
  have hlog : 1100 ≤ n.log2 := (Nat.le_log2 hne).mpr h
  have hself : 2 ^ n.log2 ≤ n := Nat.log2_self_le hne
  have hone : Nat.log2 1 = 0 := rfl
  have hreaches : atLeastPower n 1 (n.log2 : Int) = true := by
    unfold atLeastPower
    rw [if_pos (by omega)]
    simpa using hself
  have hexponent : max ((n.log2 : Int) - 52) (-1074) = ((n.log2 - 52 : Nat) : Int) := by omega
  have hlead : 2 ^ 52 * 2 ^ (n.log2 - 52) ≤ n := by
    rw [← Nat.pow_add, Nat.add_sub_cancel' (by omega)]
    exact hself
  have hsignificand : 2 ^ 52 ≤ roundScaled n 1 ((n.log2 - 52 : Nat) : Int) := by
    unfold roundScaled
    rw [if_pos (by omega), Int.toNat_natCast, Nat.one_mul]
    exact le_roundQuotient (Nat.two_pow_pos _) hlead
  unfold ratioBits
  rw [if_neg (by simpa using hne)]
  simp only [hone, Int.ofNat_zero, Int.sub_zero, hreaches, if_true, hexponent]
  rw [if_neg (by omega)]
  have hgreat : 2047 ≤ (((n.log2 - 52 : Nat) : Int) + 1075).toNat := by omega
  have hbits := Nat.mul_le_mul_right (2 ^ 52) hgreat
  omega

/-- An integer in decimal is the double of the integer. -/
theorem toFloat_natural (negative : Bool) (n : Nat) :
    Decimal.toFloat negative n 0 = ofRatio negative n 1 := by
  unfold Decimal.toFloat
  by_cases hzero : n = 0
  · rw [if_pos hzero, hzero]
  · rw [if_neg hzero]
    dsimp only
    by_cases hgreat : 400 < (Decimal.digitCount n : Int) + 0
    · have hcount : ¬Decimal.digitCount n ≤ 400 := by omega
      have hlong : 2 ^ 1100 ≤ n := by
        calc 2 ^ 1100 ≤ 2 ^ (3 * 400) := Nat.pow_le_pow_right (by decide) (by decide)
          _ = (2 ^ 3) ^ 400 := Nat.pow_mul 2 3 400
          _ ≤ 10 ^ 400 := Nat.pow_le_pow_left (by decide) 400
          _ ≤ n := Nat.not_lt.mp fun hlt =>
            hcount ((Nat.length_toDigits_le_iff (by decide) (by decide)).mpr hlt)
      rw [if_pos hgreat, infinity_eq, ofRatio_eq, ratioBits_great hlong]
    · rw [if_neg hgreat, if_neg (by omega), if_pos (Int.le_refl 0)]
      simp

end ScriptHost.Proofs.SignedNumbers
