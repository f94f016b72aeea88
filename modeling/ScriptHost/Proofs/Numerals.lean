import ScriptHost.Proofs.ScannedNumbers

/-!
# Numerals of numbers

Integers and floats, as data is written, are numerals after a sign.  A float that is not zero has a
shortest decimal with a digit that is not zero.
-/

namespace ScriptHost.Proofs.Numerals

open Script Decimal
open ScriptHost.Proofs.ScannedNumbers

variable {n k : Nat} {ds : List Char} {lead : Int}

/-! ## Natural numbers -/

/-- The digits of a positive number do not start with a zero. -/
theorem toDigits_ne_zero (h : 0 < n) (tail : List Char) : Nat.toDigits 10 n ≠ '0' :: tail := by
  induction n using Nat.strongRecOn generalizing tail with
  | _ n ih =>
      intro heq
      rcases Nat.lt_or_ge n 10 with hlt | hge
      · rw [Nat.toDigits_of_lt_base hlt] at heq
        have hdigit : ∀ n < 10, 0 < n → Nat.digitChar n ≠ '0' := by decide
        exact hdigit n hlt h (List.cons.inj heq).1
      · rw [Nat.toDigits_of_base_le (by omega) hge] at heq
        obtain ⟨d, ds, hds⟩ := List.exists_cons_of_ne_nil (Nat.toDigits_ne_nil (b := 10) (n := n / 10))
        rw [hds, List.cons_append] at heq
        refine ih (n / 10) (by omega) (by omega) ds ?_
        rw [hds, (List.cons.inj heq).1]

theorem allDigits_toDigits (n : Nat) : AllDigits (Nat.toDigits 10 n) :=
  fun _ hd => Nat.isDigit_of_mem_toDigits (by omega) (by omega) hd

/-- The numeral of a natural number. -/
def natural (n : Nat) : Numeral := ⟨Nat.toDigits 10 n, none, none⟩

theorem natural_isWritten (n : Nat) : (natural n).IsWritten where
  whole := allDigits_toDigits n
  nonempty := Nat.toDigits_ne_nil
  zero ds h := by
    rcases Nat.eq_zero_or_pos n with rfl | hpos
    · rw [natural, Nat.toDigits_zero] at h
      exact (List.cons.inj h).2.symm
    · exact absurd h (toDigits_ne_zero hpos ds)
  fraction _ h := nomatch h
  exponent _ _ h := nomatch h

theorem natural_chars (n : Nat) : (natural n).chars = Nat.toDigits 10 n := List.append_nil _

theorem natural_value (n : Nat) : (natural n).value = .ofInt n := by
  change Value.ofInt (Nat.ofDigitChars 10 (Nat.toDigits 10 n) 0 : Nat) = _
  rw [Nat.ofDigitChars_ten_toDigits]

/-! ## Digits laid out -/

theorem allDigits_zeros (n : Nat) : AllDigits (List.replicate n '0') := by
  intro d hd
  rw [List.eq_of_mem_replicate hd]
  rfl

theorem allDigits_append {ds es : List Char} (hds : AllDigits ds) (hes : AllDigits es) :
    AllDigits (ds ++ es) := by
  intro d hd
  rcases List.mem_append.mp hd with hd | hd
  · exact hds d hd
  · exact hes d hd

/-- The digits of an exponent, at least two of them. -/
def exponentDigits (lead : Int) : List Char :=
  List.replicate (2 - (digitChars lead.natAbs).length) '0' ++ digitChars lead.natAbs

/-- The numeral of digits whose first one has an exponent. -/
def laidOut (ds : List Char) (lead : Int) : Numeral :=
  if -4 ≤ lead ∧ lead < 16 then
    if lead < 0 then ⟨['0'], some (List.replicate (-lead - 1).toNat '0' ++ ds), none⟩
    else if ds.length ≤ lead.toNat + 1 then
      ⟨ds ++ List.replicate (lead.toNat + 1 - ds.length) '0', some ['0'], none⟩
    else ⟨ds.take (lead.toNat + 1), some (ds.drop (lead.toNat + 1)), none⟩
  else
    ⟨ds.take 1, if ds.length ≤ 1 then none else some (ds.drop 1),
      some (if lead < 0 then '-' else '+', exponentDigits lead)⟩

theorem layOut_eq (hne : ds ≠ []) : jsonStyle.layOut ds lead = (laidOut ds lead).chars := by
  obtain ⟨d, ds, rfl⟩ := List.exists_cons_of_ne_nil hne
  have hpositional : (jsonStyle.positionalFrom ≤ lead && lead < jsonStyle.positionalBelow) =
      decide (-4 ≤ lead ∧ lead < 16) := (Bool.decide_and _ _).symm
  have hwidth : jsonStyle.exponentWidth = 2 := rfl
  have hpoint : jsonStyle.keepsPoint = true := rfl
  unfold Style.layOut laidOut
  dsimp only
  rw [hpositional, hwidth, hpoint]
  by_cases hrange : -4 ≤ lead ∧ lead < 16
  · rw [if_pos (decide_eq_true hrange), if_pos hrange]
    split
    · simp [Numeral.chars, Numeral.fractionChars, Numeral.exponentChars]
    · split
      · simp [Numeral.chars, Numeral.fractionChars, Numeral.exponentChars]
      · simp [Numeral.chars, Numeral.fractionChars, Numeral.exponentChars]
  · rw [if_neg (by simpa using hrange), if_neg hrange]
    cases ds with
    | nil => simp [Numeral.chars, Numeral.fractionChars, Numeral.exponentChars, exponentDigits,
        Decimal.exponentChars]
    | cons e ds => simp [Numeral.chars, Numeral.fractionChars, Numeral.exponentChars,
        exponentDigits, Decimal.exponentChars]

theorem exponentDigits_allDigits : AllDigits (exponentDigits lead) :=
  allDigits_append (allDigits_zeros _) (allDigits_toDigits _)

theorem exponentDigits_ne_nil : exponentDigits lead ≠ [] := by
  intro h
  exact Nat.toDigits_ne_nil (List.append_eq_nil_iff.mp h).2

theorem laidOut_isWritten (hds : AllDigits ds) (hne : ds ≠ []) (hzero : ∀ es, ds ≠ '0' :: es) :
    (laidOut ds lead).IsWritten := by
  have htake (n : Nat) : AllDigits (ds.take n) := fun d hd => hds d (List.mem_of_mem_take hd)
  have hdrop (n : Nat) : AllDigits (ds.drop n) := fun d hd => hds d (List.mem_of_mem_drop hd)
  unfold laidOut
  split
  · split
    · refine ⟨allDigits_zeros 1, by simp, by simp, ?_, by simp⟩
      rintro es ⟨⟩
      exact allDigits_append (allDigits_zeros _) hds
    · split
      · refine ⟨allDigits_append hds (allDigits_zeros _), by simp [hne], ?_, ?_, by simp⟩
        · intro es heq
          obtain ⟨d, ds, rfl⟩ := List.exists_cons_of_ne_nil hne
          exact absurd (by rw [(List.cons.inj heq).1]) (hzero ds)
        · rintro es ⟨⟩
          exact allDigits_zeros 1
      · refine ⟨htake _, by simp [hne], ?_, ?_, by simp⟩
        · intro es heq
          obtain ⟨d, ds, rfl⟩ := List.exists_cons_of_ne_nil hne
          exact absurd (by rw [(List.cons.inj heq).1]) (hzero ds)
        · rintro es ⟨⟩
          exact hdrop _
  · refine ⟨htake _, by simp [hne], ?_, ?_, ?_⟩
    · intro es heq
      obtain ⟨d, ds, rfl⟩ := List.exists_cons_of_ne_nil hne
      exact absurd (by rw [(List.cons.inj heq).1]) (hzero ds)
    · intro es hes
      split at hes
      · cases hes
      · cases hes
        exact hdrop _
    · rintro sign es ⟨⟩
      refine ⟨exponentDigits_allDigits, exponentDigits_ne_nil, ?_⟩
      split
      · exact .inr rfl
      · exact .inl rfl

/-! ## Significant digits -/

/-- Without the zeros at its end, a positive number still starts with a digit that is not zero. -/
theorem significantChars_cons (h : 0 < n) :
    ∃ d ds, significantChars n = d :: ds ∧ d ≠ '0' ∧ AllDigits (d :: ds) := by
  obtain ⟨d, tail, hd⟩ := List.exists_cons_of_ne_nil (Nat.toDigits_ne_nil (b := 10) (n := n))
  have hne : d ≠ '0' := by
    rintro rfl
    exact toDigits_ne_zero h tail hd
  have hall := allDigits_toDigits n
  have hkept : ∃ ds, significantChars n = d :: ds ∧ ∀ e ∈ ds, e ∈ tail := by
    unfold significantChars digitChars
    rw [hd, List.reverse_cons, List.dropWhile_append]
    split
    · exact ⟨[], by simp [hne], by simp⟩
    · refine ⟨(tail.reverse.dropWhile (· == '0')).reverse, by simp, fun e he => ?_⟩
      rw [List.mem_reverse] at he
      exact List.mem_reverse.mp ((List.dropWhile_sublist _).mem he)
  obtain ⟨ds, hds, hmem⟩ := hkept
  refine ⟨d, ds, hds, hne, fun e he => hall e ?_⟩
  rw [hd]
  rcases List.mem_cons.mp he with rfl | he
  · exact List.mem_cons_self
  · exact List.mem_cons_of_mem _ (hmem e he)

/-! ## Shortest decimals -/

theorem pow_digitCount_le (h : 0 < n) : 10 ^ (digitCount n - 1) ≤ n := by
  by_cases hone : digitCount n = 1
  · rw [hone]
    exact h
  · have hpos := Nat.length_toDigits_pos (b := 10) (n := n)
    have hnot := mt (Nat.length_toDigits_le_iff (b := 10) (n := n) (k := digitCount n - 1)
      (by omega) (by unfold digitCount at *; omega)).mpr (by unfold digitCount at *; omega)
    omega

theorem lt_pow_digitCount (n : Nat) : n < 10 ^ digitCount n :=
  (Nat.length_toDigits_le_iff (by omega) Nat.length_toDigits_pos).mp (Nat.le_refl _)

theorem le_mul_ceilDiv (a : Nat) {b : Nat} (hb : 0 < b) : a ≤ b * ((a + b - 1) / b) := by
  have hdivide := Nat.div_add_mod (a + b - 1) b
  have hrest := Nat.mod_lt (a + b - 1) hb
  omega

/-- A grid that is at most as coarse as the leading digit has a point up to the value. -/
theorem below_pos {i : Interval} (hvalue : 0 < i.value) (hden : 0 < i.den) (hk : 0 < k) :
    0 < i.below (i.magnitude - k) := by
  unfold Interval.magnitude Interval.below
  split
  · rename_i hle
    have hquotient : 0 < i.value / i.den := Nat.div_pos hle hden
    split
    · have hcoarse : 10 ^ ((digitCount (i.value / i.den) : Int) - k).toNat ≤ i.value / i.den :=
        Nat.le_trans (Nat.pow_le_pow_right (by omega) (by omega)) (pow_digitCount_le hquotient)
      exact Nat.div_pos (Nat.le_trans (Nat.mul_le_mul_left _ hcoarse) (Nat.mul_div_le _ _))
        (Nat.mul_pos hden (Nat.pow_pos (by omega)))
    · exact Nat.div_pos (Nat.le_trans hle (Nat.le_mul_of_pos_right _ (Nat.pow_pos (by omega)))) hden
  · rename_i hlt
    have hdigits := Nat.length_toDigits_pos (b := 10) (n := (i.den + i.value - 1) / i.value - 1)
    rw [if_neg (by unfold digitCount; omega)]
    have hbelow := lt_pow_digitCount ((i.den + i.value - 1) / i.value - 1)
    have hceil : (i.den + i.value - 1) / i.value ≤
        10 ^ digitCount ((i.den + i.value - 1) / i.value - 1) := by omega
    have hfine := Nat.le_trans hceil (Nat.pow_le_pow_right (by omega)
      (show _ ≤ (-(1 - (digitCount ((i.den + i.value - 1) / i.value - 1) : Int) - k)).toNat by omega))
    exact Nat.div_pos (Nat.le_trans (le_mul_ceilDiv _ hvalue) (Nat.mul_le_mul_left _ hfine)) hden

theorem search_pos {i : Interval} (hvalue : 0 < i.value) (hden : 0 < i.den) (fuel : Nat)
    (hk : 0 < k) : 0 < (i.search fuel k).digits := by
  induction fuel generalizing k with
  | zero => exact below_pos hvalue hden hk
  | succ fuel ih =>
      have hbelow := below_pos hvalue hden hk
      unfold Interval.search
      dsimp only
      split
      · split
        · exact hbelow
        · exact Nat.succ_pos _
      · exact hbelow
      · exact Nat.succ_pos _
      · exact ih (Nat.succ_pos _)

theorem shortest_pos {significand : Nat} (h : 0 < significand) (exponent : Int) :
    0 < (shortest significand exponent).digits := by
  refine search_pos ?_ ?_ 17 Nat.one_pos
  · unfold Interval.ofBinary
    refine Nat.mul_pos (by omega) ?_
    split
    · exact Nat.pow_pos (by omega)
    · exact Nat.one_pos
  · unfold Interval.ofBinary
    dsimp only
    split
    · exact Nat.one_pos
    · exact Nat.pow_pos (by omega)

/-! ## Floats -/

/-- The numeral of a finite float without its sign. -/
def magnitude (significand : Nat) (exponent : Int) : Numeral :=
  if significand = 0 then ⟨['0'], some ['0'], none⟩
  else
    let decimal := shortest significand exponent
    laidOut (significantChars decimal.digits) ((digitCount decimal.digits : Int) - 1 + decimal.exponent)

theorem magnitude_isWritten (significand : Nat) (exponent : Int) :
    (magnitude significand exponent).IsWritten := by
  unfold magnitude
  split
  · exact ⟨allDigits_zeros 1, by simp, by simp, by rintro ds ⟨⟩; exact allDigits_zeros 1, by simp⟩
  · rename_i hne
    obtain ⟨d, ds, hds, hzero, hall⟩ := significantChars_cons (shortest_pos (Nat.pos_of_ne_zero hne) exponent)
    dsimp only
    rw [hds]
    exact laidOut_isWritten hall (by simp) fun es heq => hzero (List.cons.inj heq).1

/-- The sign of a number, as data is written. -/
def signChars (negative : Bool) : List Char := if negative then ['-'] else []

/-- A finite float is written as a numeral after its sign. -/
theorem write_finite {x : Float} {negative : Bool} {significand : Nat} {exponent : Int}
    (h : Binary.Parts.ofFloat x = .finite negative significand exponent) :
    jsonStyle.chars x = signChars negative ++ (magnitude significand exponent).chars := by
  unfold Style.chars magnitude signChars
  rw [h]
  dsimp only
  split
  · cases negative with
    | false => rfl
    | true => rfl
  · rename_i hne
    obtain ⟨d, ds, hds, -, -⟩ := significantChars_cons (shortest_pos (Nat.pos_of_ne_zero hne) exponent)
    rw [layOut_eq (by rw [hds]; simp)]

end ScriptHost.Proofs.Numerals
