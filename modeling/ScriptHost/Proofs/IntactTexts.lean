import Mathlib.Data.List.Basic
import Mathlib.Data.List.TakeWhile
import ScriptHost.Instance.ScriptEngine
import ScriptHost.Proofs.ScannedStrings

/-!
# Texts that cross the boundary

A text without surrogates is the same text after it has been written in 16-bit units, or in bytes, and
read again.  On its way out of the engine a text ends before its first zero character, so a text comes
out as it was if it has none.
-/

namespace ScriptHost.Proofs.IntactTexts

open ScriptEngine
open ScriptHost.Proofs.ScannedStrings (ofText_units)

variable {c : CodePoint} {t u : Text}

/-! ## Units -/

theorem not_surrogate (hc : c.IsScalar) : ¬(0xD800 ≤ c.val ∧ c.val < 0xE000) := by
  unfold CodePoint.IsScalar CodePoint.isSurrogate at hc
  simpa using hc

theorem decode_unit {a : UInt16} (ha : Utf16.isHigh a = false) (us : List UInt16) :
    Utf16.decode (a :: us) = CodePoint.ofNat a.toNat :: Utf16.decode us := by
  cases us with
  | nil => rfl
  | cons b us => simp [Utf16.decode, ha]

theorem decode_pair {a b : UInt16} (ha : Utf16.isHigh a = true) (hb : Utf16.isLow b = true)
    (us : List UInt16) : Utf16.decode (a :: b :: us) = Utf16.joinPair a b :: Utf16.decode us := by
  simp [Utf16.decode, ha, hb]

/-- The units of a scalar value are read as it, whatever follows. -/
theorem decode_encodePoint (hc : c.IsScalar) (us : List UInt16) :
    Utf16.decode (Utf16.encodePoint c ++ us) = c :: Utf16.decode us := by
  have hrange := not_surrogate hc
  have hmax := c.isLt
  unfold Utf16.encodePoint
  split
  · rename_i hsmall
    have hunit : c.val.toUInt16.toNat = c.val := by simp; omega
    have hhigh : Utf16.isHigh c.val.toUInt16 = false := by
      simp only [Utf16.isHigh, hunit, Bool.and_eq_false_iff, decide_eq_false_iff_not]
      omega
    rw [List.singleton_append, decode_unit hhigh, hunit, CodePoint.ofNat_val]
  · rename_i hlarge
    have hfirst : (0xD800 + (c.val - 0x10000) / 0x400).toUInt16.toNat =
        0xD800 + (c.val - 0x10000) / 0x400 := by simp; omega
    have hsecond : (0xDC00 + (c.val - 0x10000) % 0x400).toUInt16.toNat =
        0xDC00 + (c.val - 0x10000) % 0x400 := by simp; omega
    have hhigh : Utf16.isHigh (0xD800 + (c.val - 0x10000) / 0x400).toUInt16 = true := by
      simp only [Utf16.isHigh, hfirst, Bool.and_eq_true, decide_eq_true_eq]
      omega
    have hlow : Utf16.isLow (0xDC00 + (c.val - 0x10000) % 0x400).toUInt16 = true := by
      simp only [Utf16.isLow, hsecond, Bool.and_eq_true, decide_eq_true_eq]
      omega
    refine (decode_pair hhigh hlow us).trans (congrArg (· :: Utf16.decode us) ?_)
    unfold Utf16.joinPair
    rw [hfirst, hsecond]
    have hval : 0x10000 + (0xD800 + (c.val - 0x10000) / 0x400 - 0xD800) * 0x400 +
        (0xDC00 + (c.val - 0x10000) % 0x400 - 0xDC00) = c.val := by omega
    rw [hval, CodePoint.ofNat_val]

theorem decode_encode (ht : t.IsScalar) : Utf16.decode (Utf16.encode t) = t := by
  induction t with
  | nil => rfl
  | cons c t ih =>
      have hc := ht c List.mem_cons_self
      have hrest := ih fun d hd => ht d (List.mem_cons_of_mem _ hd)
      rw [Utf16.encode, List.flatMap_cons, decode_encodePoint hc]
      exact congrArg (c :: ·) hrest

/-- A text without surrogates is what is read of its script string. -/
theorem toText_of_scalar (ht : t.IsScalar) : (Utf16.ofText t).toText = t := by
  unfold Utf16.toText
  rw [ofText_units, List.toList_toArray]
  exact decode_encode ht

theorem ofText_append (t u : Text) : Utf16.ofText (t ++ u) = Utf16.ofText t ++ Utf16.ofText u := by
  change _ = (⟨(Utf16.ofText t).units ++ (Utf16.ofText u).units⟩ : Utf16)
  have hunits : (Utf16.ofText (t ++ u)).units = (Utf16.ofText t).units ++ (Utf16.ofText u).units := by
    rw [ofText_units, ofText_units, ofText_units, Utf16.encode, List.flatMap_append]
    simp [Utf16.encode]
  rw [← hunits]

theorem isEmpty_ofText (t : Text) : (Utf16.ofText t).isEmpty = t.isEmpty := by
  unfold Utf16.isEmpty
  rw [ofText_units]
  cases t with
  | nil => rfl
  | cons c t =>
      have hunits : Utf16.encodePoint c ≠ [] := by
        unfold Utf16.encodePoint
        split <;> exact List.cons_ne_nil _ _
      simp [Utf16.encode, hunits]

/-! ## Bytes -/

variable {position : Nat} {bs : List UInt8} {a b d e : UInt8}

theorem decodeFrom_one (ha : a.toNat < 0x80) : Utf8.decodeFrom position (a :: bs) =
    (Utf8.decodeFrom (position + 1) bs).map (CodePoint.ofNat a.toNat :: ·) := by
  rw [Utf8.decodeFrom.eq_def]
  simp only [if_pos ha]
  cases Utf8.decodeFrom (position + 1) bs <;> rfl

theorem decodeFrom_two (ha : 0xC2 ≤ a.toNat ∧ a.toNat < 0xE0) (hb : Utf8.isTail b = true) :
    Utf8.decodeFrom position (a :: b :: bs) = (Utf8.decodeFrom (position + 2) bs).map
      (CodePoint.ofNat ((a.toNat - 0xC0) * 0x40 + Utf8.tailBits b) :: ·) := by
  rw [Utf8.decodeFrom.eq_def]
  simp only [if_neg (show ¬a.toNat < 0x80 by omega), if_neg (show ¬a.toNat < 0xC2 by omega),
    if_pos ha.2, if_pos hb]
  cases Utf8.decodeFrom (position + 2) bs <;> rfl

theorem decodeFrom_three (ha : 0xE0 ≤ a.toNat ∧ a.toNat < 0xF0)
    (hb : Utf8.secondOfThree a b = true) (hd : Utf8.isTail d = true) :
    Utf8.decodeFrom position (a :: b :: d :: bs) = (Utf8.decodeFrom (position + 3) bs).map
      (CodePoint.ofNat ((a.toNat - 0xE0) * 0x1000 + Utf8.tailBits b * 0x40 + Utf8.tailBits d) :: ·) := by
  rw [Utf8.decodeFrom.eq_def]
  simp only [if_neg (show ¬a.toNat < 0x80 by omega), if_neg (show ¬a.toNat < 0xC2 by omega),
    if_neg (show ¬a.toNat < 0xE0 by omega), if_pos ha.2, if_pos hb, if_pos hd]
  cases Utf8.decodeFrom (position + 3) bs <;> rfl

theorem decodeFrom_four (ha : 0xF0 ≤ a.toNat ∧ a.toNat < 0xF5)
    (hb : Utf8.secondOfFour a b = true) (hd : Utf8.isTail d = true) (he : Utf8.isTail e = true) :
    Utf8.decodeFrom position (a :: b :: d :: e :: bs) = (Utf8.decodeFrom (position + 4) bs).map
      (CodePoint.ofNat ((a.toNat - 0xF0) * 0x40000 + Utf8.tailBits b * 0x1000 + Utf8.tailBits d * 0x40 +
        Utf8.tailBits e) :: ·) := by
  rw [Utf8.decodeFrom.eq_def]
  simp only [if_neg (show ¬a.toNat < 0x80 by omega), if_neg (show ¬a.toNat < 0xC2 by omega),
    if_neg (show ¬a.toNat < 0xE0 by omega), if_neg (show ¬a.toNat < 0xF0 by omega), if_pos ha.2,
    if_pos hb, if_pos hd, if_pos he]
  cases Utf8.decodeFrom (position + 4) bs <;> rfl

theorem toNat_byte {n : Nat} (hn : n < 0x100) : n.toUInt8.toNat = n := by
  rw [Nat.toUInt8_eq, UInt8.toNat_ofNat']
  exact Nat.mod_eq_of_lt hn

/-- A byte that six bits are continued in. -/
theorem isTail_bits {n : Nat} (hn : n < 0x40) :
    Utf8.isTail (0x80 + n).toUInt8 = true ∧ Utf8.tailBits (0x80 + n).toUInt8 = n := by
  have hbyte := toNat_byte (show 0x80 + n < 0x100 by omega)
  constructor
  · simp only [Utf8.isTail, hbyte, Bool.and_eq_true, decide_eq_true_eq]
    omega
  · unfold Utf8.tailBits
    simp only [hbyte]
    exact Nat.add_sub_cancel_left _ _

/-- The bytes of a scalar value are read as it, whatever follows. -/
theorem decodeFrom_encodePoint (hc : c.IsScalar) (position : Nat) (bs : List UInt8) :
    ∃ later, Utf8.decodeFrom position (Utf8.encodePoint c ++ bs) =
      (Utf8.decodeFrom later bs).map (c :: ·) := by
  have hrange := not_surrogate hc
  have hmax := c.isLt
  unfold Utf8.encodePoint
  dsimp only
  obtain ⟨hlast, hlastBits⟩ := isTail_bits (n := c.val % 0x40) (Nat.mod_lt _ (by decide))
  obtain ⟨hmiddle, hmiddleBits⟩ := isTail_bits (n := c.val / 0x40 % 0x40) (Nat.mod_lt _ (by decide))
  split
  · rename_i hsize
    have hbyte := toNat_byte (show c.val < 0x100 by omega)
    refine ⟨position + 1, (@decodeFrom_one position bs _ (by omega)).trans ?_⟩
    rw [hbyte, CodePoint.ofNat_val]
  split
  · rename_i hsmall hsize
    have hbyte := toNat_byte (show 0xC0 + c.val / 0x40 < 0x100 by omega)
    refine ⟨position + 2, (@decodeFrom_two position bs _ _ (by omega) hlast).trans ?_⟩
    have hval : (0xC0 + c.val / 0x40 - 0xC0) * 0x40 + c.val % 0x40 = c.val := by omega
    rw [hbyte, hlastBits, hval, CodePoint.ofNat_val]
  split
  · rename_i hsmall hsmaller hsize
    have hbyte := toNat_byte (show 0xE0 + c.val / 0x1000 < 0x100 by omega)
    have hsecond : Utf8.secondOfThree (0xE0 + c.val / 0x1000).toUInt8
        (0x80 + c.val / 0x40 % 0x40).toUInt8 = true := by
      have hnext := toNat_byte (show 0x80 + c.val / 0x40 % 0x40 < 0x100 by omega)
      unfold Utf8.secondOfThree
      split
      · rename_i hfirst
        have hfirst := congrArg UInt8.toNat (beq_iff_eq.mp hfirst)
        rw [hbyte, show (0xE0 : UInt8).toNat = 0xE0 from rfl] at hfirst
        simp only [hnext, Bool.and_eq_true, decide_eq_true_eq]
        omega
      split
      · rename_i hfirst
        have hfirst := congrArg UInt8.toNat (beq_iff_eq.mp hfirst)
        rw [hbyte, show (0xED : UInt8).toNat = 0xED from rfl] at hfirst
        simp only [hnext, Bool.and_eq_true, decide_eq_true_eq]
        omega
      · exact hmiddle
    refine ⟨position + 3, (@decodeFrom_three position bs _ _ _ (by omega) hsecond hlast).trans ?_⟩
    have hval : (0xE0 + c.val / 0x1000 - 0xE0) * 0x1000 + c.val / 0x40 % 0x40 * 0x40 + c.val % 0x40 =
        c.val := by omega
    rw [hbyte, hmiddleBits, hlastBits, hval, CodePoint.ofNat_val]
  · rename_i hsmall hsmaller hsize
    obtain ⟨hhigh, hhighBits⟩ := isTail_bits (n := c.val / 0x1000 % 0x40) (Nat.mod_lt _ (by decide))
    have hbyte := toNat_byte (show 0xF0 + c.val / 0x40000 < 0x100 by omega)
    have hsecond : Utf8.secondOfFour (0xF0 + c.val / 0x40000).toUInt8
        (0x80 + c.val / 0x1000 % 0x40).toUInt8 = true := by
      have hnext := toNat_byte (show 0x80 + c.val / 0x1000 % 0x40 < 0x100 by omega)
      unfold Utf8.secondOfFour
      split
      · rename_i hfirst
        have hfirst := congrArg UInt8.toNat (beq_iff_eq.mp hfirst)
        rw [hbyte, show (0xF0 : UInt8).toNat = 0xF0 from rfl] at hfirst
        simp only [hnext, Bool.and_eq_true, decide_eq_true_eq]
        omega
      split
      · rename_i hfirst
        have hfirst := congrArg UInt8.toNat (beq_iff_eq.mp hfirst)
        rw [hbyte, show (0xF4 : UInt8).toNat = 0xF4 from rfl] at hfirst
        simp only [hnext, Bool.and_eq_true, decide_eq_true_eq]
        omega
      · exact hhigh
    refine ⟨position + 4, (@decodeFrom_four position bs _ _ _ _ (by omega) hsecond hmiddle hlast).trans ?_⟩
    have hval : (0xF0 + c.val / 0x40000 - 0xF0) * 0x40000 + c.val / 0x1000 % 0x40 * 0x1000 +
        c.val / 0x40 % 0x40 * 0x40 + c.val % 0x40 = c.val := by omega
    rw [hbyte, hhighBits, hmiddleBits, hlastBits, hval, CodePoint.ofNat_val]

/-- A text without surrogates is what is read of its bytes. -/
theorem decode_encodeAll (ht : t.IsScalar) : Utf8.decode (Utf8.encodeAll t) = .ok t := by
  have hfrom : ∀ position, Utf8.decodeFrom position (Utf8.encodeAll t) = .ok t := by
    induction t with
    | nil => exact fun _ => rfl
    | cons c t ih =>
        intro position
        obtain ⟨later, hrun⟩ :=
          decodeFrom_encodePoint (ht c List.mem_cons_self) position (Utf8.encodeAll t)
        rw [Utf8.encodeAll, List.flatMap_cons]
        exact hrun.trans (by rw [ih (fun d hd => ht d (List.mem_cons_of_mem _ hd)) later]; rfl)
  exact hfrom 0

/-! ## Out of the engine -/

/-- A text without surrogates and without the zero character. -/
structure IsIntact (t : Text) : Prop where
  scalar : t.IsScalar
  nonZero : ∀ c ∈ t, c.val ≠ 0

/-- Plain characters cross the boundary. -/
theorem isIntact_of_plain (h : ∀ c ∈ t, 0 < c.val ∧ c.val < 128) : IsIntact t where
  scalar c hc := by
    have hlt := (h c hc).2
    simp only [CodePoint.IsScalar, CodePoint.isSurrogate, Bool.and_eq_false_iff,
      decide_eq_false_iff_not]
    omega
  nonZero c hc := Nat.ne_of_gt (h c hc).1

namespace IsIntact

theorem append (ht : IsIntact t) (hu : IsIntact u) : IsIntact (t ++ u) where
  scalar c hc := (List.mem_append.mp hc).elim (ht.scalar c) (hu.scalar c)
  nonZero c hc := (List.mem_append.mp hc).elim (ht.nonZero c) (hu.nonZero c)

end IsIntact

theorem upToZero_of_intact (ht : IsIntact t) : upToZero t = t :=
  List.takeWhile_eq_self_iff.mpr fun c hc => bne_iff_ne.mpr (ht.nonZero c hc)

/-- An intact text comes out of the engine as it was. -/
theorem hostText_of_intact (ht : IsIntact t) : hostText (Utf16.ofText t) = .ok t := by
  unfold hostText
  rw [toText_of_scalar ht.scalar, upToZero_of_intact ht, decode_encodeAll ht.scalar]

/-- So does the wording of a fault that is an intact text. -/
theorem lossyText_of_intact (ht : IsIntact t) : lossyText (Utf16.ofText t) = t := by
  unfold lossyText
  rw [toText_of_scalar ht.scalar, upToZero_of_intact ht]
  refine (List.flatMap_congr fun c hc => ?_).trans (List.flatMap_singleton' t)
  rw [show c.isSurrogate = false from ht.scalar c hc]
  rfl

/-- The wording of a fault is an intact text, whatever it is made of. -/
theorem isIntact_lossyText (u : Utf16) : IsIntact (lossyText u) := by
  have hboth : ∀ c ∈ lossyText u, c.IsScalar ∧ c.val ≠ 0 := by
    intro c hc
    obtain ⟨d, hd, hc⟩ := List.mem_flatMap.mp hc
    split at hc
    · simp only [List.mem_cons, List.not_mem_nil, or_false, or_self] at hc
      rw [hc]
      decide
    · rename_i hscalar
      obtain rfl := List.mem_singleton.mp hc
      exact ⟨by simpa [CodePoint.IsScalar] using hscalar,
        bne_iff_ne.mp (List.mem_takeWhile_imp (p := fun c : CodePoint => c.val != 0) hd)⟩
  exact ⟨fun c hc => (hboth c hc).1, fun c hc => (hboth c hc).2⟩

end ScriptHost.Proofs.IntactTexts
