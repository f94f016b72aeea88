import ScriptHost.Proofs.Scanning

/-!
# Scanning strings

A text between quotes, as data is written, is scanned as the string of its units.
-/

namespace ScriptHost.Proofs.ScannedStrings

open Script Json
open ScriptHost.Proofs.Scanning

variable {s : Array CodePoint} {i j n fuel : Nat} {t rest : Text} {c : CodePoint}
  {acc : Array UInt16}

/-! ## Units -/

theorem foldl_push {α : Type} (us : List α) (acc : Array α) :
    us.foldl Array.push acc = acc ++ us.toArray := by
  induction us generalizing acc with
  | nil => simp
  | cons u us ih =>
      rw [List.foldl_cons, ih]
      simp

theorem ofText_units (t : Text) : (Utf16.ofText t).units = (Utf16.encode t).toArray := by
  have hfold : ∀ (t : Text) (acc : Array UInt16),
      t.foldl (fun acc c => (Utf16.encodePoint c).foldl Array.push acc) acc =
        acc ++ (Utf16.encode t).toArray := by
    intro t
    induction t with
    | nil => simp [Utf16.encode]
    | cons c t ih =>
        intro acc
        rw [List.foldl_cons, foldl_push, ih]
        simp [Utf16.encode]
  unfold Utf16.ofText
  rw [hfold]
  simp

/-! ## Hexadecimal digits -/

theorem length_hexDigits (width n : Nat) : (Text.hexDigits width n).length = width := by
  induction width generalizing n with
  | zero => rfl
  | succ width ih =>
      unfold Text.hexDigits
      rw [List.length_append, ih]
      rfl

theorem hexValue_digitChar :
    ∀ n < 16, (CodePoint.ofChar (Nat.digitChar n)).hexValue? = some n := by decide

theorem hexValue_hexDigit (n : Nat) :
    (CodePoint.ofChar (Text.hexDigit n)).hexValue? = some (n % 16) :=
  hexValue_digitChar _ (Nat.mod_lt _ (by omega))

theorem digitChar_lt : ∀ n < 16, (Nat.digitChar n).toNat < 128 := by decide

theorem hexDigit_lt (n : Nat) : (Text.hexDigit n).toNat < 128 :=
  digitChar_lt _ (Nat.mod_lt _ (by omega))

theorem digitChar_ne_brace : ∀ n < 16, Nat.digitChar n ≠ '\x7b' := by decide

theorem hexDigit_ne_brace (n : Nat) : Text.hexDigit n ≠ '\x7b' :=
  digitChar_ne_brace _ (Nat.mod_lt _ (by omega))

/-- Hexadecimal digits are read back. -/
theorem foldl_hexDigits (width n acc : Nat) :
    ((Text.hexDigits width n).map CodePoint.ofChar).foldl
      (fun acc c => do return 16 * (← acc) + (← c.hexValue?)) (some acc) =
        some (acc * 16 ^ width + n % 16 ^ width) := by
  induction width generalizing n with
  | zero => simp [Text.hexDigits, Nat.mod_one]
  | succ width ih =>
      unfold Text.hexDigits
      rw [List.map_append, List.foldl_append, ih]
      have hsplit : n % 16 ^ (width + 1) = 16 * (n / 16 % 16 ^ width) + n % 16 := by
        rw [Nat.pow_succ, Nat.mul_comm, Nat.mod_mul]
        omega
      have hpower : acc * 16 ^ (width + 1) = 16 * (acc * 16 ^ width) := by
        rw [Nat.pow_succ, ← Nat.mul_assoc, Nat.mul_comm]
      simp [hexValue_hexDigit, hsplit, hpower]
      omega

theorem hexBetween_hexDigits {v : Nat} (h : Stands s i ((Text.hexDigits 4 v).map CodePoint.ofChar ++ rest))
    (hv : v < 0x10000) : hexBetween? s i 4 = some v := by
  have hlength : ((Text.hexDigits 4 v).map CodePoint.ofChar).length = 4 := by
    rw [List.length_map, length_hexDigits]
  have hinside : i + 4 ≤ s.size := by
    have hsize := h.size
    rw [List.length_append, hlength] at hsize
    omega
  have hbetween : between s i (i + 4) = (Text.hexDigits 4 v).map CodePoint.ofChar := by
    unfold between
    rw [Array.toList_extract, List.extract_eq_take_drop, h.drop, Nat.add_sub_cancel_left,
      List.take_append_of_le_length (by omega), List.take_of_length_le (by omega)]
  unfold hexBetween?
  rw [hbetween, if_pos hinside, foldl_hexDigits]
  simp [Nat.mod_eq_of_lt hv]

/-! ## Inside quotes -/

/-- An escape. -/
theorem readStringBody_escape {e : Text} (h : Stands s i (CodePoint.ofChar '\\' :: (e ++ rest)))
    (hne : e ≠ []) (hread : readEscape s (i + 1) = .units [c] (i + 1 + e.length) 0) :
    readStringBody s false '"' (fuel + 1) ⟨i, 1⟩ acc =
      readStringBody s false '"' fuel ⟨i + 1 + e.length, 1⟩
        (acc ++ (Utf16.encodePoint c).toArray) := by
  obtain ⟨d, e, rfl⟩ := List.exists_cons_of_ne_nil hne
  have hpoint := h.pointAt
  have hchar := h.charAt
  have hlt := h.lt
  have hnext : i + 1 < s.size := Stands.lt h.tail
  rw [readStringBody]
  simp [hpoint, hchar, hread, ascii_ofChar, Nat.not_le.mpr hlt, Nat.not_le.mpr hnext, ofText_units,
    Utf16.encode]

/-- The escape of a unit. -/
theorem readStringBody_unitEscape {v : Nat} (h : Stands s i (unitEscape v ++ rest))
    (hv : v < 0x10000) :
    readStringBody s false '"' (fuel + 1) ⟨i, 1⟩ acc =
      readStringBody s false '"' fuel ⟨i + 6, 1⟩ (acc.push v.toUInt16) := by
  have hbody : Stands s i (CodePoint.ofChar '\\' :: ((CodePoint.ofChar 'u' ::
      (Text.hexDigits 4 v).map CodePoint.ofChar) ++ rest)) := h
  have hchar : charAt s (i + 1) = 'u' := hbody.tail.charAt.trans (ascii_ofChar (by decide))
  have hstands : Stands s (i + 1 + 1) ((Text.hexDigits 4 v).map CodePoint.ofChar ++ rest) :=
    hbody.tail.tail
  have hdigits := hexBetween_hexDigits hstands hv
  have hbrace : charAt s (i + 2) ≠ '\x7b' := by
    have hfirst : charAt s (i + 2) = Text.hexDigit (v / 16 / 16 / 16) :=
      hbody.tail.tail.charAt.trans (ascii_ofChar (hexDigit_lt _))
    rw [hfirst]
    exact hexDigit_ne_brace _
  have hread : readEscape s (i + 1) = .units [CodePoint.ofNat v] (i + 1 + 5) 0 := by
    unfold readEscape unicodeEscape?
    simp [hchar, hbrace, hdigits]
  rw [readStringBody_escape hbody (by simp) (by simpa [length_hexDigits] using hread)]
  have hencode : Utf16.encodePoint (CodePoint.ofNat v) = [v.toUInt16] := by
    unfold Utf16.encodePoint
    rw [CodePoint.val_ofNat (by omega), if_pos hv]
  simp [hencode, length_hexDigits]

theorem toNat_ofNat : ∀ n < 128, (Char.ofNat n).toNat = n := by decide

theorem eq_ofChar (h : c.val < 128) : c = CodePoint.ofChar c.ascii := by
  have hback := toNat_ofNat c.val h
  have hascii : c.ascii = Char.ofNat c.val := if_pos h
  rw [hascii]
  exact (CodePoint.mk.injEq ..).mpr hback.symm

theorem eq_of_ascii {a : Char} (h : c.ascii = a) (ha : a.toNat < 128) : c = CodePoint.ofChar a := by
  rcases Nat.lt_or_ge c.val 128 with hlow | hhigh
  · rw [← h]
    exact eq_ofChar hlow
  · rw [show c.ascii = '\uffff' from if_neg (Nat.not_lt.mpr hhigh)] at h
    subst h
    exact absurd ha (by decide)

/-- A character that stands for itself. -/
theorem readStringBody_plain (h : Stands s i (c :: rest)) (hlow : 0x20 ≤ c.val)
    (hhigh : c.val ≤ 0x7E) (hquote : c.ascii ≠ '"') (hback : c.ascii ≠ '\\') :
    readStringBody s false '"' (fuel + 1) ⟨i, 1⟩ acc =
      readStringBody s false '"' fuel ⟨i + 1, 1⟩ (acc ++ (Utf16.encodePoint c).toArray) := by
  have hescape : c.val ≠ 0x5C := by
    intro hval
    refine hback ?_
    unfold CodePoint.ascii
    rw [hval]
    rfl
  rw [readStringBody]
  simp only [h.pointAt, h.charAt, Nat.not_le.mpr h.lt, CodePoint.ofNat_val]
  rw [if_neg (by simp; omega), if_neg (by simpa using hquote), if_neg (by simpa using hescape)]

theorem length_unitEscape (v : Nat) : (unitEscape v).length = 6 := by
  unfold unitEscape
  rw [List.length_map, List.length_cons, List.length_cons, length_hexDigits]

/-- The escape of a code point by number. -/
theorem readStringBody_pointEscape (h : Stands s i (pointEscape c ++ rest))
    (hfuel : (pointEscape c).length ≤ fuel) :
    ∃ left, fuel ≤ left + (pointEscape c).length ∧
      readStringBody s false '"' fuel ⟨i, 1⟩ acc =
        readStringBody s false '"' left ⟨i + (pointEscape c).length, 1⟩
          (acc ++ (Utf16.encodePoint c).toArray) := by
  unfold pointEscape at h hfuel ⊢
  unfold Utf16.encodePoint
  split at h
  · rename_i hlow
    rw [if_pos hlow, length_unitEscape] at hfuel ⊢
    obtain ⟨left, rfl⟩ : ∃ n, fuel = n + 1 := ⟨fuel - 1, by omega⟩
    refine ⟨left, by omega, ?_⟩
    rw [readStringBody_unitEscape h hlow, if_pos hlow]
    simp
  · rename_i hhigh
    have hlt := c.isLt
    rw [if_neg hhigh, List.length_append, length_unitEscape, length_unitEscape] at hfuel ⊢
    obtain ⟨left, rfl⟩ : ∃ n, fuel = n + 1 + 1 := ⟨fuel - 2, by omega⟩
    rw [List.append_assoc] at h
    have hsecond := h.skip
    rw [length_unitEscape] at hsecond
    refine ⟨left, by omega, ?_⟩
    rw [readStringBody_unitEscape h (by omega), readStringBody_unitEscape hsecond (by omega),
      if_neg hhigh]
    rfl

/-- The characters that are escaped by one character, with that character. -/
def shortEscapes : List (Char × Char) :=
  [('"', '"'), ('\\', '\\'), ('\n', 'n'), ('\r', 'r'), ('\t', 't'), ('\x08', 'b'), ('\x0c', 'f')]

/-- How a code point is written. -/
inductive Written (c : CodePoint) : Text → Prop
  | short {e : Char × Char} (he : e ∈ shortEscapes) (hc : c = CodePoint.ofChar e.1) :
    Written c [CodePoint.ofChar '\\', CodePoint.ofChar e.2]
  | escaped : Written c (pointEscape c)
  | plain (hlow : 0x20 ≤ c.val) (hhigh : c.val ≤ 0x7E) (hquote : c.ascii ≠ '"')
    (hback : c.ascii ≠ '\\') : Written c [c]

theorem written_writePoint (c : CodePoint) : Written c (writePoint true c) := by
  unfold writePoint
  split
  case h_8 hquote hback _ _ _ _ _ =>
    split
    · exact .escaped
    · split
      · exact .escaped
      · exact .plain (by omega) (by simp_all) hquote hback
  all_goals
    rename_i hc
    exact .short (e := (_, _)) (by decide) (eq_of_ascii hc (by decide))

/-- A short escape is read back. -/
theorem readEscape_short {e : Char × Char} (he : e ∈ shortEscapes)
    (h : Stands s i (CodePoint.ofChar e.2 :: rest)) :
    readEscape s i = .units [CodePoint.ofChar e.1] (i + 1) 0 := by
  have hchar := h.charAt
  have hpoint := h.pointAt
  simp only [shortEscapes, List.mem_cons, List.not_mem_nil, or_false] at he
  unfold readEscape
  rcases he with rfl | rfl | rfl | rfl | rfl | rfl | rfl
  all_goals
    rw [ascii_ofChar (by decide)] at hchar
    simp [hchar, hpoint, isLineEnd]
    rfl

/-- One written code point is read back. -/
theorem readStringBody_written {w : Text} (hw : Written c w) (h : Stands s i (w ++ rest))
    (hfuel : w.length ≤ fuel) :
    ∃ left, fuel ≤ left + w.length ∧
      readStringBody s false '"' fuel ⟨i, 1⟩ acc =
        readStringBody s false '"' left ⟨i + w.length, 1⟩
          (acc ++ (Utf16.encodePoint c).toArray) := by
  cases hw with
  | short he hc =>
      obtain ⟨left, rfl⟩ : ∃ n, fuel = n + 1 := ⟨fuel - 1, by simp at hfuel; omega⟩
      subst hc
      exact ⟨left, by simp, readStringBody_escape h (by simp) (readEscape_short he h.tail)⟩
  | escaped => exact readStringBody_pointEscape h hfuel
  | plain hlow hhigh hquote hback =>
      obtain ⟨left, rfl⟩ : ∃ n, fuel = n + 1 := ⟨fuel - 1, by simp at hfuel; omega⟩
      exact ⟨left, by simp, readStringBody_plain h hlow hhigh hquote hback⟩

theorem readStringBody_quote (h : Stands s i (CodePoint.ofChar '"' :: rest)) (hfuel : 0 < fuel) :
    readStringBody s false '"' fuel ⟨i, 1⟩ acc = .ok (⟨acc⟩, ⟨i + 1, 1⟩) := by
  obtain ⟨left, rfl⟩ : ∃ n, fuel = n + 1 := ⟨fuel - 1, by omega⟩
  rw [readStringBody]
  simp [h.pointAt, h.charAt, ascii_ofChar, Nat.not_le.mpr h.lt]

/-- A written text is read back up to the quote that ends it. -/
theorem readStringBody_text
    (h : Stands s i (t.flatMap (writePoint true) ++ CodePoint.ofChar '"' :: rest))
    (hfuel : (t.flatMap (writePoint true)).length < fuel) :
    readStringBody s false '"' fuel ⟨i, 1⟩ acc =
      .ok (⟨acc ++ (Utf16.encode t).toArray⟩,
        ⟨i + (t.flatMap (writePoint true)).length + 1, 1⟩) := by
  induction t generalizing i fuel acc with
  | nil =>
      rw [readStringBody_quote h hfuel]
      simp [Utf16.encode]
  | cons c t ih =>
      rw [List.flatMap_cons, List.append_assoc] at h
      rw [List.flatMap_cons, List.length_append] at hfuel ⊢
      have hlength : (writePoint true c).length ≤ fuel := by omega
      obtain ⟨left, hleft, hread⟩ := readStringBody_written (written_writePoint c) h hlength
      rw [hread, ih h.skip (by omega)]
      simp [Utf16.encode, Nat.add_assoc]

/-- A text in quotes is one token. -/
theorem scans_string (h : Leads s i j (writeString true t ++ rest)) :
    Scans s i (.string (Utf16.ofText t)) (j + (writeString true t).length) := by
  refine ⟨j, ?_⟩
  have hstands : Stands s j (CodePoint.ofChar '"' ::
      (t.flatMap (writePoint true) ++ CodePoint.ofChar '"' :: rest)) := by
    simpa [writeString] using h.stands
  have hquote : StartsToken (CodePoint.ofChar '"') := by
    unfold StartsToken
    decide
  have hskip := Leads.skipTrivia (c := CodePoint.ofChar '"') h hquote
  have hfuel : (t.flatMap (writePoint true)).length < s.size - i + 1 := by
    have hsize := hstands.size
    have hle := h.le
    rw [List.length_cons, List.length_append] at hsize
    omega
  have hread : readStringBody s false '"' (s.size - i + 1) ⟨j + 1, 1⟩ #[] =
      .ok (Utf16.ofText t, ⟨j + (writeString true t).length, 1⟩) := by
    rw [readStringBody_text hstands.tail hfuel]
    simp [writeString, ← ofText_units]
    omega
  have hhead := hstands.head
  unfold scan
  simp only [hskip, bind, Except.bind, hhead]
  simp [ascii_ofChar, hread, tokenAt]
  rfl

end ScriptHost.Proofs.ScannedStrings
