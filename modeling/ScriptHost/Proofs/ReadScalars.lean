import ScriptHost.Json.Reader
import ScriptHost.Proofs.DataTokens

/-!
# Reading scalars back

A text between quotes, as data is written, is read as the text that it was, but that surrogates
which stand next to each other as a pair are read as the one code point they make.  A numeral is
read as the number that it is.
-/

namespace ScriptHost.Proofs.ReadScalars

open Json
open ScriptHost.Proofs.Scanning
open ScriptHost.Proofs.ScannedStrings
open ScriptHost.Proofs.ScannedNumbers
open ScriptHost.Proofs.Numerals
open ScriptHost.Proofs.DataTokens

variable {opening position fuel n m : Nat} {t acc rest : Text} {c d : CodePoint}

/-! ## Pairs of surrogates -/

/-- The code point that two surrogates make. -/
def joinedPair (c d : CodePoint) : CodePoint :=
  CodePoint.ofNat (0x10000 + (c.val - 0xD800) * 0x400 + (d.val - 0xDC00))

/-- A text with its pairs of surrogates joined. -/
def paired : Text → Text
  | [] => []
  | [c] => [c]
  | c :: d :: rest =>
    if c.isHighSurrogate && d.isLowSurrogate then joinedPair c d :: paired rest
    else c :: paired (d :: rest)

theorem paired_pair (t : Text) (h : (c.isHighSurrogate && d.isLowSurrogate) = true) :
    paired (c :: d :: t) = joinedPair c d :: paired t := by
  rw [paired, if_pos h]

theorem paired_apart (t : Text) (h : ¬(c.isHighSurrogate && d.isLowSurrogate) = true) :
    paired (c :: d :: t) = c :: paired (d :: t) := by
  rw [paired, if_neg h]

/-- A text without surrogates has no pairs to join. -/
theorem paired_scalar (h : t.IsScalar) : paired t = t := by
  induction t with
  | nil => rfl
  | cons c t ih =>
      have hrest := ih fun d hd => h d (List.mem_cons_of_mem c hd)
      cases t with
      | nil => rfl
      | cons d t =>
          have hc : c.isSurrogate = false := h c List.mem_cons_self
          have hhigh : c.isHighSurrogate = false := by
            simp only [CodePoint.isSurrogate, CodePoint.isHighSurrogate, Bool.and_eq_false_iff,
              decide_eq_false_iff_not] at hc ⊢
            omega
          rw [paired_apart t (by simp [hhigh]), hrest]

/-! ## Escapes -/

/-- The four digits of a unit are read as the unit. -/
theorem unitEscape_digits (hn : n < 0x10000) :
    ∃ h₁ h₂ h₃ h₄, unitEscape n =
      [CodePoint.ofChar '\\', CodePoint.ofChar 'u', h₁, h₂, h₃, h₄] ∧
      hexFour? h₁ h₂ h₃ h₄ = some n := by
  refine ⟨_, _, _, _, rfl, ?_⟩
  simp only [hexFour?, hexValue_hexDigit, Option.pure_def, Option.bind_eq_bind, Option.bind_some,
    Option.some.injEq]
  omega

/-- What is read after the escape of a unit that opens no pair. -/
theorem readChars_unit (hn : n < 0x10000) (hne : rest ≠ [])
    (halone : 0xD800 ≤ n → n < 0xDC00 → lowHalf? rest = .ok none) :
    readChars opening (fuel + 1) position acc (unitEscape n ++ rest) =
      readChars opening fuel (position + 6) (CodePoint.ofNat n :: acc) rest := by
  obtain ⟨h₁, h₂, h₃, h₄, hescape, hdigits⟩ := unitEscape_digits hn
  obtain ⟨next, tail, rfl⟩ := List.exists_cons_of_ne_nil hne
  rw [hescape]
  simp only [List.cons_append, List.nil_append, readChars, hdigits]
  by_cases hhigh : 0xD800 ≤ n ∧ n < 0xDC00
  · simp [ascii_ofChar, hhigh.1, hhigh.2, halone hhigh.1 hhigh.2]
  · have hcondition : (decide (0xD800 ≤ n) && decide (n < 0xDC00)) = false := by simpa using hhigh
    simp [ascii_ofChar, hcondition]

/-- What is read after the escapes of two units that make a pair. -/
theorem readChars_pair (hn : 0xD800 ≤ n ∧ n < 0xDC00) (hm : 0xDC00 ≤ m ∧ m < 0xE000)
    (hne : rest ≠ []) :
    readChars opening (fuel + 1) position acc (unitEscape n ++ (unitEscape m ++ rest)) =
      readChars opening fuel (position + 12)
        (CodePoint.ofNat (0x10000 + (n - 0xD800) * 0x400 + (m - 0xDC00)) :: acc) rest := by
  obtain ⟨h₁, h₂, h₃, h₄, hescape, hdigits⟩ := unitEscape_digits (show n < 0x10000 by omega)
  obtain ⟨l₁, l₂, l₃, l₄, hescape', hdigits'⟩ := unitEscape_digits (show m < 0x10000 by omega)
  obtain ⟨next, tail, rfl⟩ := List.exists_cons_of_ne_nil hne
  rw [hescape, hescape']
  simp only [List.cons_append, List.nil_append, readChars, hdigits, lowHalf?, hdigits']
  simp [ascii_ofChar, hn.1, hn.2, hm.1, hm.2]

/-! ## Inside quotes -/

/-- A written code point that opens no pair is read back. -/
theorem readChars_written {w : Text} (hw : Written c w) (hne : rest ≠ [])
    (hhigh : c.isHighSurrogate = false) :
    ∃ next, readChars opening (fuel + 1) position acc (w ++ rest) =
      readChars opening fuel next (c :: acc) rest := by
  have hunit : ¬(0xD800 ≤ c.val ∧ c.val < 0xDC00) := by
    simpa [CodePoint.isHighSurrogate] using hhigh
  cases hw with
  | short he hc =>
      subst hc
      refine ⟨position + 2, ?_⟩
      simp only [shortEscapes, List.mem_cons, List.not_mem_nil, or_false] at he
      rcases he with rfl | rfl | rfl | rfl | rfl | rfl | rfl
      all_goals
        simp [readChars, ascii_ofChar, shortEscape?]
  | escaped =>
      unfold pointEscape
      split
      · rename_i hlow
        refine ⟨position + 6, ?_⟩
        rw [readChars_unit hlow hne fun hfrom hto => absurd ⟨hfrom, hto⟩ hunit, CodePoint.ofNat_val]
      · rename_i hlarge
        have hlt := c.isLt
        rw [List.append_assoc]
        refine ⟨position + 12, ?_⟩
        have hpoint : 0x10000 + (0xD800 + (c.val - 0x10000) / 0x400 - 0xD800) * 0x400 +
            (0xDC00 + (c.val - 0x10000) % 0x400 - 0xDC00) = c.val := by omega
        rw [readChars_pair (by omega) (by omega) hne, hpoint, CodePoint.ofNat_val]
  | plain hlow hhigh hquote hback =>
      refine ⟨position + 1, ?_⟩
      simp only [List.cons_append, List.nil_append, readChars]
      rw [if_neg (by simpa using hquote), if_neg (by simpa using hback), if_neg (by omega)]

theorem lowHalf_unescaped {s : CodePoint} {t : Text} (h : s.ascii ≠ '\\') :
    lowHalf? (s :: t) = .ok none := by
  unfold lowHalf?
  split
  · rename_i heq
    cases heq
    rw [if_neg (by simp [h])]
  · rfl

theorem lowHalf_short {s u : CodePoint} {t : Text} (h : u.ascii ≠ 'u') :
    lowHalf? (s :: u :: t) = .ok none := by
  unfold lowHalf?
  split
  · rename_i heq
    cases heq
    rw [if_neg (by simp [h])]
  · rfl

/-- A unit that closes no pair is not read as the second half of one. -/
theorem lowHalf_unit (hn : n < 0x10000) (hlow : ¬(0xDC00 ≤ n ∧ n < 0xE000)) :
    lowHalf? (unitEscape n ++ rest) = .ok none := by
  obtain ⟨h₁, h₂, h₃, h₄, hescape, hdigits⟩ := unitEscape_digits hn
  rw [hescape]
  cases rest with
  | nil => rfl
  | cons e rest =>
      have hcondition : (decide (0xDC00 ≤ n) && decide (n < 0xE000)) = false := by simpa using hlow
      simp [lowHalf?, ascii_ofChar, hdigits, hcondition]

/-- A written code point that closes no pair is not read as the second half of one. -/
theorem lowHalf_written {w : Text} (hw : Written d w) (hlow : d.isLowSurrogate = false) :
    lowHalf? (w ++ rest) = .ok none := by
  have hunit : ¬(0xDC00 ≤ d.val ∧ d.val < 0xE000) := by
    simpa [CodePoint.isLowSurrogate] using hlow
  cases hw with
  | short he hd =>
      refine lowHalf_short ?_
      revert he
      unfold shortEscapes
      simp only [List.mem_cons, List.not_mem_nil, or_false]
      rintro (rfl | rfl | rfl | rfl | rfl | rfl | rfl)
      all_goals
        simp [ascii_ofChar]
  | escaped =>
      unfold pointEscape
      split
      · rename_i hsmall
        exact lowHalf_unit hsmall hunit
      · have hlt := d.isLt
        rw [List.append_assoc]
        exact lowHalf_unit (by omega) (by omega)
  | plain _ _ _ hback => exact lowHalf_unescaped hback

theorem writePoint_surrogate (h : 0xD800 ≤ c.val ∧ c.val < 0xE000) :
    writePoint true c = unitEscape c.val := by
  have hw := written_writePoint c
  generalize writePoint true c = w at hw
  cases hw with
  | short he hc =>
      subst hc
      have hascii : ∀ e ∈ shortEscapes, e.1.toNat < 128 := by decide
      have hlow := hascii _ he
      rw [val_ofChar] at h
      omega
  | escaped =>
      unfold pointEscape
      rw [if_pos (by omega)]
  | plain _ hhigh _ _ => omega

theorem readChars_quote :
    readChars opening (fuel + 1) position acc (CodePoint.ofChar '"' :: rest) =
      .ok (acc.reverse, ⟨position + 1, rest⟩) := by
  simp [readChars, ascii_ofChar]

/-- What follows a code point inside quotes is not read as the second half of a pair that the two
do not make. -/
theorem lowHalf_text (t : Text) (h : ∀ d ∈ t.head?, d.isLowSurrogate = false) :
    lowHalf? (t.flatMap (writePoint true) ++ CodePoint.ofChar '"' :: rest) = .ok none := by
  cases t with
  | nil => exact lowHalf_unescaped (by decide)
  | cons d t =>
      rw [List.flatMap_cons, List.append_assoc]
      exact lowHalf_written (written_writePoint d) (h d (by simp))

variable (opening fuel position acc rest) in
/-- A code point that makes no pair with the one after it is read back. -/
theorem readChars_point (c : CodePoint) (t : Text)
    (h : c.isHighSurrogate = true → ∀ d ∈ t.head?, d.isLowSurrogate = false) :
    ∃ next, readChars opening (fuel + 1) position acc
        ((c :: t).flatMap (writePoint true) ++ CodePoint.ofChar '"' :: rest) =
      readChars opening fuel next (c :: acc)
        (t.flatMap (writePoint true) ++ CodePoint.ofChar '"' :: rest) := by
  rw [List.flatMap_cons, List.append_assoc]
  have hne : t.flatMap (writePoint true) ++ CodePoint.ofChar '"' :: rest ≠ [] := by simp
  cases hhigh : c.isHighSurrogate with
  | false => exact readChars_written (written_writePoint c) hne hhigh
  | true =>
      have hrange : 0xD800 ≤ c.val ∧ c.val < 0xDC00 := by
        simpa [CodePoint.isHighSurrogate] using hhigh
      refine ⟨position + 6, ?_⟩
      rw [writePoint_surrogate (by omega),
        readChars_unit (by omega) hne fun _ _ => lowHalf_text t (h hhigh), CodePoint.ofNat_val]

/-- A written text is read back up to the quote that ends it. -/
theorem readChars_text (t : Text) (hfuel : t.length < fuel) :
    ∃ next, readChars opening fuel position acc
        (t.flatMap (writePoint true) ++ CodePoint.ofChar '"' :: rest) =
      .ok (acc.reverse ++ paired t, ⟨next, rest⟩) := by
  induction t using paired.induct generalizing fuel position acc with
  | case1 =>
      obtain ⟨fuel, rfl⟩ : ∃ n, fuel = n + 1 := ⟨fuel - 1, by omega⟩
      exact ⟨_, by simpa [paired] using readChars_quote⟩
  | case2 c =>
      obtain ⟨fuel, rfl⟩ : ∃ n, fuel = n + 2 := ⟨fuel - 2, by simp at hfuel; omega⟩
      obtain ⟨next, hread⟩ := readChars_point opening position (fuel + 1) acc rest c [] (by simp)
      refine ⟨next + 1, hread.trans ?_⟩
      rw [List.flatMap_nil, List.nil_append, readChars_quote, List.reverse_cons]
      rfl
  | case3 c d t hpair ih =>
      obtain ⟨fuel, rfl⟩ : ∃ n, fuel = n + 1 := ⟨fuel - 1, by omega⟩
      obtain ⟨hhigh, hlow⟩ := Bool.and_eq_true_iff.mp hpair
      have hc : 0xD800 ≤ c.val ∧ c.val < 0xDC00 := by
        simpa [CodePoint.isHighSurrogate] using hhigh
      have hd : 0xDC00 ≤ d.val ∧ d.val < 0xE000 := by simpa [CodePoint.isLowSurrogate] using hlow
      obtain ⟨next, hread⟩ := @ih (position + 12) fuel (joinedPair c d :: acc)
        (by simp at hfuel; omega)
      refine ⟨next, ?_⟩
      rw [List.flatMap_cons, List.flatMap_cons, writePoint_surrogate (by omega),
        writePoint_surrogate (by omega), List.append_assoc, List.append_assoc,
        readChars_pair hc hd (by simp), ← joinedPair, hread,
        paired_pair t hpair, List.reverse_cons, List.append_assoc, List.singleton_append]
  | case4 c d t hpair ih =>
      obtain ⟨fuel, rfl⟩ : ∃ n, fuel = n + 1 := ⟨fuel - 1, by omega⟩
      have hapart : c.isHighSurrogate = true → ∀ e ∈ (d :: t).head?, e.isLowSurrogate = false := by
        intro hhigh e he
        cases he
        simpa [hhigh] using hpair
      obtain ⟨start, hpoint⟩ := readChars_point opening position fuel acc rest c (d :: t) hapart
      obtain ⟨next, hread⟩ := @ih start fuel (c :: acc) (by simp at hfuel ⊢; omega)
      refine ⟨next, ?_⟩
      rw [hpoint, hread, paired_apart t hpair, List.reverse_cons, List.append_assoc, List.singleton_append]

theorem writePoint_pos (c : CodePoint) : 0 < (writePoint true c).length := by
  have hw := written_writePoint c
  generalize writePoint true c = w at hw
  cases hw with
  | short he hc => simp
  | escaped =>
      unfold pointEscape
      split
      · simp [unitEscape]
      · simp [unitEscape]
  | plain => simp

theorem length_le_written (t : Text) : t.length ≤ (t.flatMap (writePoint true)).length := by
  induction t with
  | nil => exact Nat.le_refl 0
  | cons c t ih =>
      have hpos := writePoint_pos c
      rw [List.flatMap_cons, List.length_append, List.length_cons]
      omega

/-- A text in quotes is read back, once its first quote has been read. -/
theorem readString_written (position : Nat) (t rest : Text) :
    ∃ next, readString ⟨position, t.flatMap (writePoint true) ++ CodePoint.ofChar '"' :: rest⟩ =
      .ok (paired t, ⟨next, rest⟩) := by
  have hlength := length_le_written t
  exact readChars_text t (by simp only [List.length_append]; omega)

/-! ## Numbers -/

variable {ds : List Char}

theorem digitsValue_map (ds : List Char) :
    digitsValue (ds.map CodePoint.ofChar) = Nat.ofDigitChars 10 ds 0 := by
  unfold digitsValue
  rw [List.foldl_map]
  rfl

theorem takeWhile_digits (hds : AllDigits ds) (hrest : EndsDigits rest) :
    (ds.map CodePoint.ofChar ++ rest).takeWhile CodePoint.isDigit = ds.map CodePoint.ofChar := by
  have hall : ∀ c ∈ ds.map CodePoint.ofChar, c.isDigit = true := by
    intro c hc
    obtain ⟨d, hd, rfl⟩ := List.mem_map.mp hc
    exact isDigit_ofChar (hds d hd)
  rw [List.takeWhile_append_of_pos hall]
  cases rest with
  | nil => simp
  | cons c rest => simp [(hrest c (by simp)).1]

theorem dropWhile_digits (hds : AllDigits ds) (hrest : EndsDigits rest) :
    (ds.map CodePoint.ofChar ++ rest).dropWhile CodePoint.isDigit = rest := by
  have hall : ∀ c ∈ ds.map CodePoint.ofChar, c.isDigit = true := by
    intro c hc
    obtain ⟨d, hd, rfl⟩ := List.mem_map.mp hc
    exact isDigit_ofChar (hds d hd)
  rw [List.dropWhile_append_of_pos hall]
  cases rest with
  | nil => rfl
  | cons c rest => simp [(hrest c (by simp)).1]

/-- A numeral after its sign, as it is read. -/
def numberToken (negative : Bool) (x : Numeral) : NumberToken :=
  { negative, whole := x.whole.map CodePoint.ofChar
    fraction := (x.fraction.getD []).map CodePoint.ofChar
    exponent := Numeral.power x.exponent
    isFloat := x.fraction.isSome || x.exponent.isSome }

theorem scanWhole_digits {x : Numeral} (hx : x.IsWritten) (hrest : EndsDigits rest) :
    scanWhole? (x.whole.map CodePoint.ofChar ++ rest) =
      some (x.whole.map CodePoint.ofChar, rest) := by
  obtain ⟨d, ds, hwhole⟩ := List.exists_cons_of_ne_nil hx.nonempty
  have hdigits := hx.whole
  rw [hwhole] at hdigits ⊢
  have hd := hdigits d List.mem_cons_self
  have hbound := toNat_digit hd
  rw [List.map_cons, List.cons_append]
  unfold scanWhole?
  dsimp only
  rw [ascii_ofChar (by omega)]
  by_cases hzero : d = '0'
  · subst hzero
    obtain rfl := hx.zero ds hwhole
    rfl
  · have hmore : AllDigits ds := fun e he => hdigits e (List.mem_cons_of_mem d he)
    rw [if_neg (by simpa using hzero), if_pos (isDigit_ofChar hd), takeWhile_digits hmore hrest,
      dropWhile_digits hmore hrest]

theorem scanExponent_none (h : ∀ c ∈ rest.head?, c.ascii ≠ 'e' ∧ c.ascii ≠ 'E') :
    scanExponent? rest = none := by
  cases rest with
  | nil => rfl
  | cons c rest =>
      have hc := h c (by simp)
      simp [scanExponent?, hc]

theorem closes_ascii (h : Closes rest) : ∀ c ∈ rest.head?, c.ascii ∈ closers :=
  fun c hc => (closing_chars c (h c hc)).2

theorem scanExponent_written {sign : Char} (hds : AllDigits ds) (hne : ds ≠ [])
    (hsign : sign = '+' ∨ sign = '-') (hrest : Closes rest) :
    scanExponent? ((Numeral.exponentChars (some (sign, ds))).map CodePoint.ofChar ++ rest) =
      some (Numeral.power (some (sign, ds)), rest) := by
  have hends := endsDigits_closes hrest
  have hsome : (ds.map CodePoint.ofChar).isEmpty = false := by simpa using hne
  unfold scanExponent? Numeral.exponentChars Numeral.power
  rcases hsign with rfl | rfl
  · simp [ascii_ofChar, takeWhile_digits hds hends, dropWhile_digits hds hends, hne, digitsValue_map]
  · simp [ascii_ofChar, takeWhile_digits hds hends, dropWhile_digits hds hends, hne, digitsValue_map]

/-- The exponent of a numeral is read back, if it has one. -/
theorem scanExponent_numeral {x : Numeral} (hx : x.IsWritten) (hrest : Closes rest) :
    scanExponent? ((Numeral.exponentChars x.exponent).map CodePoint.ofChar ++ rest) =
      x.exponent.map fun e => (Numeral.power (some e), rest) := by
  cases he : x.exponent with
  | none =>
      refine scanExponent_none fun c hc => ?_
      have hascii := closes_ascii hrest c (by simpa [Numeral.exponentChars] using hc)
      refine ⟨fun heq => ?_, fun heq => ?_⟩
      · rw [heq] at hascii
        exact absurd hascii (by decide)
      · rw [heq] at hascii
        exact absurd hascii (by decide)
  | some e =>
      obtain ⟨hds, hne, hsign⟩ := hx.exponent e.1 e.2 he
      exact scanExponent_written hds hne hsign hrest

/-- The fraction of a numeral is read back, if it has one. -/
theorem scanFraction_numeral {x : Numeral} (hx : x.IsWritten)
    (hfraction : ∀ ds, x.fraction = some ds → ds ≠ []) (hends : EndsDigits rest)
    (hpoint : ∀ c ∈ rest.head?, c.ascii ≠ '.') :
    scanFraction? ((Numeral.fractionChars x.fraction).map CodePoint.ofChar ++ rest) =
      x.fraction.map fun ds => (ds.map CodePoint.ofChar, rest) := by
  cases hf : x.fraction with
  | none =>
      cases rest with
      | nil => rfl
      | cons c rest =>
          have hc := hpoint c (by simp)
          simp [Numeral.fractionChars, scanFraction?, hc]
  | some ds =>
      have hds := hx.fraction ds hf
      simp [Numeral.fractionChars, scanFraction?, ascii_ofChar, takeWhile_digits hds hends,
        dropWhile_digits hds hends, hfraction ds hf]

theorem endsDigits_point {e : Option (Char × List Char)} (hrest : Closes rest) :
    ∀ c ∈ ((Numeral.exponentChars e).map CodePoint.ofChar ++ rest).head?, c.ascii ≠ '.' := by
  intro c hc
  cases e with
  | none =>
      have hascii := closes_ascii hrest c (by simpa [Numeral.exponentChars] using hc)
      intro heq
      rw [heq] at hascii
      exact absurd hascii (by decide)
  | some e =>
      cases hc
      decide

/-- The longest number without a sign at the head of a text. -/
def scanUnsigned? (negative : Bool) (t : Text) : Option (NumberToken × Text) := do
  let (whole, t) ← scanWhole? t
  let (fraction, hasFraction, t) :=
    match scanFraction? t with
    | some (digits, rest) => (digits, true, rest)
    | none => ([], false, t)
  let (exponent, hasExponent, t) :=
    match scanExponent? t with
    | some (n, rest) => (n, true, rest)
    | none => (0, false, t)
  return ({ negative, whole, fraction, exponent, isFloat := hasFraction || hasExponent }, t)

theorem scanNumber_signed (t : Text) :
    scanNumber? (CodePoint.ofChar '-' :: t) = scanUnsigned? true t := rfl

theorem scanNumber_unsigned {c : CodePoint} (t : Text) (h : c.ascii ≠ '-') :
    scanNumber? (c :: t) = scanUnsigned? false (c :: t) := by
  unfold scanNumber? scanUnsigned?
  dsimp only
  rewrite [if_neg (by simp [h])]
  rfl

theorem scanUnsigned_numeral {x : Numeral} (negative : Bool) (hx : x.IsWritten)
    (hfraction : ∀ ds, x.fraction = some ds → ds ≠ []) (hrest : Closes rest) :
    scanUnsigned? negative (x.chars.map CodePoint.ofChar ++ rest) =
      some (numberToken negative x, rest) := by
  have hends := endsDigits_exponent (e := x.exponent) hrest
  have hwhole := scanWhole_digits hx (endsDigits_fraction (f := x.fraction) hends)
  have hfract := scanFraction_numeral hx hfraction hends (endsDigits_point hrest)
  have hexponent := scanExponent_numeral hx hrest
  unfold scanUnsigned? numberToken
  rw [Numeral.chars, List.map_append, List.map_append, List.append_assoc, List.append_assoc, hwhole]
  simp only [Option.bind_eq_bind, Option.bind_some, hfract]
  cases x.fraction with
  | none =>
      simp only [Option.map_none, Numeral.fractionChars, List.map_nil, List.nil_append, hexponent]
      cases x.exponent with
      | none => rfl
      | some e => rfl
  | some ds =>
      simp only [Option.map_some, hexponent]
      cases x.exponent with
      | none => rfl
      | some e => rfl

/-- A numeral whose fraction has digits is read back after its sign. -/
theorem scanNumber_written {x : Numeral} (negative : Bool) (hx : x.IsWritten)
    (hfraction : ∀ ds, x.fraction = some ds → ds ≠ []) (hrest : Closes rest) :
    scanNumber? ((signChars negative ++ x.chars).map CodePoint.ofChar ++ rest) =
      some (numberToken negative x, rest) := by
  rw [← scanUnsigned_numeral negative hx hfraction hrest]
  cases negative with
  | true => exact scanNumber_signed _
  | false =>
      obtain ⟨d, ds, hd⟩ := List.exists_cons_of_ne_nil hx.nonempty
      have hbound := toNat_digit (hx.whole d (by simp [hd]))
      have hsign : (CodePoint.ofChar d).ascii ≠ '-' := by
        rw [ascii_ofChar (by omega)]
        rintro rfl
        exact absurd hbound (by decide)
      rw [signChars, if_neg Bool.false_ne_true, List.nil_append, Numeral.chars, hd]
      exact scanNumber_unsigned _ hsign

theorem laidOut_fraction {lead : Int} (hne : ds ≠ []) :
    ∀ es, (laidOut ds lead).fraction = some es → es ≠ [] := by
  unfold laidOut
  intro es hes
  have hpos := List.length_pos_iff.mpr hne
  split at hes
  · split at hes
    · cases hes
      simp [hne]
    · split at hes
      · cases hes
        simp
      · cases hes
        rw [ne_eq, List.drop_eq_nil_iff]
        omega
  · split at hes
    · cases hes
    · cases hes
      rw [ne_eq, List.drop_eq_nil_iff]
      omega

theorem magnitude_fraction (significand : Nat) (exponent : Int) :
    ∀ es, (magnitude significand exponent).fraction = some es → es ≠ [] := by
  unfold magnitude
  split
  · rintro es ⟨⟩
    simp
  · rename_i hne
    obtain ⟨d, ds, hds, -, -⟩ :=
      significantChars_cons (shortest_pos (Nat.pos_of_ne_zero hne) exponent)
    dsimp only
    rw [hds]
    exact laidOut_fraction (by simp)

theorem laidOut_isFloat (ds : List Char) (lead : Int) :
    ((laidOut ds lead).fraction.isSome || (laidOut ds lead).exponent.isSome) = true := by
  unfold laidOut
  split
  · split
    · rfl
    · split
      · rfl
      · rfl
  · simp

theorem magnitude_isFloat (significand : Nat) (exponent : Int) :
    ((magnitude significand exponent).fraction.isSome ||
      (magnitude significand exponent).exponent.isSome) = true := by
  unfold magnitude
  split
  · rfl
  · exact laidOut_isFloat _ _

/-- The float that is read for a finite one. -/
def readBack (negative : Bool) (significand : Nat) (exponent : Int) : Float :=
  (numberToken negative (magnitude significand exponent)).toFloat

theorem value_magnitude (negative : Bool) (significand : Nat) (exponent : Int) :
    (numberToken negative (magnitude significand exponent)).value =
      .ok (.float (readBack negative significand exponent)) := by
  unfold NumberToken.value
  exact if_pos (magnitude_isFloat significand exponent)

/-- An integer that is not too long to be written is not too long to be read. -/
theorem value_int {i : Int} (h : writeInt i = .ok t) :
    (numberToken (i < 0) (natural i.natAbs)).value = .ok (.int i) := by
  have hshort : (Nat.toDigits 10 i.natAbs).length ≤ maxIntegerDigits := by
    rcases Nat.lt_or_ge maxIntegerDigits (Nat.toDigits 10 i.natAbs).length with hlong | hshort
    · unfold writeInt decimalOf? at h
      simp [hlong] at h
    · exact hshort
  unfold NumberToken.value numberToken natural
  rw [if_neg (by simp), if_neg (by rw [List.length_map]; exact Nat.not_lt.mpr hshort),
    digitsValue_map, Nat.ofDigitChars_ten_toDigits]
  have hsigned : (if i < 0 then -(i.natAbs : Int) else i.natAbs) = i := by
    split
    · omega
    · omega
  simp only [decide_eq_true_eq, hsigned]

end ScriptHost.Proofs.ReadScalars
