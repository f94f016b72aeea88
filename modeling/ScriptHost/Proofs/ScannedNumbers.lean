import ScriptHost.Proofs.Scanning

/-!
# Scanning numbers

A numeral, as data is written, is scanned as one number: digits, perhaps a fraction, and perhaps an
exponent with a sign.
-/

namespace ScriptHost.Proofs.ScannedNumbers

open Script
open ScriptHost.Proofs.Scanning

variable {s : Array CodePoint} {i j n fuel acc : Nat} {t rest : Text} {c : CodePoint}
  {ds : List Char}

/-! ## Digits -/

/-- The decimal digits of a list. -/
def AllDigits (ds : List Char) : Prop := ∀ d ∈ ds, d.isDigit = true

/-- A text that goes on with no digit and no underscore. -/
def EndsDigits (t : Text) : Prop := ∀ c ∈ t.head?, c.isDigit = false ∧ c.ascii ≠ '_'

theorem toNat_digit {d : Char} (h : d.isDigit = true) : 48 ≤ d.toNat ∧ d.toNat ≤ 57 := by
  simp only [Char.isDigit, Bool.and_eq_true, decide_eq_true_eq] at h
  exact ⟨h.1, h.2⟩

theorem mem_digits {d : Char} (hd : d.isDigit = true) :
    d ∈ ['0', '1', '2', '3', '4', '5', '6', '7', '8', '9'] := by
  have hbound := toNat_digit hd
  have hdigits : ∀ n < 10, Char.ofNat (48 + n) ∈ ['0', '1', '2', '3', '4', '5', '6', '7', '8', '9'] := by decide
  have hmem := hdigits (d.toNat - 48) (by omega)
  rwa [show 48 + (d.toNat - 48) = d.toNat by omega, Char.ofNat_toNat] at hmem

theorem isDigit_ofChar {d : Char} (h : d.isDigit = true) : (CodePoint.ofChar d).isDigit = true := by
  have hd := toNat_digit h
  unfold CodePoint.isDigit
  rw [val_ofChar]
  simp [hd]

theorem hexValue_digit {d : Char} (h : d.isDigit = true) :
    (CodePoint.ofChar d).hexValue? = some (d.toNat - 48) := by
  have hd := toNat_digit h
  unfold CodePoint.hexValue?
  rw [val_ofChar]
  simp [hd]

theorem readDigits_stop (h : Stands s i t) (ht : EndsDigits t) :
    readDigits s 10 fuel i acc = (acc, i) := by
  cases fuel with
  | zero => rfl
  | succ fuel =>
      unfold readDigits
      cases t with
      | nil =>
          have hend : s[i]? = none := h.getElem? 0
          simp [hend, charAt]
      | cons c t =>
          obtain ⟨hdigit, hunderscore⟩ := ht c (by simp)
          rw [h.head, h.charAt]
          simp only [CodePoint.isDigit, Bool.and_eq_false_iff, decide_eq_false_iff_not] at hdigit
          have hvalue : ∀ d, c.hexValue? = some d → ¬d < 10 := by
            intro d hd
            unfold CodePoint.hexValue? at hd
            split at hd
            · rename_i hboth
              simp only [Bool.and_eq_true, decide_eq_true_eq] at hboth
              omega
            · split at hd
              · cases hd
                omega
              · split at hd
                · cases hd
                  omega
                · cases hd
          dsimp only [Option.bind]
          split
          · rename_i d hd
            rw [if_neg (hvalue d hd)]
          · simp [hunderscore]

/-- A run of digits is read as the number that it is. -/
theorem readDigits_digits (h : Stands s i (ds.map CodePoint.ofChar ++ rest)) (hds : AllDigits ds)
    (hrest : EndsDigits rest) (hfuel : ds.length ≤ fuel) :
    readDigits s 10 fuel i acc = (Nat.ofDigitChars 10 ds acc, i + ds.length) := by
  induction ds generalizing i fuel acc with
  | nil => exact readDigits_stop h hrest
  | cons d ds ih =>
      obtain ⟨fuel, rfl⟩ : ∃ n, fuel = n + 1 := ⟨fuel - 1, by simp at hfuel; omega⟩
      have hd := hds d (by simp)
      have hvalue := hexValue_digit hd
      have hbound := toNat_digit hd
      have htail : Stands s (i + 1) (ds.map CodePoint.ofChar ++ rest) := Stands.tail h
      unfold readDigits
      rw [Stands.head h]
      simp only [Option.bind, hvalue]
      rw [if_pos (by omega), ih htail (fun e he => hds e (by simp [he])) (by simpa using hfuel),
        Nat.ofDigitChars_cons]
      simp
      omega

/-! ## Numerals -/

/-- A number as it is written, without its sign. -/
structure Numeral where
  whole : List Char
  fraction : Option (List Char)
  /-- The sign and the digits of the exponent. -/
  exponent : Option (Char × List Char)

namespace Numeral

/-- The characters of a fraction. -/
def fractionChars : Option (List Char) → List Char
  | none => []
  | some ds => '.' :: ds

/-- The characters of an exponent. -/
def exponentChars : Option (Char × List Char) → List Char
  | none => []
  | some (sign, ds) => 'e' :: sign :: ds

/-- The characters of a numeral. -/
def chars (x : Numeral) : List Char :=
  x.whole ++ (fractionChars x.fraction ++ exponentChars x.exponent)

/-- The power of ten that an exponent stands for. -/
def power : Option (Char × List Char) → Int
  | none => 0
  | some (sign, ds) =>
    let e : Int := Nat.ofDigitChars 10 ds 0
    if sign = '-' then -e else e

/-- The number that a numeral is. -/
def value (x : Numeral) : Value :=
  match x.fraction, x.exponent with
  | none, none => .ofInt (Nat.ofDigitChars 10 x.whole 0)
  | _, _ =>
    let fraction := x.fraction.getD []
    .ofFloat (Decimal.toFloat false (Nat.ofDigitChars 10 (x.whole ++ fraction) 0)
      (power x.exponent - fraction.length))

/-- Digits, with a zero in front only if it stands there alone. -/
structure IsWritten (x : Numeral) : Prop where
  whole : AllDigits x.whole
  nonempty : x.whole ≠ []
  zero : ∀ ds, x.whole = '0' :: ds → ds = []
  fraction : ∀ ds, x.fraction = some ds → AllDigits ds
  exponent : ∀ sign ds, x.exponent = some (sign, ds) →
    AllDigits ds ∧ ds ≠ [] ∧ (sign = '+' ∨ sign = '-')

end Numeral

/-! ## Reading numerals -/

theorem endsDigits_ofChar {d : Char} (h : d ∈ ['.', 'e']) :
    EndsDigits (CodePoint.ofChar d :: t) := by
  intro c hc
  simp only [List.head?_cons, Option.mem_def, Option.some.injEq] at hc
  subst hc
  have hmarks : ∀ d ∈ ['.', 'e'], (CodePoint.ofChar d).isDigit = false ∧ (CodePoint.ofChar d).ascii ≠ '_' :=
    forall_of_all (by decide)
  exact hmarks d h

theorem closing_chars : ∀ c ∈ closers.map CodePoint.ofChar,
    (c.isDigit = false ∧ c.ascii ≠ '_') ∧ c.ascii ∈ closers := by decide

theorem endsDigits_closes (h : Closes t) : EndsDigits t :=
  fun c hc => (closing_chars c (h c hc)).1

/-- The characters that may follow a piece of data; the first is the end of the text. -/
def closing : List Char := '\uffff' :: closers

/-- The character after a piece of data. -/
theorem charAt_closes (h : Stands s i t) (ht : Closes t) : charAt s i ∈ closing := by
  cases t with
  | nil =>
      have hend : s[i]? = none := h.getElem? 0
      simp [charAt, hend, closing]
  | cons c t =>
      rw [h.charAt]
      exact List.mem_cons_of_mem _ (closing_chars c (ht c (by simp))).2

theorem charAt_closes_ne (h : Stands s i t) (ht : Closes t) {d : Char} (hd : d ∉ closing) :
    charAt s i ≠ d := fun heq => hd (heq ▸ charAt_closes h ht)

theorem countDigits_digits (h : Stands s i (ds.map CodePoint.ofChar ++ rest)) (hds : AllDigits ds) :
    countDigits s i (i + ds.length) = ds.length := by
  have hbetween : (s.extract i (i + ds.length)).toList = ds.map CodePoint.ofChar := by
    rw [Array.toList_extract, List.extract_eq_take_drop, h.drop, Nat.add_sub_cancel_left,
      List.take_append_of_le_length (by simp), List.take_of_length_le (by simp)]
  have hplain : ∀ c ∈ ds.map CodePoint.ofChar, (c.val != 0x5F) = true := by
    intro c hc
    obtain ⟨d, hd, rfl⟩ := List.mem_map.mp hc
    have hbound := toNat_digit (hds d hd)
    simp
    omega
  unfold countDigits
  rw [← Array.length_toList, Array.toList_filter, hbetween, List.filter_eq_self.mpr hplain,
    List.length_map]

/-- An exponent stands from a place on. -/
structure StandsExponent (s : Array CodePoint) (fuel i : Nat) (sign : Char) (ds : List Char) :
    Prop where
  mark : charAt s i = 'e'
  sign : charAt s (i + 1) = sign
  first : (s[i + 2]?).any (·.isDigit) = true
  digits : readDigits s 10 fuel (i + 2) 0 = (Nat.ofDigitChars 10 ds 0, i + 2 + ds.length)

theorem standsExponent {sign : Char}
    (h : Stands s i ((Numeral.exponentChars (some (sign, ds))).map CodePoint.ofChar ++ rest))
    (hds : AllDigits ds) (hne : ds ≠ []) (hsign : sign = '+' ∨ sign = '-') (hrest : Closes rest)
    (hfuel : ds.length ≤ fuel) : StandsExponent s fuel i sign ds := by
  have hmark : Stands s i (CodePoint.ofChar 'e' :: CodePoint.ofChar sign ::
      (ds.map CodePoint.ofChar ++ rest)) := h
  refine ⟨hmark.charAt.trans (ascii_ofChar (by decide)),
    hmark.tail.charAt.trans (ascii_ofChar ?_), ?_,
    readDigits_digits hmark.tail.tail hds (endsDigits_closes hrest) hfuel⟩
  · rcases hsign with rfl | rfl
    · decide
    · decide
  · obtain ⟨d, ds, rfl⟩ := List.exists_cons_of_ne_nil hne
    rw [Stands.head hmark.tail.tail]
    exact isDigit_ofChar (hds d (by simp))

/-- What may follow the whole part, or the fraction, of a numeral. -/
theorem endsDigits_exponent {e : Option (Char × List Char)} (hrest : Closes rest) :
    EndsDigits ((Numeral.exponentChars e).map CodePoint.ofChar ++ rest) := by
  cases e with
  | none => exact endsDigits_closes hrest
  | some e => exact endsDigits_ofChar (by simp)

theorem endsDigits_fraction {f : Option (List Char)} {t : Text} (ht : EndsDigits t) :
    EndsDigits ((Numeral.fractionChars f).map CodePoint.ofChar ++ t) := by
  cases f with
  | none => exact ht
  | some f => exact endsDigits_ofChar (by simp)

/-- A numeral is read as the number that it is. -/
theorem readDecimal_numeral {x : Numeral} (hx : x.IsWritten)
    (h : Stands s i (x.chars.map CodePoint.ofChar ++ rest)) (hrest : Closes rest) :
    readDecimal s i = (x.value, i + x.chars.length) := by
  obtain ⟨whole, fraction, exponent⟩ := x
  obtain ⟨hwhole, -, -, hfraction, hexponent⟩ := hx
  have hsize := h.size
  simp only [Numeral.chars, List.map_append, List.append_assoc, List.length_append,
    List.length_map] at h hwhole hsize
  obtain ⟨fuel, hfuel⟩ : ∃ fuel, s.size - i + 1 = fuel := ⟨_, rfl⟩
  have hp := h.skip
  rw [List.length_map] at hp
  have hdigits : readDigits s 10 fuel i 0 = (Nat.ofDigitChars 10 whole 0, i + whole.length) :=
    readDigits_digits h hwhole (endsDigits_fraction (endsDigits_exponent hrest)) (show _ ≤ fuel by omega)
  unfold readDecimal
  simp only [hfuel]
  cases fraction with
  | none =>
      cases exponent with
      | none =>
          have hchar {d : Char} := charAt_closes_ne (d := d) hp hrest
          simp [hdigits, hchar, closing, closers, Numeral.value, Numeral.chars, Numeral.fractionChars,
            Numeral.exponentChars]
      | some e =>
          obtain ⟨sign, ds⟩ := e
          obtain ⟨hds, hne, hsign⟩ := hexponent sign ds rfl
          simp only [Numeral.exponentChars, List.length_cons] at hsize
          obtain ⟨hmark, hsignAt, hfirst, hread⟩ :=
            standsExponent hp hds hne hsign hrest (show _ ≤ fuel by omega)
          rcases hsign with rfl | rfl
          all_goals
            simp [hdigits, hmark, hsignAt, hfirst, hread, Numeral.value, Numeral.chars,
              Numeral.fractionChars, Numeral.exponentChars, Numeral.power]
            omega
  | some f =>
      have hpoint : charAt s (i + whole.length) = '.' :=
        (Stands.charAt hp).trans (ascii_ofChar (by decide))
      have hf := hfraction f rfl
      simp only [Numeral.fractionChars, List.length_cons] at hsize
      have hstart : Stands s (i + whole.length + 1) (f.map CodePoint.ofChar ++
          ((Numeral.exponentChars exponent).map CodePoint.ofChar ++ rest)) := Stands.tail hp
      have hfractionRead : readDigits s 10 fuel (i + whole.length + 1) (Nat.ofDigitChars 10 whole 0) =
          (Nat.ofDigitChars 10 f (Nat.ofDigitChars 10 whole 0), i + whole.length + 1 + f.length) :=
        readDigits_digits hstart hf (endsDigits_exponent hrest) (show _ ≤ fuel by omega)
      have hcount := countDigits_digits hstart hf
      have hq := hstart.skip
      rw [List.length_map] at hq
      cases exponent with
      | none =>
          have hchar {d : Char} := charAt_closes_ne (d := d) hq hrest
          simp [hdigits, hpoint, hfractionRead, hcount, hchar, closing, closers, Numeral.value, Numeral.chars,
            Numeral.fractionChars, Numeral.exponentChars, Numeral.power, Nat.ofDigitChars_append]
          omega
      | some e =>
          obtain ⟨sign, ds⟩ := e
          obtain ⟨hds, hne, hsign⟩ := hexponent sign ds rfl
          simp only [Numeral.exponentChars, List.length_cons] at hsize
          obtain ⟨hmark, hsignAt, hfirst, hread⟩ :=
            standsExponent hq hds hne hsign hrest (show _ ≤ fuel by omega)
          rcases hsign with rfl | rfl
          all_goals
            simp [hdigits, hpoint, hfractionRead, hcount, hmark, hsignAt, hfirst, hread,
              Numeral.value, Numeral.chars, Numeral.fractionChars, Numeral.exponentChars,
              Numeral.power, Nat.ofDigitChars_append]
            omega

/-- The character after the whole part of a numeral. -/
theorem charAt_afterWhole {f : Option (List Char)} {e : Option (Char × List Char)}
    (h : Stands s i ((Numeral.fractionChars f ++ Numeral.exponentChars e).map CodePoint.ofChar ++ rest))
    (hrest : Closes rest) : charAt s i ∈ '.' :: 'e' :: closing := by
  cases f with
  | none =>
      cases e with
      | none =>
          have hchar := charAt_closes h hrest
          simp [hchar]
      | some e =>
          have hchar := (Stands.charAt h).trans (ascii_ofChar (by decide))
          simp [hchar]
  | some f =>
      have hchar := (Stands.charAt h).trans (ascii_ofChar (by decide))
      simp [hchar]

theorem readNumber_numeral {x : Numeral} (hx : x.IsWritten)
    (h : Stands s i (x.chars.map CodePoint.ofChar ++ rest)) (hrest : Closes rest) :
    readNumber s i = (x.value, i + x.chars.length) := by
  have hread := readDecimal_numeral hx h hrest
  unfold readNumber
  dsimp only
  split
  · rename_i hzero
    have hnext : charAt s (i + 1) ∈ '.' :: 'e' :: closing := by
      obtain ⟨d, ds, hwhole⟩ := List.exists_cons_of_ne_nil hx.nonempty
      have hfirst : Stands s i (CodePoint.ofChar d :: (ds.map CodePoint.ofChar ++
          ((Numeral.fractionChars x.fraction ++ Numeral.exponentChars x.exponent).map
            CodePoint.ofChar ++ rest))) := by
        simpa [Numeral.chars, hwhole] using h
      have hd := hx.whole d (by simp [hwhole])
      have hbound := toNat_digit hd
      rw [hfirst.charAt, ascii_ofChar (by omega), beq_iff_eq] at hzero
      subst hzero
      obtain rfl := hx.zero ds hwhole
      exact charAt_afterWhole hfirst.tail hrest
    simp only [closing, closers, List.mem_cons, List.not_mem_nil, or_false] at hnext
    rcases hnext with hnext | hnext | hnext | hnext | hnext | hnext | hnext | hnext
    all_goals
      simp [hnext, hread]
  · exact hread

theorem continuesName_closing : ∀ c ∈ closers.map CodePoint.ofChar,
    continuesName c = false := by decide

/-- A numeral is one token. -/
theorem scans_number {x : Numeral} (hx : x.IsWritten)
    (h : Leads s i j (x.chars.map CodePoint.ofChar ++ rest)) (hrest : Closes rest) :
    Scans s i (.number x.value) (j + x.chars.length) := by
  refine ⟨j, ?_⟩
  have hread := readNumber_numeral hx h.stands hrest
  obtain ⟨d, ds, hwhole⟩ := List.exists_cons_of_ne_nil hx.nonempty
  have hd := hx.whole d (by simp [hwhole])
  have hbound := toNat_digit hd
  obtain ⟨t, ht⟩ : ∃ t, x.chars.map CodePoint.ofChar ++ rest = CodePoint.ofChar d :: t :=
    ⟨_, by rw [Numeral.chars, hwhole]; rfl⟩
  have hhead : s[j]? = some (CodePoint.ofChar d) := (ht ▸ h.stands).head
  have hstart : StartsToken (CodePoint.ofChar d) := by
    unfold StartsToken isLineEnd isScriptBlank
    rw [val_ofChar]
    simp
    omega
  have hskip := Leads.skipTrivia (ht ▸ h) hstart
  have hstop : (s[j + x.chars.length]?).any continuesName = false := by
    have hafter := h.stands.skip
    rw [List.length_map] at hafter
    cases rest with
    | nil =>
        have hend : s[j + x.chars.length]? = none := hafter.getElem? 0
        rw [hend]
        rfl
    | cons c rest =>
        rw [hafter.head]
        exact continuesName_closing c (hrest c (by simp))
  have hother : ∀ e : Char, e.isDigit = false → d ≠ e := by
    rintro e he rfl
    simp [hd] at he
  unfold scan
  simp only [hskip, bind, Except.bind, hhead]
  simp [ascii_ofChar (c := d) (by omega), hother '"' (by decide), hother '\'' (by decide),
    hother '\x60' (by decide), isDigit_ofChar hd, hread, hstop, tokenAt]

end ScriptHost.Proofs.ScannedNumbers
