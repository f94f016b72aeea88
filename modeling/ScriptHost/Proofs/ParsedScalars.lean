import ScriptHost.Proofs.ReadScalars
import ScriptHost.Script.Library.JsonText

/-!
# Reading scalars from a script

The script's own reader of data takes marks, words, numerals and quoted texts, as data is written,
as one token each.
-/

namespace ScriptHost.Proofs.ParsedScalars

open Script
open Script.Library.JsonText hiding unitEscape
open Json (writeString writePoint unitEscape pointEscape)
open ScriptHost.Proofs.Scanning
open ScriptHost.Proofs.ScannedStrings
open ScriptHost.Proofs.ScannedNumbers
open ScriptHost.Proofs.Numerals
open ScriptHost.Proofs.ReadScalars (endsDigits_point)

variable {t rest : Text} {c : CodePoint} {r r' : JsonReader} {token : JsonToken}

/-! ## Steps of the reader -/

theorem bind_ok {α β : Type} {p : ReadJson α} {f : α → ReadJson β} {a : α}
    (h : p r = .ok (a, r')) : (p >>= f) r = f a r' := by
  change (p r >>= fun x => f x.1 x.2) = _
  rw [h]
  rfl

/-- A text starts with a token, and goes on after it. -/
def Begins (t : Text) (token : JsonToken) (rest : Text) : Prop :=
  ∀ r : JsonReader, r.rest = t → ∃ line text,
    Script.Library.JsonText.next r =
      .ok ((), { rest, line, token, tokenText := text : JsonReader })

/-- A reader stands at a text: it has taken the first token of it. -/
def StandsAt (r : JsonReader) (t : Text) : Prop := ∃ token rest,
  Begins t token rest ∧ r.token = token ∧ r.rest = rest

theorem Begins.unique {token' : JsonToken} {rest' : Text} (h : Begins t token rest)
    (h' : Begins t token' rest') : token = token' ∧ rest = rest' := by
  obtain ⟨l, u, hnext⟩ := h ⟨t, 0, .eof, []⟩ rfl
  obtain ⟨l', u', hnext'⟩ := h' ⟨t, 0, .eof, []⟩ rfl
  rw [hnext] at hnext'
  cases hnext'
  exact ⟨rfl, rfl⟩

theorem StandsAt.taken (h : StandsAt r t) (hbegins : Begins t token rest) :
    r.token = token ∧ r.rest = rest := by
  obtain ⟨token', rest', hbegins', rfl, rfl⟩ := h
  exact hbegins'.unique hbegins

/-- Going on to a text. -/
theorem next_standsAt (hr : r.rest = t) (h : Begins t token rest) :
    ∃ r', Script.Library.JsonText.next r = .ok ((), r') ∧ StandsAt r' t := by
  obtain ⟨line, text, hnext⟩ := h r hr
  exact ⟨_, hnext, token, rest, h, rfl, rfl⟩

/-! ## Marks -/

theorem begins_end : Begins [] .eof [] := by
  rintro ⟨_, line, token, text⟩ rfl
  exact ⟨line, [], rfl⟩

theorem begins_mark {m : Char} (hm : m ∈ [',', ':', '[', ']', '\x7b', '\x7d', ')', ';']) (rest : Text) :
    Begins (CodePoint.ofChar m :: rest) (.symbol (CodePoint.ofChar m)) rest := by
  rintro ⟨_, line, token, text⟩ rfl
  simp only [List.mem_cons, List.not_mem_nil, or_false] at hm
  rcases hm with rfl | rfl | rfl | rfl | rfl | rfl | rfl | rfl
  all_goals
    exact ⟨line, _, rfl⟩

theorem begins_closes (h : Closes rest) : ∃ token after, Begins rest token after := by
  cases rest with
  | nil => exact ⟨_, _, begins_end⟩
  | cons c rest =>
      have hc := h c (by simp)
      simp only [closers, List.map_cons, List.map_nil, List.mem_cons, List.not_mem_nil, or_false] at hc
      rcases hc with rfl | rfl | rfl | rfl | rfl
      all_goals
        exact ⟨_, _, begins_mark (by decide) rest⟩

theorem begins_blank (h : Begins t token rest) : Begins (CodePoint.ofChar ' ' :: t) token rest := by
  rintro ⟨_, line, token', text⟩ rfl
  exact h ⟨t, line, token', text⟩ rfl

theorem StandsAt.blank (h : StandsAt r (CodePoint.ofChar ' ' :: t)) (hbegins : Begins t token rest) :
    StandsAt r t := by
  obtain ⟨htoken, hrest⟩ := h.taken (begins_blank hbegins)
  exact ⟨token, rest, hbegins, htoken, hrest⟩

/-! ## Quoted texts -/

variable {line fuel v : Nat} {acc : Array UInt16}

theorem hexEscape_digits (hv : v < 0x10000) (rest : Text) :
    hexEscape? 4 ((Text.hexDigits 4 v).map CodePoint.ofChar ++ rest) = some (v, rest) := by
  have hlength : ((Text.hexDigits 4 v).map CodePoint.ofChar).length = 4 := by
    rw [List.length_map, length_hexDigits]
  unfold hexEscape?
  rw [List.take_left' hlength, List.drop_left' hlength, if_neg (by omega)]
  simp [Text.hexDigits, hexValue_hexDigit]
  omega

/-- An escape inside quotes. -/
theorem readQuoted_escape {e : Text} {units : List UInt16} (hne : e ≠ [])
    (h : unescape? (e ++ rest) = some (units, rest)) :
    readQuoted line (fuel + 1) (CodePoint.ofChar '\\' :: (e ++ rest)) acc r =
      readQuoted line fuel rest (acc ++ units.toArray) r := by
  have hmore : (e ++ rest).isEmpty = false := by simp [hne]
  rw [readQuoted]
  simp [val_ofChar, hmore, h]

theorem unescape_unit (hv : v < 0x10000) :
    unescape? (CodePoint.ofChar 'u' :: (Text.hexDigits 4 v).map CodePoint.ofChar ++ rest) =
      some ([v.toUInt16], rest) := by
  have hdigits := hexEscape_digits hv rest
  have hencode : Utf16.encodePoint (CodePoint.ofNat v) = [v.toUInt16] := by
    unfold Utf16.encodePoint
    rw [CodePoint.val_ofNat (by omega), if_pos hv]
  obtain ⟨n, ds, hds⟩ : ∃ n ds, Text.hexDigits 4 v = Text.hexDigit n :: ds := ⟨_, _, rfl⟩
  have hbrace : (Text.hexDigit n).toNat ≠ 0x7B := fun hval =>
    hexDigit_ne_brace n (Char.toNat_inj.mp hval)
  rw [hds, List.map_cons, List.cons_append] at hdigits ⊢
  unfold unescape?
  simp [ascii_ofChar, hbrace, hdigits, hencode]

theorem readQuoted_unitEscape (hv : v < 0x10000) :
    readQuoted line (fuel + 1) (unitEscape v ++ rest) acc r =
      readQuoted line fuel rest (acc.push v.toUInt16) r := by
  have hescape : readQuoted line (fuel + 1) (CodePoint.ofChar '\\' ::
      (CodePoint.ofChar 'u' :: (Text.hexDigits 4 v).map CodePoint.ofChar ++ rest)) acc r =
      readQuoted line fuel rest (acc ++ [v.toUInt16].toArray) r :=
    readQuoted_escape (by simp) (unescape_unit hv)
  simpa [unitEscape] using hescape

/-- The escape of a code point by number. -/
theorem readQuoted_pointEscape (c : CodePoint) (hfuel : (pointEscape c).length ≤ fuel) :
    ∃ left, fuel ≤ left + (pointEscape c).length ∧
      readQuoted line fuel (pointEscape c ++ rest) acc r =
        readQuoted line left rest (acc ++ (Utf16.encodePoint c).toArray) r := by
  unfold pointEscape at hfuel ⊢
  unfold Utf16.encodePoint
  by_cases hlow : c.val < 0x10000
  · rw [if_pos hlow, length_unitEscape] at hfuel
    rw [if_pos hlow, if_pos hlow, length_unitEscape]
    obtain ⟨left, rfl⟩ : ∃ n, fuel = n + 1 := ⟨fuel - 1, by omega⟩
    refine ⟨left, by omega, ?_⟩
    rw [readQuoted_unitEscape hlow]
    simp
  · have hlt := c.isLt
    rw [if_neg hlow, List.length_append, length_unitEscape, length_unitEscape] at hfuel
    rw [if_neg hlow, if_neg hlow, List.length_append, length_unitEscape, length_unitEscape]
    obtain ⟨left, rfl⟩ : ∃ n, fuel = n + 1 + 1 := ⟨fuel - 2, by omega⟩
    refine ⟨left, by omega, ?_⟩
    rw [List.append_assoc, readQuoted_unitEscape (by omega), readQuoted_unitEscape (by omega)]
    rfl

/-- A short escape stands for its character. -/
theorem unescape_short {e : Char × Char} (he : e ∈ shortEscapes) :
    unescape? (CodePoint.ofChar e.2 :: rest) =
      some (Utf16.encodePoint (CodePoint.ofChar e.1), rest) := by
  simp only [shortEscapes, List.mem_cons, List.not_mem_nil, or_false] at he
  rcases he with rfl | rfl | rfl | rfl | rfl | rfl | rfl
  all_goals rfl

theorem readQuoted_plain (hlow : 0x20 ≤ c.val) (hquote : c.ascii ≠ '"') (hback : c.ascii ≠ '\\') :
    readQuoted line (fuel + 1) (c :: rest) acc r =
      readQuoted line fuel rest (acc ++ (Utf16.encodePoint c).toArray) r := by
  have hne : ∀ n < 128, c.val = n → c.ascii = Char.ofNat n := by
    rintro n hn rfl
    exact if_pos hn
  have hval : c.val ≠ 0x22 ∧ c.val ≠ 0x5C :=
    ⟨fun h => hquote (hne _ (by decide) h), fun h => hback (hne _ (by decide) h)⟩
  rw [readQuoted]
  dsimp only
  rw [if_neg (by omega), if_neg hval.1, if_neg hval.2, foldl_push]

/-- One written code point is read back. -/
theorem readQuoted_written {w : Text} (hw : Written c w) (hfuel : w.length ≤ fuel) :
    ∃ left, fuel ≤ left + w.length ∧
      readQuoted line fuel (w ++ rest) acc r =
        readQuoted line left rest (acc ++ (Utf16.encodePoint c).toArray) r := by
  cases hw with
  | short he hc =>
      obtain ⟨left, rfl⟩ : ∃ n, fuel = n + 1 := ⟨fuel - 1, by simp at hfuel; omega⟩
      subst hc
      exact ⟨left, by simp, readQuoted_escape (e := [_]) (by simp) (unescape_short he)⟩
  | escaped => exact readQuoted_pointEscape c hfuel
  | plain hlow hhigh hquote hback =>
      obtain ⟨left, rfl⟩ : ∃ n, fuel = n + 1 := ⟨fuel - 1, by simp at hfuel; omega⟩
      exact ⟨left, by simp, readQuoted_plain hlow hquote hback⟩

theorem readQuoted_quote (hfuel : 0 < fuel) :
    readQuoted line fuel (CodePoint.ofChar '"' :: rest) acc r = .ok ((⟨acc⟩, rest), r) := by
  obtain ⟨left, rfl⟩ : ∃ n, fuel = n + 1 := ⟨fuel - 1, by omega⟩
  rfl

/-- A written text is read back up to the quote that ends it. -/
theorem readQuoted_text (t : Text) (hfuel : (t.flatMap (writePoint true)).length < fuel) :
    readQuoted line fuel (t.flatMap (writePoint true) ++ CodePoint.ofChar '"' :: rest) acc r =
      .ok ((⟨acc ++ (Utf16.encode t).toArray⟩, rest), r) := by
  induction t generalizing fuel acc with
  | nil =>
      rw [List.flatMap_nil, List.nil_append, readQuoted_quote (by simpa using hfuel)]
      simp [Utf16.encode]
  | cons c t ih =>
      rw [List.flatMap_cons, List.length_append] at hfuel
      rw [List.flatMap_cons, List.append_assoc]
      have hlength : (writePoint true c).length ≤ fuel := by omega
      obtain ⟨left, hleft, hread⟩ := readQuoted_written (written_writePoint c) hlength
      rw [hread, ih (by omega)]
      simp [Utf16.encode]

theorem next_quote (t text : Text) :
    Script.Library.JsonText.next ⟨CodePoint.ofChar '"' :: t, line, token, text⟩ =
      (readQuoted line (t.length + 1) t #[] >>= fun (s, after) =>
        set (JsonReader.mk after line (.text s)
          ((CodePoint.ofChar '"' :: t).take (t.length + 1 - after.length))))
        ⟨CodePoint.ofChar '"' :: t, line, token, text⟩ := rfl

/-- A text in quotes is one token. -/
theorem begins_string (s rest : Text) :
    Begins (writeString true s ++ rest) (.text (Utf16.ofText s)) rest := by
  rintro ⟨_, line, token, text⟩ rfl
  have hquoted : writeString true s ++ rest = CodePoint.ofChar '"' ::
      (s.flatMap (writePoint true) ++ CodePoint.ofChar '"' :: rest) := by simp [writeString]
  have hlength : (s.flatMap (writePoint true)).length <
      (s.flatMap (writePoint true) ++ CodePoint.ofChar '"' :: rest).length + 1 := by
    simp only [List.length_append]
    omega
  rw [hquoted, next_quote, bind_ok (readQuoted_text s hlength), Array.empty_append, ← ofText_units]
  exact ⟨line, _, rfl⟩

/-! ## Words -/

theorem not_isWordPoint : ∀ c ∈ closers.map CodePoint.ofChar,
    isWordPoint c = false := by decide

/-- A word ends where data closes. -/
theorem takeWhile_word {w : Text} (hw : ∀ c ∈ w, isWordPoint c = true) (hrest : Closes rest) :
    (w ++ rest).takeWhile isWordPoint = w := by
  rw [List.takeWhile_append_of_pos hw]
  cases rest with
  | nil => simp
  | cons c rest => simp [not_isWordPoint c (hrest c (by simp))]

/-- A text that starts with a letter goes on after its first word. -/
theorem next_letter {m : Char} (hm : m ∈ ['n', 't', 'f', 'N', 'I']) (t : Text) (line : Nat)
    (token : JsonToken) (text : Text) :
    Script.Library.JsonText.next ⟨CodePoint.ofChar m :: t, line, token, text⟩ =
      .ok ((), ⟨(CodePoint.ofChar m :: t).drop ((CodePoint.ofChar m :: t).takeWhile isWordPoint).length,
        line, .word ((Text.toString? ((CodePoint.ofChar m :: t).takeWhile isWordPoint)).getD ""),
        (CodePoint.ofChar m :: t).takeWhile isWordPoint⟩) := by
  simp only [List.mem_cons, List.not_mem_nil, or_false] at hm
  rcases hm with rfl | rfl | rfl | rfl | rfl
  all_goals rfl

theorem begins_word {w : String} (hw : w ∈ ["null", "true", "false", "NaN", "Infinity"]) {rest : Text}
    (hrest : Closes rest) : Begins (Text.ofString w ++ rest) (.word w) rest := by
  have hspelled : ∃ m ms, Text.ofString w = CodePoint.ofChar m :: ms ∧ m ∈ ['n', 't', 'f', 'N', 'I'] ∧
      (∀ c ∈ Text.ofString w, isWordPoint c = true) ∧ Text.toString? (Text.ofString w) = some w := by
    simp only [List.mem_cons, List.not_mem_nil, or_false] at hw
    rcases hw with rfl | rfl | rfl | rfl | rfl
    all_goals
      exact ⟨_, _, rfl, by decide, by decide, by decide⟩
  obtain ⟨m, ms, hfirst, hm, hpoints, hback⟩ := hspelled
  have hword := takeWhile_word hpoints hrest
  rintro ⟨_, line, token, text⟩ rfl
  rw [hfirst, List.cons_append] at hword ⊢
  rw [next_letter hm, hword, ← hfirst, hback, ← List.cons_append, ← hfirst, List.drop_left]
  exact ⟨line, _, rfl⟩

/-! ## Numerals -/

variable {ds : List Char} {negative : Bool}

theorem spanDigits_stop (h : EndsDigits t) : Number.spanDigits 10 t = ([], t) := by
  cases t with
  | nil => rfl
  | cons c t =>
      have hdigit := (h c (by simp)).1
      unfold Number.spanDigits
      rw [hdigit]
      dsimp only
      split
      · rename_i d hd
        rw [if_neg]
        simp only [Bool.false_eq_true, if_false] at hd
        split at hd
        · cases hd
          omega
        · split at hd
          · cases hd
            omega
          · cases hd
      · rfl

theorem spanDigits_digits (hds : AllDigits ds) (hrest : EndsDigits rest) :
    Number.spanDigits 10 (ds.map CodePoint.ofChar ++ rest) = (ds.map fun d => d.toNat - 48, rest) := by
  induction ds with
  | nil => exact spanDigits_stop hrest
  | cons d ds ih =>
      have hd := hds d List.mem_cons_self
      have hbound := toNat_digit hd
      rw [List.map_cons, List.cons_append]
      unfold Number.spanDigits
      rw [isDigit_ofChar hd, val_ofChar]
      dsimp only
      rw [if_pos rfl]
      dsimp only
      rw [if_pos (by omega), ih fun e he => hds e (List.mem_cons_of_mem d he)]
      rfl

theorem digitsValue_digits (ds : List Char) :
    Number.digitsValue 10 (ds.map fun d => d.toNat - 48) = Nat.ofDigitChars 10 ds 0 := by
  unfold Number.digitsValue
  rw [List.foldl_map]
  rfl

/-- The exponent of a numeral is read back. -/
theorem spanExponent_numeral {x : Numeral} (hx : x.IsWritten) (hrest : Closes rest) :
    Number.spanExponent ((Numeral.exponentChars x.exponent).map CodePoint.ofChar ++ rest) =
      (Numeral.power x.exponent, rest) := by
  cases he : x.exponent with
  | none =>
      cases rest with
      | nil => rfl
      | cons c rest =>
          have hmark : ∀ c ∈ closers.map CodePoint.ofChar,
              c.val ≠ 0x65 ∧ c.val ≠ 0x45 := by decide
          have hc := hmark c (hrest c (by simp))
          simp [Numeral.exponentChars, Number.spanExponent, hc, Numeral.power]
  | some e =>
      obtain ⟨sign, ds⟩ := e
      obtain ⟨hds, hne, hsign⟩ := hx.exponent sign ds he
      have hspan := spanDigits_digits hds (endsDigits_closes hrest)
      have hvalue := digitsValue_digits ds
      obtain ⟨d, ds, rfl⟩ := List.exists_cons_of_ne_nil hne
      rcases hsign with rfl | rfl
      all_goals
        simp only [List.map_cons, List.cons_append] at hspan hvalue
        simp [Numeral.exponentChars, Number.spanExponent, Number.spanSign, val_ofChar, hspan, hvalue,
          Numeral.power]

/-- The number that a numeral is after a sign. -/
def numeralValue (negative : Bool) (x : Numeral) : Value :=
  .ofFloat (Decimal.toFloat negative (Nat.ofDigitChars 10 (x.whole ++ x.fraction.getD []) 0)
    (Numeral.power x.exponent - (x.fraction.getD []).length))

/-- The digits after a point at the start of a text, and what follows them. -/
def spanFraction (t : Text) : List Nat × Text :=
  match t with
  | c :: rest => if c.val = 0x2E then Number.spanDigits 10 rest else ([], t)
  | [] => ([], [])

theorem spanFraction_numeral {x : Numeral} (hx : x.IsWritten) (hrest : Closes rest) :
    spanFraction ((Numeral.fractionChars x.fraction).map CodePoint.ofChar ++
        ((Numeral.exponentChars x.exponent).map CodePoint.ofChar ++ rest)) =
      ((x.fraction.getD []).map fun d => d.toNat - 48,
        (Numeral.exponentChars x.exponent).map CodePoint.ofChar ++ rest) := by
  have hends := endsDigits_exponent (e := x.exponent) hrest
  cases hf : x.fraction with
  | none =>
      have hpoint := endsDigits_point (e := x.exponent) hrest
      generalize (Numeral.exponentChars x.exponent).map CodePoint.ofChar ++ rest = t at hpoint
      cases t with
      | nil => rfl
      | cons c t =>
          have hc : c.val ≠ 0x2E := by
            intro hval
            refine hpoint c (by simp) ?_
            unfold CodePoint.ascii
            rw [hval]
            rfl
          simp [Numeral.fractionChars, spanFraction, hc]
  | some f => exact spanDigits_digits (hx.fraction f hf) hends

theorem spanDecimal_eq (negative : Bool) (t : Text)
    (h : Text.startsWith t "Infinity" = false) (hdigits : (Number.spanDigits 10 t).1 ≠ []) :
    Number.spanDecimal? negative t =
      let whole := (Number.spanDigits 10 t).1
      let (fraction, afterFraction) := spanFraction (Number.spanDigits 10 t).2
      let (exponent, rest) := Number.spanExponent afterFraction
      some (Value.ofFloat (Decimal.toFloat negative (Number.digitsValue 10 (whole ++ fraction))
        (exponent - fraction.length)), rest) := by
  unfold Number.spanDecimal?
  rw [if_neg (by simp [h])]
  dsimp only
  rw [if_neg (by simp [hdigits])]
  rfl

theorem startsWith_digit {d : Char} (hd : d.isDigit = true) (t : Text) :
    Text.startsWith (CodePoint.ofChar d :: t) "Infinity" = false := by
  have hne : d ≠ 'I' := by
    rintro rfl
    cases hd
  simp [Text.ofString, Text.startsWith, ofChar_inj, hne]

/-- A numeral is read as the number that it is, with the sign that stood before it. -/
theorem spanDecimal_numeral {x : Numeral} (negative : Bool) (hx : x.IsWritten)
    (hrest : Closes rest) :
    Number.spanDecimal? negative (x.chars.map CodePoint.ofChar ++ rest) =
      some (numeralValue negative x, rest) := by
  obtain ⟨d, ds, hwhole⟩ := List.exists_cons_of_ne_nil hx.nonempty
  have hd := hx.whole d (by simp [hwhole])
  have hends := endsDigits_exponent (e := x.exponent) hrest
  have hspan := spanDigits_digits hx.whole (endsDigits_fraction (f := x.fraction) hends)
  have hword : Text.startsWith (x.chars.map CodePoint.ofChar ++ rest) "Infinity" = false := by
    rw [Numeral.chars, hwhole]
    exact startsWith_digit hd _
  have hchars : x.chars.map CodePoint.ofChar ++ rest = x.whole.map CodePoint.ofChar ++
      ((Numeral.fractionChars x.fraction).map CodePoint.ofChar ++
        ((Numeral.exponentChars x.exponent).map CodePoint.ofChar ++ rest)) := by
    simp [Numeral.chars]
  rw [hchars] at hword ⊢
  rw [spanDecimal_eq negative _ hword (by rw [hspan]; simp [hwhole]), hspan]
  dsimp only
  rw [spanFraction_numeral hx hrest]
  dsimp only
  rw [spanExponent_numeral hx hrest, ← List.map_append, digitsValue_digits, List.length_map]
  rfl

/-- What a reader does at a number. -/
def takeNumber (r : JsonReader) : ReadJson Unit :=
  match Number.spanDecimal? (Number.spanSign r.rest).1 (Number.spanSign r.rest).2 with
  | some (v, rest) =>
    set { r with rest, token := .number v, tokenText := r.rest.take (r.rest.length - rest.length) }
  | none => pure ()

theorem next_minus {d : Char} (hd : d.isDigit = true) (t : Text) (line : Nat) (token : JsonToken)
    (text : Text) :
    Script.Library.JsonText.next ⟨CodePoint.ofChar '-' :: CodePoint.ofChar d :: t, line, token, text⟩ =
      takeNumber ⟨CodePoint.ofChar '-' :: CodePoint.ofChar d :: t, line, token, text⟩
        ⟨CodePoint.ofChar '-' :: CodePoint.ofChar d :: t, line, token, text⟩ := by
  have hstart : ((CodePoint.ofChar d :: t).head?).any (·.isDigit) = true := isDigit_ofChar hd
  change (if ((CodePoint.ofChar d :: t).head?).any (·.isDigit) = true then _ else _ : ReadJson Unit) _ = _
  rw [if_pos hstart]
  rfl

theorem next_digit {d : Char} (hd : d.isDigit = true) {t : Text}
    (hzero : d = '0' → (t.head?).any (·.isDigit) = false) (line : Nat) (token : JsonToken)
    (text : Text) :
    Script.Library.JsonText.next ⟨CodePoint.ofChar d :: t, line, token, text⟩ =
      takeNumber ⟨CodePoint.ofChar d :: t, line, token, text⟩
        ⟨CodePoint.ofChar d :: t, line, token, text⟩ := by
  rcases List.mem_cons.mp (mem_digits hd) with rfl | hmore
  · change (if (t.head?).any (·.isDigit) = true then _ else _ : ReadJson Unit) _ = _
    rw [if_neg (by simp [hzero rfl])]
    rfl
  · simp only [List.mem_cons, List.not_mem_nil, or_false] at hmore
    rcases hmore with rfl | rfl | rfl | rfl | rfl | rfl | rfl | rfl | rfl
    all_goals rfl

theorem takeNumber_ok {v : Value} (h : Number.spanDecimal? (Number.spanSign r.rest).1
    (Number.spanSign r.rest).2 = some (v, rest)) :
    ∃ u, takeNumber r r = .ok ((), ⟨rest, r.line, .number v, u⟩) := by
  unfold takeNumber
  rw [h]
  exact ⟨_, rfl⟩

theorem begins_numeral {x : Numeral} (negative : Bool) (hx : x.IsWritten) (hrest : Closes rest) :
    Begins ((signChars negative ++ x.chars).map CodePoint.ofChar ++ rest)
      (.number (numeralValue negative x)) rest := by
  obtain ⟨d, ds, hwhole⟩ := List.exists_cons_of_ne_nil hx.nonempty
  have hd := hx.whole d (by simp [hwhole])
  have hbound := toNat_digit hd
  have hspan := spanDecimal_numeral negative hx hrest
  obtain ⟨t, ht, htail⟩ : ∃ t, x.chars.map CodePoint.ofChar ++ rest = CodePoint.ofChar d :: t ∧
      t = ds.map CodePoint.ofChar ++ ((Numeral.fractionChars x.fraction).map CodePoint.ofChar ++
        ((Numeral.exponentChars x.exponent).map CodePoint.ofChar ++ rest)) :=
    ⟨_, by simp [Numeral.chars, hwhole], rfl⟩
  rintro ⟨_, line, token, text⟩ rfl
  rw [ht] at hspan
  cases negative with
  | true =>
      have htext : (signChars true ++ x.chars).map CodePoint.ofChar ++ rest =
          CodePoint.ofChar '-' :: CodePoint.ofChar d :: t := by rw [← ht]; rfl
      rw [htext, next_minus hd]
      exact ⟨line, takeNumber_ok hspan⟩
  | false =>
      have htext : (signChars false ++ x.chars).map CodePoint.ofChar ++ rest =
          CodePoint.ofChar d :: t := ht
      have hsign : Number.spanSign (CodePoint.ofChar d :: t) = (false, CodePoint.ofChar d :: t) := by
        unfold Number.spanSign
        dsimp only
        rw [val_ofChar, if_neg (by omega), if_neg (by omega)]
      have hzero : d = '0' → (t.head?).any (·.isDigit) = false := by
        rintro rfl
        obtain rfl := hx.zero ds hwhole
        have hends := endsDigits_fraction (f := x.fraction)
          (endsDigits_exponent (e := x.exponent) hrest)
        rw [htail, List.map_nil, List.nil_append, Option.any_eq_false]
        exact fun c hc => by simpa using (hends c hc).1
      rw [htext, next_digit hd hzero]
      refine ⟨line, takeNumber_ok ?_⟩
      rw [hsign]
      exact hspan

end ScriptHost.Proofs.ParsedScalars
