import Mathlib.Data.List.Nodup
import ScriptHost.Proofs.DataTexts
import ScriptHost.Proofs.ReadScalars

/-!
# Reading back what was written

The text that is written for a value of data is read as the value that `received` gives: members of
enumerations as what they equal, pairs of surrogates as one code point, and of several entries with
one key the last.  Plain data without these is read as itself.
-/

namespace ScriptHost.Proofs.RoundTrip

open Json
open ScriptHost.Proofs.Scanning
open ScriptHost.Proofs.ScannedNumbers
open ScriptHost.Proofs.Numerals
open ScriptHost.Proofs.DataTokens
open ScriptHost.Proofs.DataTexts
open ScriptHost.Proofs.ReadScalars

variable {t u rest gap : Text} {ts : List Text} {v : HostValue} {vs : List HostValue} {c : CodePoint}

/-! ## What is received -/

/-- The float that is read for a float. -/
def receivedFloat (x : Float) : Float :=
  match Binary.Parts.ofFloat x with
  | .nan => Binary.nan
  | .infinite negative => Binary.infinity negative
  | .finite negative significand exponent => readBack negative significand exponent

/-- The text of a key as it is read. -/
def receivedKey (k : HostValue) : Text :=
  match keyText k with
  | .ok t => paired t
  | .error _ => []

mutual

/-- What is read for data that has been written. -/
def received : HostValue → HostValue
  | .intMember i => .int i
  | .float x => .float (receivedFloat x)
  | .str t | .strMember t => .str (paired t)
  | .list xs | .tuple xs => .list (receivedItems xs)
  | .dict es => .dict ((receivedEntries [] es).map fun e => (.str e.1, e.2))
  | v => v

/-- What is read for the items of a list. -/
def receivedItems : List HostValue → List HostValue
  | [] => []
  | v :: rest => received v :: receivedItems rest

/-- The entries that are there once those of a dictionary have been read after others. -/
def receivedEntries (before : List (Text × HostValue)) :
    List (HostValue × HostValue) → List (Text × HostValue)
  | [] => before
  | (k, v) :: rest =>
    receivedEntries (HostValue.insertEntry before (receivedKey k) (received v)) rest

end

/-! ## White space -/

theorem skipSpace_cons (position : Nat) (rest : Text) (h : isSpace c = false) :
    Cursor.skipSpace ⟨position, c :: rest⟩ = ⟨position, c :: rest⟩ := by
  unfold Cursor.skipSpace Json.skipSpace
  rw [h, if_neg Bool.false_ne_true]

theorem skipSpace_blank (position : Nat) (rest : Text) (h : isSpace c = false) :
    Cursor.skipSpace ⟨position, CodePoint.ofChar ' ' :: c :: rest⟩ = ⟨position + 1, c :: rest⟩ := by
  unfold Cursor.skipSpace Json.skipSpace
  exact skipSpace_cons (position + 1) rest h

theorem skipSpace_mark (position : Nat) (rest : Text) {m : Char}
    (hm : m ∈ [',', ':', ']', '\x7d']) :
    Cursor.skipSpace ⟨position, CodePoint.ofChar m :: rest⟩ =
      ⟨position, CodePoint.ofChar m :: rest⟩ := by
  have hmarks : ∀ d ∈ [',', ':', ']', '\x7d'], isSpace (CodePoint.ofChar d) = false :=
    forall_of_all (by decide)
  exact skipSpace_cons position rest (hmarks m hm)

/-- What may stand between a mark and what follows it: nothing, or a blank. -/
def IsGap (gap : Text) : Prop := gap = [] ∨ gap = [CodePoint.ofChar ' ']

theorem isGap_blank : IsGap [CodePoint.ofChar ' '] := .inr rfl

theorem skipSpace_gap (position : Nat) (rest : Text) (h : isSpace c = false) (hgap : IsGap gap) :
    Cursor.skipSpace ⟨position, gap ++ c :: rest⟩ = ⟨position + gap.length, c :: rest⟩ := by
  rcases hgap with rfl | rfl
  · exact skipSpace_cons position rest h
  · exact skipSpace_blank position rest h

/-- A text that a value starts with, and no list ends with. -/
def StartsValue (t : Text) : Prop :=
  ∃ c rest, t = c :: rest ∧ isSpace c = false ∧ c.ascii ≠ ']'

/-- A text that is read as a value, whatever closes it. -/
structure IsReadAs (t : Text) (v : HostValue) : Prop where
  starts : StartsValue t
  reads : ∀ fuel position rest, t.length ≤ fuel → Closes rest →
    ∃ next, readValue fuel ⟨position, t ++ rest⟩ = .ok (v, ⟨next, rest⟩)

/-! ## Words and numbers -/

/-- A text that starts with no quote or bracket is read as a word or as a number. -/
theorem readValue_scalar (hquote : c.ascii ≠ '"') (hbrace : c.ascii ≠ '\x7b')
    (hbracket : c.ascii ≠ '[') (fuel position : Nat) (t : Text) :
    readValue (fuel + 1) ⟨position, c :: t⟩ =
      match scanWord? (c :: t) with
      | some (v, n, rest) => .ok (v, ⟨position + n, rest⟩)
      | none =>
        match scanNumber? (c :: t) with
        | none => .error (.syntaxError .expectingValue position)
        | some (token, after) => do
          let v ← token.value
          return (v, ⟨position + ((c :: t).length - after.length), after⟩) := by
  unfold readValue
  dsimp only
  split
  · exact absurd ‹_› hquote
  · exact absurd ‹_› hbrace
  · exact absurd ‹_› hbracket
  · rfl

theorem scanWord_word {w : String × HostValue} (hw : w ∈ words) (rest : Text) :
    scanWord? (Text.ofString w.1 ++ rest) = some (w.2, (Text.ofString w.1).length, rest) := by
  unfold words at hw
  simp only [List.mem_cons, List.not_mem_nil, or_false] at hw
  unfold scanWord? words
  rcases hw with rfl | rfl | rfl | rfl | rfl | rfl
  all_goals
    simp [Text.ofString, Text.startsWith, ofChar_inj]

theorem words_start : ∀ w ∈ words, ∃ c t, Text.ofString w.1 = c :: t ∧ isSpace c = false ∧
    c.ascii ≠ ']' ∧ c.ascii ≠ '"' ∧ c.ascii ≠ '\x7b' ∧ c.ascii ≠ '[' := by
  unfold words
  simp only [List.forall_mem_cons, List.not_mem_nil, false_implies, implies_true, and_true]
  refine ⟨?_, ?_, ?_, ?_, ?_, ?_⟩
  all_goals
    exact ⟨_, _, rfl, by decide⟩

theorem readValue_word {w : String × HostValue} (hw : w ∈ words) (fuel position : Nat) (rest : Text) :
    ∃ next, readValue (fuel + 1) ⟨position, Text.ofString w.1 ++ rest⟩ = .ok (w.2, ⟨next, rest⟩) := by
  obtain ⟨c, t, ht, -, -, hquote, hbrace, hbracket⟩ := words_start w hw
  have hword := scanWord_word hw rest
  rw [ht, List.cons_append] at hword ⊢
  rw [readValue_scalar hquote hbrace hbracket, hword]
  exact ⟨_, rfl⟩

theorem isReadAs_word {w : String × HostValue} (hw : w ∈ words) :
    IsReadAs (Text.ofString w.1) w.2 := by
  obtain ⟨c, t, ht, hspace, hclose, -⟩ := words_start w hw
  refine ⟨⟨c, t, ht, hspace, hclose⟩, fun fuel position rest hfuel _ => ?_⟩
  rw [ht, List.length_cons] at hfuel
  obtain ⟨fuel, rfl⟩ : ∃ n, fuel = n + 1 := ⟨fuel - 1, by omega⟩
  exact readValue_word hw fuel position rest

theorem digit_ascii {d : Char} (hd : d.isDigit = true) : (CodePoint.ofChar d).ascii = d :=
  ascii_ofChar (by have hbound := toNat_digit hd; omega)

theorem ne_digit {a d : Char} (hd : d.isDigit = true) (ha : a.isDigit = false) : d ≠ a := by
  rintro rfl
  rw [ha] at hd
  cases hd

/-- No word starts with a digit, nor with a sign before a digit. -/
theorem scanWord_number {d : Char} (negative : Bool) (hd : d.isDigit = true) (t : Text) :
    scanWord? ((signChars negative).map CodePoint.ofChar ++ CodePoint.ofChar d :: t) = none := by
  have hne : ∀ a : Char, a.isDigit = false → d ≠ a := fun a ha => ne_digit hd ha
  unfold scanWord? words
  cases negative with
  | false =>
      simp [signChars, Text.ofString, Text.startsWith, ofChar_inj,
        hne 'n' (by decide), hne 't' (by decide), hne 'f' (by decide), hne 'N' (by decide),
        hne 'I' (by decide), hne '-' (by decide)]
  | true =>
      simp [signChars, Text.ofString, Text.startsWith, ofChar_inj,
        hne 'I' (by decide)]

/-- What a numeral starts with after its sign. -/
theorem numeral_start {d : Char} (negative : Bool) (hd : d.isDigit = true) (ds : List Char) :
    ∃ c t, (signChars negative ++ d :: ds).map CodePoint.ofChar = c :: t ∧ isSpace c = false ∧
      c.ascii ≠ ']' ∧ c.ascii ≠ '"' ∧ c.ascii ≠ '\x7b' ∧ c.ascii ≠ '[' := by
  have hstarts : ∀ a ∈ ['-', '0', '1', '2', '3', '4', '5', '6', '7', '8', '9'],
      isSpace (CodePoint.ofChar a) = false ∧ (CodePoint.ofChar a).ascii ≠ ']' ∧
        (CodePoint.ofChar a).ascii ≠ '"' ∧ (CodePoint.ofChar a).ascii ≠ '\x7b' ∧
        (CodePoint.ofChar a).ascii ≠ '[' := forall_of_all (by decide)
  cases negative with
  | true => exact ⟨_, _, rfl, hstarts '-' (by simp)⟩
  | false => exact ⟨_, _, rfl, hstarts d (List.mem_cons_of_mem _ (mem_digits hd))⟩

/-- A numeral is read as the value that its token has. -/
theorem readValue_numeral {d : Char} {ds : List Char} {rest : Text} {token : NumberToken} {negative : Bool}
    (hd : d.isDigit = true)
    (hnumber : scanNumber? ((signChars negative ++ d :: ds).map CodePoint.ofChar ++ rest) = some (token, rest))
    (fuel position : Nat) :
    ∃ next, readValue (fuel + 1) ⟨position, (signChars negative ++ d :: ds).map CodePoint.ofChar ++ rest⟩ =
      token.value.map fun v => (v, ⟨next, rest⟩) := by
  obtain ⟨c, t, ht, -, -, hquote, hbrace, hbracket⟩ := numeral_start negative hd ds
  have hword : scanWord? ((signChars negative ++ d :: ds).map CodePoint.ofChar ++ rest) = none := by
    rw [List.map_append, List.append_assoc]
    exact scanWord_number negative hd _
  rw [ht, List.cons_append] at hword hnumber ⊢
  rw [readValue_scalar hquote hbrace hbracket, hword, hnumber]
  dsimp only
  cases token.value with
  | error e => exact ⟨position, rfl⟩
  | ok v => exact ⟨_, rfl⟩

/-- A numeral after its sign is read as the value that its token has. -/
theorem isReadAs_numeral {x : Numeral} (negative : Bool) (hx : x.IsWritten)
    (hfraction : ∀ ds, x.fraction = some ds → ds ≠ [])
    (hvalue : (numberToken negative x).value = .ok v) :
    IsReadAs ((signChars negative ++ x.chars).map CodePoint.ofChar) v := by
  obtain ⟨d, ds, hwhole⟩ := List.exists_cons_of_ne_nil hx.nonempty
  have hd := hx.whole d (by simp [hwhole])
  obtain ⟨es, hes⟩ : ∃ es, x.chars = d :: es := ⟨_, by rw [Numeral.chars, hwhole]; rfl⟩
  obtain ⟨c, t, ht, hspace, hclose, -⟩ := numeral_start negative hd es
  rw [← hes] at ht
  refine ⟨⟨c, t, ht, hspace, hclose⟩, fun fuel position rest hfuel hrest => ?_⟩
  have hnumber := scanNumber_written negative hx hfraction hrest
  rw [ht, List.length_cons] at hfuel
  obtain ⟨fuel, rfl⟩ : ∃ n, fuel = n + 1 := ⟨fuel - 1, by omega⟩
  rw [hes] at hnumber ⊢
  obtain ⟨next, hread⟩ := readValue_numeral hd hnumber fuel position
  rw [hvalue] at hread
  exact ⟨next, hread⟩

theorem isReadAs_int {i : Int} (h : writeInt i = .ok t) : IsReadAs t (.int i) := by
  have hvalue := value_int h
  rw [writeInt_eq h]
  exact isReadAs_numeral _ (natural_isWritten _) (by simp [natural]) hvalue

theorem isReadAs_float (x : Float) : IsReadAs (writeFloat x) (.float (receivedFloat x)) := by
  rw [writeFloat_eq]
  unfold receivedFloat
  cases Binary.Parts.ofFloat x with
  | nan => exact isReadAs_word (w := ("NaN", .float Binary.nan)) (by simp [words])
  | infinite negative =>
      cases negative with
      | false => exact isReadAs_word (w := ("Infinity", .float (Binary.infinity false))) (by simp [words])
      | true => exact isReadAs_word (w := ("-Infinity", .float (Binary.infinity true))) (by simp [words])
  | finite negative significand exponent =>
      exact isReadAs_numeral negative (magnitude_isWritten _ _) (magnitude_fraction _ _)
        (value_magnitude _ _ _)

/-- What is read after a quote is a string. -/
theorem readValue_string {fuel position : Nat} {s t : Text} {c : Cursor}
    (h : readString ⟨position + 1, t⟩ = .ok (s, c)) :
    readValue (fuel + 1) ⟨position, CodePoint.ofChar '"' :: t⟩ = .ok (.str s, c) := by
  unfold readValue
  change (readString ⟨position + 1, t⟩ >>= fun r => return (HostValue.str r.1, r.2)) = _
  rw [h]
  rfl

theorem isReadAs_string (s : Text) : IsReadAs (writeString true s) (.str (paired s)) := by
  refine ⟨⟨_, _, rfl, by decide, by decide⟩, fun fuel position rest hfuel _ => ?_⟩
  have hpos : 0 < (writeString true s).length := by simp [writeString]
  obtain ⟨fuel, rfl⟩ : ∃ n, fuel = n + 1 := ⟨fuel - 1, by omega⟩
  obtain ⟨next, hread⟩ := readString_written (position + 1) s rest
  refine ⟨next, ?_⟩
  have htext : writeString true s ++ rest = CodePoint.ofChar '"' ::
      (s.flatMap (writePoint true) ++ CodePoint.ofChar '"' :: rest) := by simp [writeString]
  rw [htext]
  exact readValue_string hread

/-! ## Lists -/

/-- A text of items that are read up to the bracket after them. -/
structure AreReadAs (u : Text) (vs : List HostValue) : Prop where
  starts : StartsValue u
  reads : ∀ fuel position acc rest, u.length < fuel →
    ∃ next, readItems fuel acc ⟨position, u ++ CodePoint.ofChar ']' :: rest⟩ =
      .ok (acc.reverse ++ vs, ⟨next, rest⟩)

theorem StartsValue.append (h : StartsValue t) (u : Text) : StartsValue (t ++ u) := by
  obtain ⟨c, rest, rfl, hc⟩ := h
  exact ⟨c, rest ++ u, rfl, hc⟩

theorem readItems_last {fuel : Nat} {c : Cursor} {next : Nat} (acc : List HostValue)
    (h : readValue fuel c = .ok (v, ⟨next, CodePoint.ofChar ']' :: rest⟩)) :
    readItems (fuel + 1) acc c = .ok ((v :: acc).reverse, ⟨next + 1, rest⟩) := by
  unfold readItems
  rw [h]
  simp [bind, Except.bind, skipSpace_mark, ascii_ofChar, pure, Except.pure]

theorem readItems_more {fuel : Nat} {c : Cursor} {d : CodePoint} {next : Nat}
    (acc : List HostValue) (hd : isSpace d = false) (hgap : IsGap gap)
    (h : readValue fuel c = .ok (v, ⟨next, CodePoint.ofChar ',' :: (gap ++ d :: rest)⟩)) :
    readItems (fuel + 1) acc c = readItems fuel (v :: acc) ⟨next + 1 + gap.length, d :: rest⟩ := by
  rw [readItems, h]
  simp [bind, Except.bind, skipSpace_mark, ascii_ofChar, skipSpace_gap _ _ hd hgap]

theorem areReadAs_one (h : IsReadAs t v) : AreReadAs t [v] := by
  refine ⟨h.starts, fun fuel position acc rest hfuel => ?_⟩
  obtain ⟨fuel, rfl⟩ : ∃ n, fuel = n + 1 := ⟨fuel - 1, by omega⟩
  obtain ⟨next, hread⟩ := h.reads fuel position (CodePoint.ofChar ']' :: rest) (by omega)
    (by simp [Closes, closers])
  exact ⟨next + 1, by rw [readItems_last acc hread, List.reverse_cons]⟩

theorem areReadAs_cons (h : IsReadAs t v) (hmore : AreReadAs u vs) (hgap : IsGap gap) :
    AreReadAs (t ++ (CodePoint.ofChar ',' :: (gap ++ u))) (v :: vs) := by
  refine ⟨h.starts.append _, fun fuel position acc rest hfuel => ?_⟩
  obtain ⟨fuel, rfl⟩ : ∃ n, fuel = n + 1 := ⟨fuel - 1, by omega⟩
  simp only [List.length_append, List.length_cons] at hfuel
  obtain ⟨d, w, hu, hspace, -⟩ := hmore.starts
  obtain ⟨next, hread⟩ := h.reads fuel position
    (CodePoint.ofChar ',' :: (gap ++ (u ++ CodePoint.ofChar ']' :: rest))) (by omega)
    (by simp [Closes, closers])
  obtain ⟨stop, hothers⟩ := hmore.reads fuel (next + 1 + gap.length) (v :: acc) rest (by omega)
  have htext : t ++ (CodePoint.ofChar ',' :: (gap ++ u)) ++ CodePoint.ofChar ']' :: rest =
      t ++ (CodePoint.ofChar ',' :: (gap ++ (u ++ CodePoint.ofChar ']' :: rest))) := by
    simp
  rw [htext]
  rw [hu, List.cons_append] at hread hothers ⊢
  refine ⟨stop, ?_⟩
  rw [readItems_more acc hspace hgap hread, hothers, List.reverse_cons, List.append_assoc,
    List.singleton_append]

theorem readValue_list {fuel position next : Nat} {d : CodePoint} (hd : isSpace d = false)
    (hclose : d.ascii ≠ ']') (h : readItems fuel [] ⟨position + 1, d :: t⟩ = .ok (vs, ⟨next, rest⟩)) :
    readValue (fuel + 1) ⟨position, CodePoint.ofChar '[' :: d :: t⟩ =
      .ok (.list vs, ⟨next, rest⟩) := by
  rw [readValue]
  simp [ascii_ofChar, skipSpace_cons _ _ hd, hclose, h, bind, Except.bind, pure,
    Except.pure]

theorem isReadAs_list (h : AreReadAs u vs) :
    IsReadAs (CodePoint.ofChar '[' :: (u ++ [CodePoint.ofChar ']'])) (.list vs) := by
  refine ⟨⟨_, _, rfl, by decide, by decide⟩, fun fuel position rest hfuel _ => ?_⟩
  simp only [List.length_cons, List.length_append, List.length_nil] at hfuel
  obtain ⟨fuel, rfl⟩ : ∃ n, fuel = n + 1 := ⟨fuel - 1, by omega⟩
  obtain ⟨d, w, hu, hspace, hclose⟩ := h.starts
  obtain ⟨next, hread⟩ := h.reads fuel (position + 1) [] rest (by omega)
  rw [List.cons_append, List.append_assoc]
  rw [hu, List.cons_append] at hread ⊢
  exact ⟨next, readValue_list hspace hclose hread⟩

theorem isReadAs_emptyList :
    IsReadAs [CodePoint.ofChar '[', CodePoint.ofChar ']'] (.list []) := by
  refine ⟨⟨_, _, rfl, by decide, by decide⟩, fun fuel position rest hfuel _ => ?_⟩
  obtain ⟨fuel, rfl⟩ : ∃ n, fuel = n + 1 := ⟨fuel - 1, by simp at hfuel; omega⟩
  exact ⟨_, by rw [readValue]; rfl⟩

/-! ## Dictionaries -/

/-- A text of entries that are read up to the bracket after them. -/
structure EntriesReadAs (u : Text) (es : List (HostValue × HostValue)) : Prop where
  starts : ∃ w, u = CodePoint.ofChar '"' :: w
  reads : ∀ fuel position before rest, u.length < fuel →
    ∃ next, readEntries fuel before ⟨position, u ++ CodePoint.ofChar '\x7d' :: rest⟩ =
      .ok (receivedEntries before es, ⟨next, rest⟩)

variable {k : HostValue} {key : Text} {es : List (HostValue × HostValue)}

/-- A text that is read as a key. -/
structure IsReadAsKey (q key : Text) : Prop where
  starts : ∃ w, q = CodePoint.ofChar '"' :: w
  reads : ∀ position rest,
    ∃ next, readString ⟨position, q.tail ++ rest⟩ = .ok (key, ⟨next, rest⟩)

theorem isReadAsKey_written (key : Text) : IsReadAsKey (writeString true key) (paired key) := by
  refine ⟨⟨_, rfl⟩, fun position rest => ?_⟩
  obtain ⟨next, hread⟩ := readString_written position key rest
  refine ⟨next, ?_⟩
  have htext : (writeString true key).tail ++ rest =
      key.flatMap (writePoint true) ++ CodePoint.ofChar '"' :: rest := by simp [writeString]
  rw [htext, hread]

/-- What is read once an entry has been: the end of the entries or more of them. -/
def readFurther (fuel : Nat) (acc : List (Text × HostValue)) (c : Cursor) :
    Except ReadError (List (Text × HostValue) × Cursor) :=
  match c.rest with
  | d :: rest =>
    let next : Cursor := ⟨c.position + 1, rest⟩
    match d.ascii with
    | '\x7d' => return (acc, next)
    | ',' => readEntries fuel acc next.skipSpace
    | _ => .error (.syntaxError .expectingComma c.position)
  | [] => .error (.syntaxError .expectingComma c.position)

/-- A key with its value is read before what follows them. -/
theorem readEntries_entry (rest : Text) {q : Text} (hq : IsReadAsKey q key) (hgap : IsGap gap) (h : IsReadAs t v)
    {fuel : Nat} (hfuel : t.length ≤ fuel) (hrest : Closes rest) (position : Nat)
    (before : List (Text × HostValue)) :
    ∃ next, readEntries (fuel + 1) before
        ⟨position, q ++ (CodePoint.ofChar ':' :: (gap ++ t)) ++ rest⟩ =
      readFurther fuel (HostValue.insertEntry before key v) (Cursor.skipSpace ⟨next, rest⟩) := by
  obtain ⟨d, w, ht, hspace, -⟩ := h.starts
  obtain ⟨inner, rfl⟩ := hq.starts
  obtain ⟨colon, hkey⟩ := hq.reads (position + 1) (CodePoint.ofChar ':' :: (gap ++ (t ++ rest)))
  obtain ⟨next, hvalue⟩ := h.reads fuel (colon + 1 + gap.length) rest hfuel hrest
  have htext : CodePoint.ofChar '"' :: inner ++ (CodePoint.ofChar ':' :: (gap ++ t)) ++ rest =
      CodePoint.ofChar '"' :: (inner ++ (CodePoint.ofChar ':' :: (gap ++ (t ++ rest)))) := by
    simp
  refine ⟨next, ?_⟩
  rw [htext, readEntries]
  rw [ht, List.cons_append] at hkey hvalue ⊢
  rw [List.tail_cons] at hkey
  simp [ascii_ofChar, hkey, bind, Except.bind, skipSpace_mark, skipSpace_gap _ _ hspace hgap, hvalue]
  rfl

theorem receivedKey_eq (h : keyText k = .ok key) : receivedKey k = paired key := by
  unfold receivedKey
  rw [h]

theorem entriesReadAs_one {q : Text} (hq : IsReadAsKey q (receivedKey k)) (hgap : IsGap gap)
    (h : IsReadAs t (received v)) :
    EntriesReadAs (q ++ (CodePoint.ofChar ':' :: (gap ++ t))) [(k, v)] := by
  obtain ⟨w, hw⟩ := hq.starts
  refine ⟨⟨_, by rw [hw]; rfl⟩, fun fuel position before rest hfuel => ?_⟩
  obtain ⟨fuel, rfl⟩ : ∃ n, fuel = n + 1 := ⟨fuel - 1, by omega⟩
  simp only [List.length_append, List.length_cons] at hfuel
  obtain ⟨next, hread⟩ := readEntries_entry (CodePoint.ofChar '\x7d' :: rest) hq hgap h
    (show t.length ≤ fuel by omega) (by simp [Closes, closers]) position before
  refine ⟨next + 1, ?_⟩
  rw [hread]
  simp [readFurther, skipSpace_mark, ascii_ofChar, receivedEntries, pure, Except.pure]

theorem entriesReadAs_cons {q : Text} (hq : IsReadAsKey q (receivedKey k)) (hgap : IsGap gap)
    (h : IsReadAs t (received v)) (hmore : EntriesReadAs u es) :
    EntriesReadAs (q ++ (CodePoint.ofChar ':' :: (gap ++ t)) ++ (CodePoint.ofChar ',' :: (gap ++ u)))
      ((k, v) :: es) := by
  obtain ⟨w, hw⟩ := hq.starts
  refine ⟨⟨_, by rw [hw]; rfl⟩, fun fuel position before rest hfuel => ?_⟩
  obtain ⟨fuel, rfl⟩ : ∃ n, fuel = n + 1 := ⟨fuel - 1, by omega⟩
  simp only [List.length_append, List.length_cons] at hfuel
  obtain ⟨w', hu⟩ := hmore.starts
  obtain ⟨next, hread⟩ := readEntries_entry
    (CodePoint.ofChar ',' :: (gap ++ (u ++ CodePoint.ofChar '\x7d' :: rest))) hq hgap h
    (show t.length ≤ fuel by omega) (by simp [Closes, closers]) position before
  obtain ⟨stop, hothers⟩ := hmore.reads fuel (next + 1 + gap.length)
    (HostValue.insertEntry before (receivedKey k) (received v)) rest (by omega)
  have htext : q ++ (CodePoint.ofChar ':' :: (gap ++ t)) ++ (CodePoint.ofChar ',' :: (gap ++ u)) ++
      CodePoint.ofChar '\x7d' :: rest = q ++ (CodePoint.ofChar ':' :: (gap ++ t)) ++
        (CodePoint.ofChar ',' :: (gap ++ (u ++ CodePoint.ofChar '\x7d' :: rest))) := by
    simp
  refine ⟨stop, ?_⟩
  rw [htext, hread]
  rw [hu, List.cons_append] at hothers ⊢
  have hquote : isSpace (CodePoint.ofChar '"') = false := rfl
  simp [readFurther, skipSpace_mark, ascii_ofChar, skipSpace_gap _ _ hquote hgap, hothers,
    receivedEntries]

theorem isReadAs_dict (h : EntriesReadAs u es) :
    IsReadAs (CodePoint.ofChar '\x7b' :: (u ++ [CodePoint.ofChar '\x7d'])) (received (.dict es)) := by
  refine ⟨⟨_, _, rfl, by decide, by decide⟩, fun fuel position rest hfuel _ => ?_⟩
  simp only [List.length_cons, List.length_append, List.length_nil] at hfuel
  obtain ⟨fuel, rfl⟩ : ∃ n, fuel = n + 1 := ⟨fuel - 1, by omega⟩
  obtain ⟨w, hu⟩ := h.starts
  obtain ⟨next, hread⟩ := h.reads fuel (position + 1) [] rest (by omega)
  have hquote : isSpace (CodePoint.ofChar '"') = false := rfl
  rw [List.cons_append, List.append_assoc]
  rw [hu, List.cons_append] at hread ⊢
  refine ⟨next, ?_⟩
  rw [readValue]
  simp [ascii_ofChar, skipSpace_cons _ _ hquote, hread, bind, Except.bind, pure, Except.pure,
    received]

theorem isReadAs_emptyDict :
    IsReadAs [CodePoint.ofChar '\x7b', CodePoint.ofChar '\x7d'] (.dict []) := by
  refine ⟨⟨_, _, rfl, by decide, by decide⟩, fun fuel position rest hfuel _ => ?_⟩
  obtain ⟨fuel, rfl⟩ : ∃ n, fuel = n + 1 := ⟨fuel - 1, by simp at hfuel; omega⟩
  exact ⟨_, by rw [readValue]; rfl⟩

/-! ## Written data -/

variable {xs : List HostValue}

theorem isReadAs_items (hts : writeItems wire xs = .ok ts)
    (h : ts ≠ [] → AreReadAs (Text.joinWith ", " ts) (receivedItems xs)) :
    IsReadAs (bracketed "[" "]" ts) (.list (receivedItems xs)) := by
  by_cases hnone : ts = []
  · subst hnone
    obtain rfl := (items_eq_nil hts).mpr rfl
    exact isReadAs_emptyList
  · have hlist := isReadAs_list (h hnone)
    simpa [bracketed, Text.ofString] using hlist

theorem isReadAs_entries (hts : entryTexts es = .ok ts)
    (h : ts ≠ [] → EntriesReadAs (Text.joinWith ", " ts) es) :
    IsReadAs (bracketed "\x7b" "\x7d" ts) (received (.dict es)) := by
  by_cases hnone : ts = []
  · subst hnone
    obtain rfl := (entries_eq_nil hts).mpr rfl
    exact isReadAs_emptyDict
  · have hdict := isReadAs_dict (h hnone)
    simpa [bracketed, Text.ofString] using hdict

mutual

/-- The text that is written for a value is read as what is received of it. -/
theorem isReadAs_written : ∀ (v : HostValue) {t : Text}, write wire v = .ok t →
    IsReadAs t (received v)
  | .none, t, h => by
      cases h
      exact isReadAs_word (w := ("null", .none)) (by simp [words])
  | .bool b, t, h => by
      cases h
      cases b with
      | false => exact isReadAs_word (w := ("false", .bool false)) (by simp [words])
      | true => exact isReadAs_word (w := ("true", .bool true)) (by simp [words])
  | .int _, t, h => isReadAs_int h
  | .intMember _, t, h => isReadAs_int h
  | .float x, t, h => by
      cases h
      exact isReadAs_float x
  | .str s, t, h => by
      cases h
      exact isReadAs_string s
  | .strMember s, t, h => by
      cases h
      exact isReadAs_string s
  | .list xs, t, h => by
      obtain ⟨ts, hts, h⟩ := ok_of_bind h
      cases h
      exact isReadAs_items hts (areReadAs_written xs hts)
  | .tuple xs, t, h => by
      obtain ⟨ts, hts, h⟩ := ok_of_bind h
      cases h
      exact isReadAs_items hts (areReadAs_written xs hts)
  | .dict es, t, h => by
      have hentries : ∃ ts, entryTexts es = .ok ts ∧ bracketed "\x7b" "\x7d" ts = t := by
        obtain ⟨ts, hts, h⟩ := ok_of_bind h
        cases h
        exact ⟨ts, hts, rfl⟩
      obtain ⟨ts, hts, rfl⟩ := hentries
      exact isReadAs_entries hts (entriesReadAs_written es hts)

/-- The texts of the items of a list are read as what is received of the items. -/
theorem areReadAs_written : ∀ (xs : List HostValue) {ts : List Text},
    writeItems wire xs = .ok ts → ts ≠ [] →
      AreReadAs (Text.joinWith ", " ts) (receivedItems xs)
  | [], ts, h, hne => by
      cases h
      exact absurd rfl hne
  | v :: xs, ts, h, hne => by
      obtain ⟨t, us, ht, hus, rfl⟩ := writeItems_cons h
      have hfirst := isReadAs_written v ht
      rw [joinWith_cons]
      by_cases hnone : us = []
      · subst hnone
        obtain rfl := (items_eq_nil hus).mpr rfl
        simpa [receivedItems] using areReadAs_one hfirst
      · rw [if_neg (by simpa using hnone)]
        exact areReadAs_cons hfirst (areReadAs_written xs hus hnone) isGap_blank

/-- The texts of the entries of a dictionary are read as what is received of the entries. -/
theorem entriesReadAs_written : ∀ (es : List (HostValue × HostValue)) {ts : List Text},
    entryTexts es = .ok ts → ts ≠ [] → EntriesReadAs (Text.joinWith ", " ts) es
  | [], ts, h, hne => by
      cases h
      exact absurd rfl hne
  | (k, v) :: es, ts, h, hne => by
      obtain ⟨key, t, us, hkey, ht, hus, rfl⟩ := entryTexts_cons h
      have hfirst := isReadAs_written v ht
      have hq : IsReadAsKey (writeString true key) (receivedKey k) :=
        receivedKey_eq hkey ▸ isReadAsKey_written key
      rw [joinWith_cons]
      by_cases hnone : us = []
      · subst hnone
        obtain rfl := (entries_eq_nil hus).mpr rfl
        simpa [Text.ofString] using entriesReadAs_one hq isGap_blank hfirst
      · rw [if_neg (by simpa using hnone)]
        simpa [Text.ofString] using
          entriesReadAs_cons hq isGap_blank hfirst (entriesReadAs_written es hus hnone)

end

/-- A text that is read as a value is read as it when it stands alone, unless it starts with the mark
of a byte order. -/
theorem read_of_isReadAs (h : IsReadAs t v) (hmark : ∀ c ∈ t.head?, c.val ≠ 0xFEFF) :
    Json.read t = .ok v := by
  obtain ⟨c, rest, rfl, hspace, -⟩ := h.starts
  have hfirst : c.val ≠ 0xFEFF := hmark c rfl
  obtain ⟨next, hread⟩ := h.reads (2 * (c :: rest).length + 2) 0 [] (by omega) (by simp [Closes, closers])
  have hstart : skipSpace 0 (c :: rest) = ⟨0, c :: rest⟩ := skipSpace_cons 0 rest hspace
  rw [List.append_nil] at hread
  have htext : readText (c :: rest) = .ok v := by
    unfold readText
    rw [if_neg (by simp [hfirst]), hstart, hread]
    rfl
  unfold Json.read
  rw [htext]

/-- What has been written is read as what is received of it. -/
theorem read_written (h : write wire v = .ok t) : Json.read t = .ok (received v) := by
  refine read_of_isReadAs (isReadAs_written v h) fun c hc => ?_
  have hclean := isClean_write v h c (List.mem_of_mem_head? hc)
  omega

/-! ## Exact data -/

mutual

/-- The plain value that data equals: members of enumerations are what they equal. -/
def plainOf : HostValue → HostValue
  | .intMember i => .int i
  | .strMember t => .str t
  | .list xs => .list (plainItems xs)
  | .dict es => .dict (plainEntries es)
  | v => v

/-- The plain values that the items of a list equal. -/
def plainItems : List HostValue → List HostValue
  | [] => []
  | v :: rest => plainOf v :: plainItems rest

/-- The plain entries that the entries of a dictionary equal. -/
def plainEntries : List (HostValue × HostValue) → List (HostValue × HostValue)
  | [] => []
  | (k, v) :: rest => (plainOf k, plainOf v) :: plainEntries rest

end

/-- Data that crosses without loss: its texts have no surrogates, there are no floats, and no key
stands twice. -/
inductive IsExact : HostValue → Prop
  | none : IsExact .none
  | bool (b : Bool) : IsExact (.bool b)
  | int (i : Int) : IsExact (.int i)
  | intMember (i : Int) : IsExact (.intMember i)
  | str {t : Text} (h : t.IsScalar) : IsExact (.str t)
  | strMember {t : Text} (h : t.IsScalar) : IsExact (.strMember t)
  | list {xs : List HostValue} (h : ∀ v ∈ xs, IsExact v) : IsExact (.list xs)
  | dict {es : List (HostValue × HostValue)} (hkeys : (es.map fun e => e.1.text?).Nodup)
    (htexts : ∀ e ∈ es, ∃ t, e.1.text? = some t ∧ t.IsScalar) (h : ∀ e ∈ es, IsExact e.2) :
    IsExact (.dict es)

theorem receivedItems_plain {xs : List HostValue} (h : ∀ v ∈ xs, received v = plainOf v) :
    receivedItems xs = plainItems xs := by
  induction xs with
  | nil => rfl
  | cons v xs ih =>
      unfold receivedItems plainItems
      rw [h v List.mem_cons_self, ih fun w hw => h w (List.mem_cons_of_mem v hw)]

theorem keyText_text {k : HostValue} {t : Text} (h : k.text? = some t) : keyText k = .ok t := by
  cases k with
  | str s =>
      cases h
      rfl
  | strMember s =>
      cases h
      rfl
  | _ => cases h

theorem plainOf_text {k : HostValue} {t : Text} (h : k.text? = some t) : plainOf k = .str t := by
  cases k with
  | str s =>
      cases h
      rfl
  | strMember s =>
      cases h
      rfl
  | _ => cases h

theorem insertEntry_new {entries : List (Text × HostValue)} {key : Text}
    (h : key ∉ entries.map (·.1)) (v : HostValue) :
    HostValue.insertEntry entries key v = entries ++ [(key, v)] := by
  induction entries with
  | nil => rfl
  | cons e entries ih =>
      obtain ⟨k, w⟩ := e
      rw [List.map_cons, List.mem_cons, not_or] at h
      unfold HostValue.insertEntry
      rw [if_neg (Ne.symm h.1), ih h.2]
      rfl

/-- Entries with new keys are received after those that are there. -/
theorem receivedEntries_new {before : List (Text × HostValue)}
    (hkeys : (before.map (·.1) ++ es.map fun e => receivedKey e.1).Nodup) :
    receivedEntries before es = before ++ es.map fun e => (receivedKey e.1, received e.2) := by
  induction es generalizing before with
  | nil => exact (List.append_nil _).symm
  | cons e es ih =>
      obtain ⟨k, v⟩ := e
      have hnew : receivedKey k ∉ before.map (·.1) := fun hmem =>
        (List.nodup_append.mp hkeys).2.2 _ hmem _ List.mem_cons_self rfl
      have hmore : ((before ++ [(receivedKey k, received v)]).map (·.1) ++
          es.map fun e => receivedKey e.1).Nodup := by
        simpa using hkeys
      unfold receivedEntries
      rw [insertEntry_new hnew, ih hmore]
      simp

theorem plainEntries_eq (es : List (HostValue × HostValue)) :
    plainEntries es = es.map fun e => (plainOf e.1, plainOf e.2) := by
  induction es with
  | nil => rfl
  | cons e es ih =>
      unfold plainEntries
      rw [ih, List.map_cons]

theorem receivedKey_scalar {k : HostValue} {t : Text} (h : k.text? = some t) (hscalar : t.IsScalar) :
    receivedKey k = t :=
  (receivedKey_eq (keyText_text h)).trans (paired_scalar hscalar)

/-- Exact data is received as the plain value that it equals. -/
theorem received_exact (h : IsExact v) : received v = plainOf v := by
  induction h with
  | none | bool | int | intMember => rfl
  | str h | strMember h => exact congrArg HostValue.str (paired_scalar h)
  | list h ih => exact congrArg HostValue.list (receivedItems_plain ih)
  | @dict es hkeys htexts h ih =>
      have hreceived : ∀ e ∈ es, e.1.text? = some (receivedKey e.1) := by
        intro e he
        obtain ⟨t, ht, hscalar⟩ := htexts e he
        rw [ht, receivedKey_scalar ht hscalar]
      have hnodup : (es.map fun e => receivedKey e.1).Nodup := by
        rw [List.map_congr_left hreceived] at hkeys
        exact .of_map some (by simpa [Function.comp_def] using hkeys)
      have hentries : receivedEntries [] es = _ := receivedEntries_new hnodup
      unfold received plainOf
      rw [hentries, plainEntries_eq, List.nil_append, List.map_map]
      refine congrArg HostValue.dict (List.map_congr_left fun e he => ?_)
      exact Prod.ext (plainOf_text (hreceived e he)).symm (ih e he)

end ScriptHost.Proofs.RoundTrip
