import ScriptHost.Proofs.Numerals
import ScriptHost.Proofs.ScannedNames

/-!
# The tokens of data

The text that is written for a value of plain data is scanned, whatever follows it, as the tokens
of that value.
-/

namespace ScriptHost.Proofs.DataTokens

open Script Json
open ScriptHost.Proofs.Scanning
open ScriptHost.Proofs.ScannedNames
open ScriptHost.Proofs.ScannedStrings
open ScriptHost.Proofs.ScannedNumbers
open ScriptHost.Proofs.Numerals

variable {s : Array CodePoint} {i j l : Nat} {t rest : Text}

/-! ## Runs of tokens -/

/-- From one place on up to another one, a text is scanned as tokens of given kinds. -/
inductive Streams (s : Array CodePoint) : Nat → List TokenKind → Nat → Prop
  | nil {i : Nat} : Streams s i [] i
  | cons {i j l : Nat} {k : TokenKind} {ks : List TokenKind} (h : Scans s i k j) (hlt : i < j)
    (more : Streams s j ks l) : Streams s i (k :: ks) l

namespace Streams

variable {ks ls : List TokenKind} {k : TokenKind}

theorem append (h : Streams s i ks j) (more : Streams s j ls l) : Streams s i (ks ++ ls) l := by
  induction h with
  | nil => exact more
  | cons hscan hlt _ ih => exact .cons hscan hlt (ih more)

theorem single (h : Scans s i k j) (hlt : i < j) : Streams s i [k] j := .cons h hlt .nil

/-- Each token takes at least one character. -/
theorem length_le (h : Streams s i ks j) : i + ks.length ≤ j := by
  induction h with
  | nil => exact Nat.le_refl _
  | cons _ hlt _ ih =>
      rw [List.length_cons]
      omega

end Streams

/-! ## Tokens -/

/-- The token of a sign. -/
def signTokens (negative : Bool) : List TokenKind := if negative then [.punct "-"] else []

/-- The tokens of a float. -/
def floatTokens : Binary.Parts → List TokenKind
  | .nan => [.word "NaN" false]
  | .infinite negative => signTokens negative ++ [.word "Infinity" false]
  | .finite negative significand exponent =>
    signTokens negative ++ [.number (magnitude significand exponent).value]

/-- The token between an item and those after it. -/
def comma {α : Type} (rest : List α) : List TokenKind := if rest.isEmpty then [] else [.punct ","]

/-- The string that a key is written as. -/
def keyString (k : HostValue) : Utf16 :=
  match keyText k with
  | .ok t => Utf16.ofText t
  | .error _ => ∅

mutual

/-- The tokens of a value of plain data. -/
def tokens : HostValue → List TokenKind
  | .none => [.word "null" false]
  | .bool b => [.word (if b then "true" else "false") false]
  | .int i | .intMember i => signTokens (i < 0) ++ [.number (.ofInt i.natAbs)]
  | .float x => floatTokens (Binary.Parts.ofFloat x)
  | .str t | .strMember t => [.string (Utf16.ofText t)]
  | .list xs | .tuple xs => .punct "[" :: (itemTokens xs ++ [.punct "]"])
  | .dict es => .punct "\x7b" :: (entryTokens es ++ [.punct "\x7d"])
  | _ => []

/-- The tokens of the items of a list. -/
def itemTokens : List HostValue → List TokenKind
  | [] => []
  | v :: rest => tokens v ++ (comma rest ++ itemTokens rest)

/-- The tokens of the entries of a dictionary. -/
def entryTokens : List (HostValue × HostValue) → List TokenKind
  | [] => []
  | (k, v) :: rest =>
    .string (keyString k) :: .punct ":" :: (tokens v ++ (comma rest ++ entryTokens rest))

end

/-! ## Numbers and words -/

/-- A text that is scanned as given tokens, wherever it stands and may end. -/
def IsScannedAs (t : Text) (ks : List TokenKind) : Prop :=
  ∀ s i j rest, Leads s i j (t ++ rest) → Closes rest → Streams s i ks (j + t.length)

theorem isScannedAs_word {w : List Char} (hne : w ≠ []) (hw : ∀ c ∈ w, c.isAlpha = true) :
    IsScannedAs (w.map CodePoint.ofChar) [.word (String.ofList w) false] := by
  intro s i j rest h hrest
  have hle := h.le
  have hpos := List.length_pos_iff.mpr hne
  rw [List.length_map, ← spelling_ofChars]
  have hscans := scans_name h (isName_letters hne hw) (endsName_closes hrest)
  rw [List.length_map] at hscans
  exact .single hscans (by omega)

theorem isScannedAs_numeral {x : Numeral} (hx : x.IsWritten) :
    IsScannedAs (x.chars.map CodePoint.ofChar) [.number x.value] := by
  intro s i j rest h hrest
  have hle := h.le
  have hpos : 0 < x.chars.length := by
    have hwhole := List.length_pos_iff.mpr hx.nonempty
    rw [Numeral.chars, List.length_append]
    omega
  rw [List.length_map]
  exact .single (scans_number hx h hrest) (by omega)

/-- A sign before a text that starts with a character that continues no operator. -/
theorem isScannedAs_signed {d : Char} {ds : List Char} {ks : List TokenKind} (negative : Bool)
    (hd : d.toNat < 128) (hdash : d ≠ '-') (hequal : d ≠ '=')
    (h : IsScannedAs ((d :: ds).map CodePoint.ofChar) ks) :
    IsScannedAs ((signChars negative ++ d :: ds).map CodePoint.ofChar)
      (signTokens negative ++ ks) := by
  cases negative with
  | false => exact h
  | true =>
      intro s i j rest hleads hrest
      have hminus : Leads s i j (CodePoint.ofChar '-' :: CodePoint.ofChar d ::
          (ds.map CodePoint.ofChar ++ rest)) := hleads
      have hscan := scans_minus hminus (by rw [ascii_ofChar hd]; exact hdash)
        (by rw [ascii_ofChar hd]; exact hequal)
      have hmore := h s (j + 1) (j + 1) rest (.here hminus.stands.tail) hrest
      refine .cons hscan (Nat.lt_succ_of_le hleads.le) ?_
      simpa [signChars, Nat.add_assoc, Nat.add_comm, Nat.add_left_comm] using hmore

theorem isScannedAs_signedNumeral {x : Numeral} (hx : x.IsWritten) (negative : Bool) :
    IsScannedAs ((signChars negative ++ x.chars).map CodePoint.ofChar)
      (signTokens negative ++ [.number x.value]) := by
  have h := isScannedAs_numeral hx
  obtain ⟨d, ds, hwhole⟩ := List.exists_cons_of_ne_nil hx.nonempty
  have hd := hx.whole d (by simp [hwhole])
  have hbound := toNat_digit hd
  obtain ⟨es, hes⟩ : ∃ es, x.chars = d :: es := ⟨_, by rw [Numeral.chars, hwhole]; rfl⟩
  rw [hes] at h ⊢
  refine isScannedAs_signed negative (by omega) ?_ ?_ h
  · rintro rfl
    cases hd
  · rintro rfl
    cases hd

theorem writeInt_eq {n : Int} (h : writeInt n = .ok t) :
    t = (signChars (n < 0) ++ (natural n.natAbs).chars).map CodePoint.ofChar := by
  unfold writeInt at h
  split at h
  · rename_i t' hdecimal
    cases h
    unfold decimalOf? at hdecimal
    dsimp only at hdecimal
    split at hdecimal
    · cases hdecimal
    · cases hdecimal
      rw [natural_chars]
      unfold signChars
      by_cases hneg : n < 0
      · simp [hneg]
      · simp [hneg]
  · cases h

theorem isScannedAs_int {n : Int} (h : writeInt n = .ok t) :
    IsScannedAs t (signTokens (n < 0) ++ [.number (.ofInt n.natAbs)]) := by
  rw [writeInt_eq h, ← natural_value]
  exact isScannedAs_signedNumeral (natural_isWritten _) _

/-- The characters of a float. -/
def floatChars : Binary.Parts → List Char
  | .nan => "NaN".toList
  | .infinite negative => signChars negative ++ "Infinity".toList
  | .finite negative significand exponent =>
    signChars negative ++ (magnitude significand exponent).chars

theorem writeFloat_eq (x : Float) :
    writeFloat x = (floatChars (Binary.Parts.ofFloat x)).map CodePoint.ofChar := by
  have hchars : Decimal.jsonStyle.chars x = floatChars (Binary.Parts.ofFloat x) := by
    cases hparts : Binary.Parts.ofFloat x with
    | nan =>
        unfold Decimal.Style.chars
        rw [hparts]
        rfl
    | infinite negative =>
        unfold Decimal.Style.chars
        rw [hparts]
        rfl
    | finite negative significand exponent => exact write_finite hparts
  unfold writeFloat Text.ofString Decimal.Style.write
  rw [String.toList_ofList, hchars]

theorem isScannedAs_float (x : Float) :
    IsScannedAs (writeFloat x) (floatTokens (Binary.Parts.ofFloat x)) := by
  rw [writeFloat_eq]
  cases Binary.Parts.ofFloat x with
  | nan => exact isScannedAs_word (by decide) (forall_of_all (by decide))
  | infinite negative =>
      exact isScannedAs_signed negative (by decide) (by decide) (by decide)
        (isScannedAs_word (by decide) (forall_of_all (by decide)))
  | finite negative significand exponent =>
      exact isScannedAs_signedNumeral (magnitude_isWritten _ _) negative

/-! ## Lists and dictionaries -/

variable {ts : List Text} {ks ls : List TokenKind}

theorem joinWith_cons (separator t : Text) (ts : List Text) :
    Text.joinWith separator (t :: ts) =
      t ++ (if ts.isEmpty then [] else separator ++ Text.joinWith separator ts) := by
  cases ts with
  | nil => simp [Text.joinWith]
  | cons u ts => simp [Text.joinWith]

/-- An item, and those after it. -/
theorem isScannedAs_joined {α : Type} {others : List α} (h : IsScannedAs t ks)
    (hothers : others = [] ↔ ts = []) (hnone : ts = [] → ls = [])
    (hmore : ts ≠ [] → IsScannedAs (Text.joinWith ", " ts) ls) :
    IsScannedAs (Text.joinWith ", " (t :: ts)) (ks ++ (comma others ++ ls)) := by
  intro s i j rest hleads hrest
  rw [joinWith_cons] at hleads ⊢
  by_cases hts : ts = []
  · subst hts
    obtain rfl := hothers.mpr rfl
    obtain rfl := hnone rfl
    simpa [comma] using h s i j rest (by simpa using hleads) hrest
  · have hcomma : comma others = [.punct ","] := by simp [comma, mt hothers.mp hts]
    rw [if_neg (by simpa using hts)] at hleads ⊢
    have hclose : Closes (CodePoint.ofChar ',' :: CodePoint.ofChar ' ' ::
        (Text.joinWith ", " ts ++ rest)) := by simp [Closes, closers]
    have hfirst := h s i j _ (by simpa [Text.ofString] using hleads) hclose
    have hafter : Stands s (j + t.length) (CodePoint.ofChar ',' :: CodePoint.ofChar ' ' ::
        (Text.joinWith ", " ts ++ rest)) :=
      Stands.skip (t := t) (by simpa [Text.ofString] using hleads.stands)
    have hmark := scans_mark (.here hafter) (show ',' ∈ marks by decide)
    have hothersScan := hmore hts s _ _ rest (.blank hafter.tail) hrest
    have hstop : j + (t ++ (", " ++ Text.joinWith ", " ts)).length =
        j + t.length + 1 + 1 + (Text.joinWith ", " ts).length := by
      simp [Text.ofString]
      omega
    rw [hcomma, hstop]
    exact hfirst.append (.cons hmark (Nat.lt_succ_self _) hothersScan)

/-- Items between brackets. -/
theorem isScannedAs_bracketed {o c : Char} (ho : o ∈ marks) (hc : c = ']' ∨ c = '\x7d')
    (hnone : ts = [] → ks = []) (hmore : ts ≠ [] → IsScannedAs (Text.joinWith ", " ts) ks) :
    IsScannedAs (CodePoint.ofChar o :: (Text.joinWith ", " ts ++ [CodePoint.ofChar c]))
      (.punct (String.singleton o) :: (ks ++ [.punct (String.singleton c)])) := by
  intro s i j rest hleads hrest
  have hopen := scans_mark hleads ho
  have hinside : Stands s (j + 1) (Text.joinWith ", " ts ++ CodePoint.ofChar c :: rest) := by
    simpa using hleads.stands.tail
  have hmark : c ∈ marks := by rcases hc with rfl | rfl <;> decide
  have hclose : Closes (CodePoint.ofChar c :: rest) := by
    rcases hc with rfl | rfl <;> simp [Closes, closers]
  have hitems : Streams s (j + 1) ks (j + 1 + (Text.joinWith ", " ts).length) := by
    by_cases hts : ts = []
    · obtain rfl := hnone hts
      subst hts
      exact .nil
    · exact hmore hts s _ _ _ (.here hinside) hclose
  refine .cons hopen (Nat.lt_succ_of_le hleads.le) (hitems.append ?_)
  have hlast := Streams.single (scans_mark (.here hinside.skip) hmark) (Nat.lt_succ_self _)
  simpa [Nat.add_assoc, Nat.add_comm, Nat.add_left_comm] using hlast

theorem lt_writeString {k : Text} (h : Leads s i j (writeString true k ++ rest)) :
    i < j + (writeString true k).length := by
  have hle := h.le
  unfold writeString
  rw [List.length_append, List.length_cons]
  omega

/-- A key with its value. -/
theorem isScannedAs_entry {k : Text} (h : IsScannedAs t ks) :
    IsScannedAs (writeString true k ++ ": " ++ t)
      (.string (Utf16.ofText k) :: .punct ":" :: ks) := by
  intro s i j rest hleads hrest
  have hkey : Leads s i j (writeString true k ++ (CodePoint.ofChar ':' :: CodePoint.ofChar ' ' ::
      (t ++ rest))) := by simpa [Text.ofString] using hleads
  have hcolon := hkey.stands.skip
  have hvalue := h s _ _ rest (.blank hcolon.tail) hrest
  have hstop : j + (writeString true k ++ ": " ++ t).length =
      j + (writeString true k).length + 1 + 1 + t.length := by
    simp [Text.ofString]
    omega
  rw [hstop]
  exact .cons (scans_string hkey) (lt_writeString hkey)
    (.cons (scans_mark (.here hcolon) (by decide)) (Nat.lt_succ_self _) hvalue)

/-! ## What has been written -/

theorem ok_of_bind {α β : Type} {x : Except Fault α} {k : α → Except Fault β} {b : β}
    (h : (x >>= k) = .ok b) : ∃ a, x = .ok a ∧ k a = .ok b := by
  cases x with
  | error e => cases h
  | ok a => exact ⟨a, rfl, h⟩

variable {v : HostValue} {xs : List HostValue} {es : List (HostValue × HostValue)}

theorem writeItems_cons (h : writeItems wire (v :: xs) = .ok ts) :
    ∃ t us, write wire v = .ok t ∧ writeItems wire xs = .ok us ∧ ts = t :: us := by
  unfold writeItems at h
  obtain ⟨t, ht, h⟩ := ok_of_bind h
  obtain ⟨us, hus, h⟩ := ok_of_bind h
  cases h
  exact ⟨t, us, ht, hus, rfl⟩

/-- The texts of the entries of a dictionary. -/
def entryTexts (es : List (HostValue × HostValue)) : Except Fault (List Text) :=
  (writeEntries wire es).mapM (·.2)

theorem entryTexts_cons {k : HostValue} (h : entryTexts ((k, v) :: es) = .ok ts) :
    ∃ key t us, keyText k = .ok key ∧ write wire v = .ok t ∧ entryTexts es = .ok us ∧
      ts = (writeString true key ++ ": " ++ t) :: us := by
  unfold entryTexts writeEntries at h
  rw [List.mapM_cons] at h
  obtain ⟨first, hfirst, h⟩ := ok_of_bind h
  obtain ⟨us, hus, h⟩ := ok_of_bind h
  obtain ⟨key, hkey, hfirst⟩ := ok_of_bind hfirst
  obtain ⟨t, ht, hfirst⟩ := ok_of_bind hfirst
  cases hfirst
  cases h
  exact ⟨key, t, us, hkey, ht, hus, rfl⟩

theorem items_eq_nil (h : writeItems wire xs = .ok ts) : xs = [] ↔ ts = [] := by
  cases xs with
  | nil =>
      cases h
      simp
  | cons v xs =>
      obtain ⟨t, us, -, -, rfl⟩ := writeItems_cons h
      simp

theorem entries_eq_nil (h : entryTexts es = .ok ts) : es = [] ↔ ts = [] := by
  cases es with
  | nil =>
      cases h
      simp
  | cons e es =>
      obtain ⟨key, t, us, -, -, -, rfl⟩ := entryTexts_cons h
      simp

/-! ## Written data -/

mutual

/-- The text that is written for a value is scanned as the tokens of the value. -/
theorem isScannedAs_written : ∀ (v : HostValue) {t : Text}, write wire v = .ok t →
    IsScannedAs t (tokens v)
  | .none, t, h => by
      cases h
      exact isScannedAs_word (by decide) (forall_of_all (by decide))
  | .bool b, t, h => by
      cases h
      cases b with
      | false => exact isScannedAs_word (by decide) (forall_of_all (by decide))
      | true => exact isScannedAs_word (by decide) (forall_of_all (by decide))
  | .int i, t, h => isScannedAs_int h
  | .intMember i, t, h => isScannedAs_int h
  | .float x, t, h => by
      cases h
      exact isScannedAs_float x
  | .str _, t, h => by
      cases h
      exact fun s i j rest hleads hrest => .single (scans_string hleads) (lt_writeString hleads)
  | .strMember _, t, h => by
      cases h
      exact fun s i j rest hleads hrest => .single (scans_string hleads) (lt_writeString hleads)
  | .list xs, t, h => by
      obtain ⟨ts, hts, h⟩ := ok_of_bind h
      cases h
      exact isScannedAs_bracketed (o := '[') (by decide) (.inl rfl)
        (fun hnil => by rw [(items_eq_nil hts).mpr hnil]; rfl) (isScannedAs_items xs hts)
  | .tuple xs, t, h => by
      obtain ⟨ts, hts, h⟩ := ok_of_bind h
      cases h
      exact isScannedAs_bracketed (o := '[') (by decide) (.inl rfl)
        (fun hnil => by rw [(items_eq_nil hts).mpr hnil]; rfl) (isScannedAs_items xs hts)
  | .dict es, t, h => by
      have hentries : ∃ ts, entryTexts es = .ok ts ∧ bracketed "\x7b" "\x7d" ts = t := by
        obtain ⟨ts, hts, h⟩ := ok_of_bind h
        cases h
        exact ⟨ts, hts, rfl⟩
      obtain ⟨ts, hts, rfl⟩ := hentries
      exact isScannedAs_bracketed (o := '\x7b') (by decide) (.inr rfl)
        (fun hnil => by rw [(entries_eq_nil hts).mpr hnil]; rfl) (isScannedAs_entries es hts)

/-- The texts of the items of a list are scanned as the tokens of the items. -/
theorem isScannedAs_items : ∀ (xs : List HostValue) {ts : List Text},
    writeItems wire xs = .ok ts → ts ≠ [] → IsScannedAs (Text.joinWith ", " ts) (itemTokens xs)
  | [], ts, h, hne => by
      cases h
      exact absurd rfl hne
  | v :: xs, ts, h, hne => by
      obtain ⟨t, us, ht, hus, rfl⟩ := writeItems_cons h
      exact isScannedAs_joined (isScannedAs_written v ht) (items_eq_nil hus)
        (fun hnil => by rw [(items_eq_nil hus).mpr hnil]; rfl) (isScannedAs_items xs hus)

/-- The texts of the entries of a dictionary are scanned as the tokens of the entries. -/
theorem isScannedAs_entries : ∀ (es : List (HostValue × HostValue)) {ts : List Text},
    entryTexts es = .ok ts → ts ≠ [] → IsScannedAs (Text.joinWith ", " ts) (entryTokens es)
  | [], ts, h, hne => by
      cases h
      exact absurd rfl hne
  | (k, v) :: es, ts, h, hne => by
      obtain ⟨key, t, us, hkey, ht, hus, rfl⟩ := entryTexts_cons h
      have hstring : keyString k = Utf16.ofText key := by
        unfold keyString
        rw [hkey]
      unfold entryTokens
      rw [hstring]
      exact isScannedAs_joined (isScannedAs_entry (isScannedAs_written v ht)) (entries_eq_nil hus)
        (fun hnil => by rw [(entries_eq_nil hus).mpr hnil]; rfl) (isScannedAs_entries es hus)

end

end ScriptHost.Proofs.DataTokens
