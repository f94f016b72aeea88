import ScriptHost.Proofs.IntactTexts
import ScriptHost.Proofs.RoundTrip

/-!
# Texts that the engine puts in quotes

The engine writes a text as data with other escapes than the host: only what has to be escaped is.
What it writes crosses the boundary whatever the text is, and the host reads the text back.
-/

namespace ScriptHost.Proofs.QuotedTexts

open Json Script
open Script.Library.JsonText (quoted quotedPoint)
open ScriptHost.Proofs.IntactTexts
open ScriptHost.Proofs.ReadScalars
open ScriptHost.Proofs.RoundTrip
open ScriptHost.Proofs.Scanning
open ScriptHost.Proofs.ScannedStrings

variable {opening position fuel : Nat} {c d : CodePoint} {t acc rest w : Text}

/-- A code point as the engine writes it inside quotes. -/
def pointText (c : CodePoint) : Text :=
  if c.isSurrogate then unitEscape c.val else writePoint false c

/-- A text as the engine writes it. -/
def quotedText (t : Text) : Text :=
  CodePoint.ofChar '"' :: t.flatMap pointText ++ [CodePoint.ofChar '"']

/-- How the engine writes a code point: characters that control something by one of the short escapes
or by number, surrogates by number, and everything else as it is. -/
inductive Shown (c : CodePoint) : Text → Prop
  | short {e : Char × Char} (he : e ∈ shortEscapes) (hc : c = CodePoint.ofChar e.1) :
    Shown c [CodePoint.ofChar '\\', CodePoint.ofChar e.2]
  | unit (h : c.val < 0x20 ∨ c.isSurrogate = true) : Shown c (unitEscape c.val)
  | plain (hlow : 0x20 ≤ c.val) (hscalar : c.IsScalar) (hquote : c.ascii ≠ '"')
    (hback : c.ascii ≠ '\\') : Shown c [c]

theorem shown_pointText (c : CodePoint) : Shown c (pointText c) := by
  unfold pointText
  split
  · rename_i hsurrogate
    exact .unit (.inr hsurrogate)
  · rename_i hscalar
    unfold writePoint
    split
    case h_8 hquote hback _ _ _ _ _ =>
      split
      · rename_i hlow
        unfold pointEscape
        rw [if_pos (by omega)]
        exact .unit (.inl hlow)
      · rw [if_neg (by simp)]
        exact .plain (by omega) (by simpa [CodePoint.IsScalar] using hscalar) hquote hback
    all_goals
      rename_i hc
      exact .short (e := (_, _)) (by decide) (eq_of_ascii hc (by decide))

theorem toNat_surrogate (h : c.isSurrogate = true) : 0xD800 ≤ c.val ∧ c.val < 0xE000 := by
  simpa [CodePoint.isSurrogate] using h

/-! ## In units -/

theorem encode_unitEscape (n : Nat) :
    Utf16.encode (unitEscape n) = Library.JsonText.unitEscape n := by
  have hdigit : ∀ k < 16, Utf16.encodePoint (CodePoint.ofChar (Nat.digitChar k)) =
      [(Script.Number.digitChar k).toNat.toUInt16] := by decide
  have hsame : ∀ m : Nat, Utf16.encodePoint (CodePoint.ofChar (Text.hexDigit m)) =
      [(Script.Number.digitChar (m % 16)).toNat.toUInt16] :=
    fun m => hdigit (m % 16) (Nat.mod_lt m (by decide))
  have hbackslash : Utf16.encodePoint (CodePoint.ofChar '\\') = [0x5C] := by decide
  have hletter : Utf16.encodePoint (CodePoint.ofChar 'u') = [0x75] := by decide
  have hdivide : n / 256 / 16 = n / 4096 ∧ n / 16 / 16 = n / 256 := by omega
  simp only [unitEscape, Text.hexDigits, Utf16.encode, List.nil_append, List.map_cons, List.map_nil,
    List.cons_append, List.flatMap_cons, List.flatMap_nil, hsame, hbackslash, hletter,
    hdivide.1, hdivide.2, Library.JsonText.unitEscape]

theorem encode_pointText (c : CodePoint) : Utf16.encode (pointText c) = quotedPoint c := by
  unfold quotedPoint
  split
  case h_8 htab hreturn hfeed hback hform hquote hslash =>
    unfold pointText
    by_cases hsurrogate : c.isSurrogate = true
    · rw [if_pos hsurrogate, if_pos (by simp [hsurrogate]), encode_unitEscape]
    · rw [if_neg hsurrogate]
      have hwritten : writePoint false c = if c.val < 0x20 then pointEscape c else [c] := by
        unfold writePoint
        split <;> first | contradiction | simp
      rw [hwritten]
      by_cases hlow : c.val < 0x20
      · rw [if_pos hlow, if_pos (by simp [hlow]), pointEscape, if_pos (by omega), encode_unitEscape]
      · rw [if_neg hlow, if_neg (by simpa [hsurrogate] using hlow)]
        simp [Utf16.encode]
  all_goals
    rename_i hc
    obtain rfl := eq_of_ascii hc (by decide)
    decide

/-- What the engine writes for a text. -/
theorem quoted_eq (s : Utf16) : quoted s = Utf16.ofText (quotedText s.toText) := by
  have hfold : ∀ (t : Text) (us : Array UInt16),
      t.foldl (fun us c => (quotedPoint c).foldl Array.push us) us =
        us ++ (Utf16.encode (t.flatMap pointText)).toArray := by
    intro t
    induction t with
    | nil => simp [Utf16.encode]
    | cons c t ih =>
        intro us
        rw [List.foldl_cons, ih, ← encode_pointText, List.flatMap_cons, Utf16.encode, Utf16.encode,
          Utf16.encode, List.flatMap_append]
        simp
  have hquote : Utf16.encodePoint (CodePoint.ofChar '"') = [0x22] := by decide
  have hunits : (quoted s).units = (Utf16.ofText (quotedText s.toText)).units := by
    rw [ofText_units]
    unfold quoted quotedText
    rw [hfold]
    simp [Utf16.encode, hquote]
  exact Utf16.mk.injEq _ _ ▸ hunits

/-! ## Across the boundary -/

theorem isIntact_unitEscape (n : Nat) : IsIntact (unitEscape n) := by
  refine isIntact_of_plain fun c hc => ?_
  have hdigit : ∀ k < 16, 0 < (Nat.digitChar k).toNat ∧ (Nat.digitChar k).toNat < 128 := by decide
  have hhex : ∀ m, 0 < (Text.hexDigit m).toNat ∧ (Text.hexDigit m).toNat < 128 :=
    fun m => hdigit _ (Nat.mod_lt _ (by decide))
  obtain ⟨a, ha, rfl⟩ := List.mem_map.mp hc
  simp only [Text.hexDigits, List.nil_append, List.cons_append, List.mem_cons, List.not_mem_nil,
    or_false] at ha
  rw [val_ofChar]
  rcases ha with rfl | rfl | rfl | rfl | rfl | rfl
  · decide
  · decide
  all_goals exact hhex _

theorem isIntact_shown (h : Shown c w) : IsIntact w := by
  cases h with
  | short he hc =>
      refine isIntact_of_plain fun d hd => ?_
      have hescapes : ∀ e ∈ shortEscapes, 0 < e.2.toNat ∧ e.2.toNat < 128 := by decide
      rcases List.mem_pair.mp hd with rfl | rfl
      · decide
      · exact hescapes _ he
  | unit => exact isIntact_unitEscape _
  | plain hlow hscalar =>
      refine ⟨fun d hd => ?_, fun d hd => ?_⟩
      · obtain rfl := List.mem_singleton.mp hd
        exact hscalar
      · obtain rfl := List.mem_singleton.mp hd
        omega

/-- What the engine writes for a text crosses the boundary, whatever the text is. -/
theorem isIntact_quotedText (t : Text) : IsIntact (quotedText t) := by
  have hquote : IsIntact [CodePoint.ofChar '"'] := isIntact_of_plain (forall_of_all (by decide))
  have hinside : IsIntact (t.flatMap pointText) := by
    induction t with
    | nil => exact isIntact_of_plain (by simp)
    | cons c t ih => exact (isIntact_shown (shown_pointText c)).append ih
  exact (hquote.append hinside).append hquote

/-! ## Read back -/

/-- No two neighbours in a text are a pair of surrogates. -/
def IsApart (t : Text) : Prop :=
  t.IsChain fun c d => (c.isHighSurrogate && d.isLowSurrogate) = false

instance (t : Text) : Decidable (IsApart t) := inferInstanceAs (Decidable (List.IsChain _ t))

theorem isApart_of_scalar (h : t.IsScalar) : IsApart t := by
  refine List.isChain_iff_getElem.mpr fun i hi => ?_
  have hc : t[i].IsScalar := h _ (List.getElem_mem _)
  have hhigh : t[i].isHighSurrogate = false := by
    simp only [CodePoint.IsScalar, CodePoint.isSurrogate, CodePoint.isHighSurrogate,
      Bool.and_eq_false_iff, decide_eq_false_iff_not] at hc ⊢
    omega
  simp [hhigh]

theorem isApart_cons (h : ∀ d ∈ t.head?, (c.isHighSurrogate && d.isLowSurrogate) = false)
    (ht : IsApart t) : IsApart (c :: t) := by
  cases t with
  | nil => exact .singleton _
  | cons d t => exact .cons_cons (h d rfl) ht

theorem joinPair_large (u v : UInt16) : 0xE000 ≤ (Utf16.joinPair u v).val := by
  unfold Utf16.joinPair CodePoint.ofNat
  split
  · dsimp only
    omega
  · decide

theorem val_unit (u : UInt16) : (CodePoint.ofNat u.toNat).val = u.toNat :=
  CodePoint.val_ofNat (by have := u.toNat_lt; omega)

/-- What a text starts with closes no pair if its first unit closes none. -/
theorem head_decode {u : UInt16} (hu : Utf16.isLow u = false) (us : List UInt16) :
    ∀ d ∈ (Utf16.decode (u :: us)).head?, d.isLowSurrogate = false := by
  have hunit : (CodePoint.ofNat u.toNat).isLowSurrogate = false := by
    unfold CodePoint.isLowSurrogate
    rw [val_unit]
    exact hu
  intro d hd
  cases us with
  | nil =>
      obtain rfl := Option.some.inj hd
      exact hunit
  | cons v us =>
      unfold Utf16.decode at hd
      split at hd
      · obtain rfl := Option.some.inj hd
        have hlarge := joinPair_large u v
        simp only [CodePoint.isLowSurrogate, Bool.and_eq_false_iff, decide_eq_false_iff_not]
        omega
      · obtain rfl := Option.some.inj hd
        exact hunit

/-- A text of the engine has its pairs joined. -/
theorem isApart_toText (s : Utf16) : IsApart s.toText := by
  unfold Utf16.toText
  generalize s.units.toList = us
  induction us using Utf16.decode.induct with
  | case1 => exact .nil
  | case2 u => exact .singleton _
  | case3 u v rest hpair ih =>
      rw [Utf16.decode, if_pos hpair]
      refine isApart_cons (fun d _ => ?_) ih
      have hlarge := joinPair_large u v
      simp only [CodePoint.isHighSurrogate, Bool.and_eq_false_iff, decide_eq_false_iff_not]
      omega
  | case4 u v rest hpair ih =>
      rw [Utf16.decode, if_neg hpair]
      refine isApart_cons (fun d hd => ?_) ih
      have hhigh : (CodePoint.ofNat u.toNat).isHighSurrogate = Utf16.isHigh u := by
        unfold CodePoint.isHighSurrogate Utf16.isHigh
        rw [val_unit]
      rw [hhigh]
      cases hu : Utf16.isHigh u with
      | false => rfl
      | true => exact head_decode (by simpa [hu] using hpair) rest d hd

theorem lowHalf_shown (hw : Shown d w) (hlow : d.isLowSurrogate = false) :
    lowHalf? (w ++ rest) = .ok none := by
  cases hw with
  | short he hd => exact lowHalf_written (.short he hd) hlow
  | unit h =>
      refine lowHalf_unit ?_ ?_
      · rcases h with hsmall | hsurrogate
        · omega
        · have := toNat_surrogate hsurrogate
          omega
      · simpa [CodePoint.isLowSurrogate] using hlow
  | plain _ _ _ hback => exact lowHalf_unescaped hback

variable (opening position fuel acc) in
theorem readChars_shown (hw : Shown c w) (hne : rest ≠ [])
    (hapart : c.isHighSurrogate = true → lowHalf? rest = .ok none) :
    ∃ next, readChars opening (fuel + 1) position acc (w ++ rest) =
      readChars opening fuel next (c :: acc) rest := by
  cases hw with
  | short he hc =>
      refine ⟨position + 2, ?_⟩
      subst hc
      simp only [shortEscapes, List.mem_cons, List.not_mem_nil, or_false] at he
      rcases he with rfl | rfl | rfl | rfl | rfl | rfl | rfl
      all_goals
        simp [readChars, ascii_ofChar, shortEscape?]
  | unit h =>
      refine ⟨position + 6, ?_⟩
      have hsmall : c.val < 0x10000 := by
        rcases h with hlow | hsurrogate
        · omega
        · have := toNat_surrogate hsurrogate
          omega
      rw [readChars_unit hsmall hne fun hfrom hto =>
        hapart (by simp [CodePoint.isHighSurrogate, hfrom, hto]), CodePoint.ofNat_val]
  | plain hlow hscalar hquote hback =>
      refine ⟨position + 1, ?_⟩
      simp only [List.cons_append, List.nil_append, readChars]
      rw [if_neg (by simpa using hquote), if_neg (by simpa using hback), if_neg (by omega)]

/-- A text without pairs of surrogates is read back up to the quote that ends it. -/
theorem readChars_quoted (h : IsApart t) (hfuel : t.length < fuel) :
    ∃ next, readChars opening fuel position acc
        (t.flatMap pointText ++ CodePoint.ofChar '"' :: rest) =
      .ok (acc.reverse ++ t, ⟨next, rest⟩) := by
  induction t generalizing fuel position acc with
  | nil =>
      obtain ⟨fuel, rfl⟩ : ∃ n, fuel = n + 1 := ⟨fuel - 1, by omega⟩
      exact ⟨_, by simpa using readChars_quote⟩
  | cons c t ih =>
      obtain ⟨fuel, rfl⟩ : ∃ n, fuel = n + 1 := ⟨fuel - 1, by omega⟩
      have hrest : IsApart t := h.of_cons
      have hapart : c.isHighSurrogate = true →
          lowHalf? (t.flatMap pointText ++ CodePoint.ofChar '"' :: rest) = .ok none := by
        intro hhigh
        cases t with
        | nil => exact lowHalf_unescaped (by decide)
        | cons d t =>
            rw [List.flatMap_cons, List.append_assoc]
            have hpair := (List.isChain_cons_cons.mp h).1
            exact lowHalf_shown (shown_pointText d) (by simpa [hhigh] using hpair)
      obtain ⟨start, hpoint⟩ := readChars_shown opening position fuel acc (shown_pointText c)
        (by simp) hapart
      obtain ⟨next, hread⟩ := @ih start fuel (c :: acc) hrest (by simp at hfuel; omega)
      refine ⟨next, ?_⟩
      rw [List.flatMap_cons, List.append_assoc, hpoint, hread, List.reverse_cons, List.append_assoc,
        List.singleton_append]

theorem length_shown (h : Shown c w) : 0 < w.length := by
  cases h with
  | short => simp
  | unit => simp [unitEscape]
  | plain => simp

theorem length_le_quoted (t : Text) : t.length ≤ (t.flatMap pointText).length := by
  induction t with
  | nil => exact Nat.le_refl 0
  | cons c t ih =>
      have hpos := length_shown (shown_pointText c)
      rw [List.flatMap_cons, List.length_append, List.length_cons]
      omega

theorem readString_quoted (h : IsApart t) (position : Nat) (rest : Text) :
    ∃ next, readString ⟨position, t.flatMap pointText ++ CodePoint.ofChar '"' :: rest⟩ =
      .ok (t, ⟨next, rest⟩) := by
  have hlength := length_le_quoted t
  exact readChars_quoted h (by simp only [List.length_append]; omega)

/-- The host reads the text back. -/
theorem isReadAs_quoted (h : IsApart t) : IsReadAs (quotedText t) (.str t) := by
  refine ⟨⟨_, _, rfl, by decide, by decide⟩, fun fuel position rest hfuel _ => ?_⟩
  have hpos : 0 < (quotedText t).length := by simp [quotedText]
  obtain ⟨fuel, rfl⟩ : ∃ n, fuel = n + 1 := ⟨fuel - 1, by omega⟩
  obtain ⟨next, hread⟩ := readString_quoted h (position + 1) rest
  refine ⟨next, ?_⟩
  have htext : quotedText t ++ rest = CodePoint.ofChar '"' ::
      (t.flatMap pointText ++ CodePoint.ofChar '"' :: rest) := by simp [quotedText]
  rw [htext]
  exact readValue_string hread

end ScriptHost.Proofs.QuotedTexts
