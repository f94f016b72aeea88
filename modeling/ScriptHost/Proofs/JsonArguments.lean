import ScriptHost.Proofs.AnsweredLines
import ScriptHost.Proofs.ReadTexts

/-!
# Arguments of the program are JSON

An argument is decoded to what its text means, and is the text itself if it means nothing.  The texts that
mean something are not quite those of JSON: there are words for the floats that JSON has no number for, and
an integer must not be too long.
-/

namespace ScriptHost.Proofs.JsonArguments

open CommandLine Json
open ScriptHost.Proofs.AnsweredLines (not_isJson_capital)
open ScriptHost.Proofs.JsonMeanings
open ScriptHost.Proofs.Numerals (signChars)
open ScriptHost.Proofs.ReadTexts
open ScriptHost.Proofs.ReadTokens
open ScriptHost.Proofs.RoundTrip
open ScriptHost.Proofs.StrictJson

variable {d : Dialect} {raw t s : Text} {v : HostValue} {ds : List Char} {xs : List StringUnit}

/-! ## A text is never its own meaning -/

theorem length_spelled (xs : List StringUnit) : (spelled xs).length ≤ xs.length := by
  induction xs using spelled.induct with
  | case1 => exact Nat.le_refl 0
  | case2 x => exact Nat.le_refl 1
  | case3 x y xs hpair ih =>
      rw [spelled, if_pos hpair]
      simp only [List.length_cons]
      omega
  | case4 x y xs hpair ih =>
      rw [spelled, if_neg hpair]
      simp only [List.length_cons] at ih ⊢
      omega

theorem length_units (h : UnitsMean t xs) : xs.length ≤ t.length := by
  induction h with
  | none => exact Nat.le_refl 0
  | more ht _ ih =>
      have hpos := ht.length_pos
      simp only [List.length_cons, List.length_append]
      omega

/-- A text that means a text is longer than it. -/
theorem length_lt_of_means (hwords : d.words ⊆ words) (h : Means d t (.str s)) : s.length < t.length := by
  have hvalue {t : Text} {v : HostValue} (ht : ValueMeans d t v) (hv : v = .str s) : s.length < t.length := by
    cases ht with
    | @word w hw =>
        have hnone : ∀ w ∈ words, w.2 ≠ .str s := by simp [words]
        exact absurd hv (hnone w (hwords hw))
    | number hnumber =>
        subst hv
        cases hnumber
    | @string t xs hxs =>
        obtain rfl := HostValue.str.inj hv
        have hspelled := length_spelled xs
        have hunits := length_units hxs
        simp only [List.length_cons, List.length_append]
        omega
    | emptyList | list | emptyRecord | record => cases hv
  generalize hv : HostValue.str s = v at h
  cases h with
  | spaced _ h _ =>
      have hlt := hvalue h hv.symm
      simp only [List.length_append]
      omega

/-! ## Decoding -/

theorem decodeArgument_iff : decodeArgument raw = v ↔
    Means .loose raw v ∨ (¬∃ w, Means .loose raw w) ∧ v = .str raw := by
  unfold decodeArgument
  split
  · rename_i w hw
    have hmeans := read_iff_means.mp hw
    constructor
    · rintro rfl
      exact .inl hmeans
    · rintro (h | ⟨h, -⟩)
      · rw [read_iff_means.mpr h] at hw
        exact (Except.ok.inj hw).symm
      · exact absurd ⟨w, hmeans⟩ h
  · rename_i e he
    have hnone : ¬∃ w, Means .loose raw w := by
      rintro ⟨w, hw⟩
      rw [read_iff_means.mpr hw] at he
      cases he
    constructor
    · rintro rfl
      exact .inr ⟨hnone, rfl⟩
    · rintro (h | ⟨-, rfl⟩)
      · exact absurd ⟨v, h⟩ hnone
      · rfl

theorem decodeArguments_one : decodeArguments [raw] = [v] ↔ decodeArgument raw = v := by
  unfold decodeArguments
  simp

/-- An argument is what its text means, else the text.  That this is its meaning in JSON, else the text, is so
exactly if the text is one of JSON just when it means something to the reader, which knows the words for floats
that are infinite or none and no integer that is too long. -/
theorem argument_is_meaning_or_text (raw : Text) :
    (∀ v, decodeArguments [raw] = [v] ↔ Means .loose raw v ∨ (¬∃ w, Means .loose raw w) ∧ v = .str raw) ∧
      ((∀ v, Means .strict raw v → decodeArguments [raw] = [v]) ∧
          (¬IsJson raw → decodeArguments [raw] = [.str raw]) ↔
        (IsJson raw ↔ ∃ v, Means .loose raw v)) := by
  simp only [decodeArguments_one]
  refine ⟨fun v => decodeArgument_iff, ?_⟩
  constructor
  · rintro ⟨hjson, hother⟩
    constructor
    · intro h
      obtain ⟨v, hv⟩ := isJson_iff_means.mp h
      rcases decodeArgument_iff.mp (hjson v hv) with hloose | ⟨-, rfl⟩
      · exact ⟨v, hloose⟩
      · exact absurd (length_lt_of_means (by simp [Dialect.strict, words]) hv) (Nat.lt_irrefl _)
    · rintro ⟨v, hv⟩
      by_contra hnot
      have hdecoded := decodeArgument_iff.mpr (.inl hv)
      rw [hother hnot] at hdecoded
      subst hdecoded
      exact Nat.lt_irrefl _ (length_lt_of_means (fun _ hw => hw) hv)
  · intro hsame
    refine ⟨fun v hv => ?_, fun hnot => ?_⟩
    · obtain ⟨w, hw⟩ := hsame.mp (isJson_iff_means.mpr ⟨v, hv⟩)
      obtain rfl := eq_of_strict hv (read_iff_means.mpr hw)
      exact decodeArgument_iff.mpr (.inl hw)
    · exact decodeArgument_iff.mpr (.inr ⟨mt hsame.mpr hnot, rfl⟩)

/-- A word that is no text of JSON is decoded to a float. -/
theorem nan_argument_is_no_text : ¬IsJson "NaN" ∧ decodeArguments ["NaN"] = [.float Binary.nan] := by
  refine ⟨not_isJson_capital (by decide) _, decodeArguments_one.mpr (decodeArgument_iff.mpr (.inl ?_))⟩
  have hnan : ("NaN", .float Binary.nan) ∈ Dialect.loose.words := by simp [Dialect.loose, words]
  have hmeans := ItemMeans.spaced isBlank_nil (.word hnan) isBlank_nil
  rwa [List.append_nil] at hmeans

theorem readText_long (negative : Bool) (hds : IsWhole ds) (hlong : maxIntegerDigits < ds.length) :
    readText ((signChars negative ++ ds).map CodePoint.ofChar) ≠ .ok v := by
  have hspells := SpellsNumber.parts negative hds .none .none
  rw [List.append_nil, List.append_nil] at hspells
  have hnumber := scanNumber_spells hspells follows_nil
  obtain ⟨c, cs, rfl, hc⟩ := whole_start hds
  obtain ⟨a, u, hstart, hspace, -⟩ := numeral_start negative hc cs
  obtain ⟨next, hread⟩ := readValue_numeral hc hnumber (2 * (a :: u).length + 1) 0
  rw [List.append_nil, hstart] at hread
  rw [hstart, readText_item]
  dsimp only
  split
  · intro h
    cases h
  · unfold readItem
    rw [skipSpace_cons 0 u hspace, hread]
    unfold NumberToken.value
    rw [if_neg (by simp), if_pos (by simpa using hlong)]
    intro h
    cases h

/-- An integer that is too long is a text of JSON, and is decoded to its own text. -/
theorem long_integer_is_text (negative : Bool) (hds : IsWhole ds) (hlong : maxIntegerDigits < ds.length) :
    IsJson ((signChars negative ++ ds).map CodePoint.ofChar) ∧
      decodeArguments [(signChars negative ++ ds).map CodePoint.ofChar] =
        [.str ((signChars negative ++ ds).map CodePoint.ofChar)] := by
  constructor
  · have hnumber := IsNumber.parts (isSign_signChars negative) hds .none .none
    rw [List.append_nil, List.append_nil] at hnumber
    have hjson := IsItem.spaced isBlank_nil (.number hnumber) isBlank_nil
    rwa [List.append_nil] at hjson
  · refine decodeArguments_one.mpr (decodeArgument_iff.mpr (.inr ⟨?_, rfl⟩))
    rintro ⟨v, hv⟩
    exact readText_long negative hds hlong (read_eq_ok_iff.mp (read_iff_means.mpr hv))

end ScriptHost.Proofs.JsonArguments
