import ScriptHost.Instance.Interpreter
import ScriptHost.Proofs.DataTokens

/-!
# The texts of data

What is written for a value of plain data is ASCII without the zero character, whatever texts the
value holds, so the engine takes it as code.
-/

namespace ScriptHost.Proofs.DataTexts

open Script Json
open ScriptHost.Proofs.DataTokens
open ScriptHost.Proofs.Numerals
open ScriptHost.Proofs.ScannedNumbers
open ScriptHost.Proofs.ScannedStrings
open ScriptHost.Proofs.Scanning (forall_of_all)

variable {t u : Text} {ts : List Text} {ds : List Char}

/-- ASCII without the zero character. -/
def IsClean (t : Text) : Prop := ∀ c ∈ t, 0 < c.val ∧ c.val < 128

/-- Characters of ASCII other than the zero character. -/
def AreClean (ds : List Char) : Prop := ∀ d ∈ ds, 0 < d.toNat ∧ d.toNat < 128

theorem IsClean.append (ht : IsClean t) (hu : IsClean u) : IsClean (t ++ u) := by
  intro c hc
  rcases List.mem_append.mp hc with hc | hc
  · exact ht c hc
  · exact hu c hc

theorem IsClean.ofChars (h : AreClean ds) : IsClean (ds.map CodePoint.ofChar) := by
  intro c hc
  obtain ⟨d, hd, rfl⟩ := List.mem_map.mp hc
  exact h d hd

theorem IsClean.joined {separator : Text} (hseparator : IsClean separator) :
    ∀ {ts : List Text}, (∀ t ∈ ts, IsClean t) → IsClean (Text.joinWith separator ts)
  | [], _ => by simp [IsClean, Text.joinWith]
  | [t], h => h t (by simp)
  | t :: u :: us, h => by
      have hrest := IsClean.joined hseparator (fun w hw => h w (List.mem_cons_of_mem t hw))
      exact ((h t (by simp)).append hseparator).append hrest

/-- The engine takes a clean text as code. -/
theorem checkCode_ok (h : IsClean t) : checkCode t = .ok () := by
  have hscalar : ∀ i, Utf8.firstSurrogate?.go i t = none := by
    induction t with
    | nil => exact fun i => rfl
    | cons c t ih =>
        intro i
        have hc := (h c (by simp)).2
        unfold Utf8.firstSurrogate?.go
        rw [if_neg (by simp only [CodePoint.isSurrogate, Bool.and_eq_true, decide_eq_true_eq]; omega)]
        exact ih (fun d hd => h d (List.mem_cons_of_mem c hd)) (i + 1)
  have hzero : t.any (·.val == 0) = false := by
    rw [List.any_eq_false]
    intro c hc
    have hpos := (h c hc).1
    simp only [beq_iff_eq]
    omega
  unfold checkCode Utf8.firstSurrogate?
  rw [hscalar 0, hzero]
  rfl

/-! ## Numbers -/

theorem AreClean.append {es : List Char} (hds : AreClean ds) (hes : AreClean es) :
    AreClean (ds ++ es) := by
  intro d hd
  rcases List.mem_append.mp hd with hd | hd
  · exact hds d hd
  · exact hes d hd

theorem areClean_digits (h : AllDigits ds) : AreClean ds := by
  intro d hd
  have hbound := toNat_digit (h d hd)
  omega

theorem areClean_cons {d : Char} (hd : 0 < d.toNat ∧ d.toNat < 128) (h : AreClean ds) :
    AreClean (d :: ds) := by
  intro e he
  rcases List.mem_cons.mp he with rfl | he
  · exact hd
  · exact h e he

theorem areClean_sign (negative : Bool) : AreClean (signChars negative) := by
  cases negative with
  | false => simp [AreClean, signChars]
  | true => exact areClean_cons (by decide) (by simp [AreClean])

theorem areClean_numeral {x : Numeral} (hx : x.IsWritten) : AreClean x.chars := by
  have hfraction : AreClean (Numeral.fractionChars x.fraction) := by
    cases hds : x.fraction with
    | none => simp [AreClean, Numeral.fractionChars]
    | some ds => exact areClean_cons (by decide) (areClean_digits (hx.fraction ds hds))
  have hexponent : AreClean (Numeral.exponentChars x.exponent) := by
    cases he : x.exponent with
    | none => simp [AreClean, Numeral.exponentChars]
    | some e =>
        obtain ⟨sign, ds⟩ := e
        obtain ⟨hds, -, hsign⟩ := hx.exponent sign ds he
        have hclean : 0 < sign.toNat ∧ sign.toNat < 128 := by
          rcases hsign with rfl | rfl
          · decide
          · decide
        exact areClean_cons (by decide) (areClean_cons hclean (areClean_digits hds))
  exact (areClean_digits hx.whole).append (hfraction.append hexponent)

theorem isClean_int {n : Int} (h : writeInt n = .ok t) : IsClean t := by
  rw [writeInt_eq h]
  exact .ofChars ((areClean_sign _).append (areClean_numeral (natural_isWritten _)))

theorem isClean_float (x : Float) : IsClean (writeFloat x) := by
  rw [writeFloat_eq]
  refine .ofChars ?_
  cases Binary.Parts.ofFloat x with
  | nan => exact forall_of_all (by decide)
  | infinite negative =>
      exact (areClean_sign negative).append (forall_of_all (by decide))
  | finite negative significand exponent =>
      exact (areClean_sign negative).append (areClean_numeral (magnitude_isWritten _ _))

theorem isClean_bool (b : Bool) : IsClean (writeBool b) := by
  cases b with
  | false => exact fun c hc => by revert c; decide
  | true => exact fun c hc => by revert c; decide

/-! ## Texts -/

theorem digitChar_pos : ∀ n < 16, 0 < (Nat.digitChar n).toNat := by decide

theorem areClean_hexDigits (width n : Nat) : AreClean (Text.hexDigits width n) := by
  induction width generalizing n with
  | zero => simp [AreClean, Text.hexDigits]
  | succ width ih =>
      refine (ih (n / 16)).append fun d hd => ?_
      obtain rfl := List.mem_singleton.mp hd
      exact ⟨digitChar_pos _ (Nat.mod_lt n (by decide)), hexDigit_lt n⟩

theorem isClean_unitEscape (n : Nat) : IsClean (unitEscape n) :=
  .ofChars (areClean_cons (by decide) (areClean_cons (by decide) (areClean_hexDigits 4 n)))

theorem areClean_shortEscapes : ∀ e ∈ shortEscapes, AreClean ['\\', e.2] := by
  refine fun e he => forall_of_all ?_
  revert e
  decide

theorem isClean_written {c : CodePoint} {w : Text} (h : Written c w) : IsClean w := by
  cases h with
  | short he _ => exact .ofChars (areClean_shortEscapes _ he)
  | escaped =>
      unfold pointEscape
      split
      · exact isClean_unitEscape _
      · exact (isClean_unitEscape _).append (isClean_unitEscape _)
  | plain hlow hhigh _ _ =>
      intro d hd
      obtain rfl := List.mem_singleton.mp hd
      omega

theorem isClean_string (t : Text) : IsClean (writeString true t) := by
  have hpoints : IsClean (t.flatMap (writePoint true)) := by
    intro c hc
    obtain ⟨d, _, hd⟩ := List.mem_flatMap.mp hc
    exact isClean_written (written_writePoint d) c hd
  have hquote : IsClean [CodePoint.ofChar '"'] := fun c hc => by revert c; decide
  exact (hquote.append hpoints).append hquote

/-! ## Written data -/

theorem isClean_bracketed {o c : Char} (ho : 0 < o.toNat ∧ o.toNat < 128)
    (hc : 0 < c.toNat ∧ c.toNat < 128) (h : ∀ t ∈ ts, IsClean t) :
    IsClean (bracketed (String.singleton o) (String.singleton c) ts) := by
  have hmark {d : Char} (hd : 0 < d.toNat ∧ d.toNat < 128) :
      IsClean (Text.ofString (String.singleton d)) :=
    .ofChars (by simpa [AreClean] using hd)
  have hseparator : IsClean (Text.ofString ", ") := .ofChars (forall_of_all (by decide))
  exact ((hmark ho).append (.joined hseparator h)).append (hmark hc)

mutual

theorem isClean_write : ∀ (v : HostValue) {t : Text}, write wire v = .ok t → IsClean t
  | .none, t, h => by
      cases h
      exact fun c hc => by revert c; decide
  | .bool b, t, h => by
      cases h
      exact isClean_bool b
  | .int _, t, h => isClean_int h
  | .intMember _, t, h => isClean_int h
  | .float x, t, h => by
      cases h
      exact isClean_float x
  | .str s, t, h => by
      cases h
      exact isClean_string s
  | .strMember s, t, h => by
      cases h
      exact isClean_string s
  | .list xs, t, h => by
      obtain ⟨ts, hts, h⟩ := ok_of_bind h
      cases h
      exact isClean_bracketed (o := '[') (c := ']') (by decide) (by decide) (isClean_writeItems xs hts)
  | .tuple xs, t, h => by
      obtain ⟨ts, hts, h⟩ := ok_of_bind h
      cases h
      exact isClean_bracketed (o := '[') (c := ']') (by decide) (by decide) (isClean_writeItems xs hts)
  | .dict es, t, h => by
      have hentries : ∃ ts, entryTexts es = .ok ts ∧ bracketed "\x7b" "\x7d" ts = t := by
        obtain ⟨ts, hts, h⟩ := ok_of_bind h
        cases h
        exact ⟨ts, hts, rfl⟩
      obtain ⟨ts, hts, rfl⟩ := hentries
      exact isClean_bracketed (o := '\x7b') (c := '\x7d') (by decide) (by decide)
        (isClean_entryTexts es hts)

theorem isClean_writeItems : ∀ (xs : List HostValue) {ts : List Text},
    writeItems wire xs = .ok ts → ∀ t ∈ ts, IsClean t
  | [], ts, h => by
      cases h
      simp
  | v :: xs, ts, h => by
      obtain ⟨t, us, ht, hus, rfl⟩ := writeItems_cons h
      intro w hw
      rcases List.mem_cons.mp hw with rfl | hw
      · exact isClean_write v ht
      · exact isClean_writeItems xs hus w hw

theorem isClean_entryTexts : ∀ (es : List (HostValue × HostValue)) {ts : List Text},
    entryTexts es = .ok ts → ∀ t ∈ ts, IsClean t
  | [], ts, h => by
      cases h
      simp
  | (k, v) :: es, ts, h => by
      obtain ⟨key, t, us, hkey, ht, hus, rfl⟩ := entryTexts_cons h
      intro w hw
      rcases List.mem_cons.mp hw with rfl | hw
      · have hcolon : IsClean (Text.ofString ": ") := .ofChars (forall_of_all (by decide))
        exact ((isClean_string key).append hcolon).append (isClean_write v ht)
      · exact isClean_entryTexts es hus w hw

end

end ScriptHost.Proofs.DataTexts
