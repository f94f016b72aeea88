import ScriptHost.Proofs.DeclaredNames
import ScriptHost.Proofs.JsonData
import ScriptHost.Proofs.JsonMeanings
import ScriptHost.Proofs.RoundTrip

/-!
# Reading the tokens of JSON

What is read of a string, a number or a word is what it means, and each of them is read as a whole if
white space, a comma, a bracket or nothing follows it.
-/

namespace ScriptHost.Proofs.ReadTokens

open Json
open ScriptHost.Proofs.DeclaredNames (startsWith_iff)
open ScriptHost.Proofs.JsonData (Gives)
open ScriptHost.Proofs.JsonMeanings
open ScriptHost.Proofs.Numerals (signChars)
open ScriptHost.Proofs.ReadScalars
open ScriptHost.Proofs.RoundTrip (digit_ascii ne_digit)
open ScriptHost.Proofs.ScannedNumbers
open ScriptHost.Proofs.ScannedStrings (eq_of_ascii)
open ScriptHost.Proofs.Scanning
open ScriptHost.Proofs.StrictJson

variable {opening position fuel n m : Nat} {acc t u rest : Text} {c : CodePoint} {x y : StringUnit}
  {xs : List StringUnit}

/-! ## Units given by number -/

theorem hexValue_lt (h : c.hexValue? = some n) : n < 16 := by
  unfold CodePoint.hexValue? at h
  simp only [Bool.and_eq_true, decide_eq_true_eq] at h
  split_ifs at h
  all_goals
    cases h
    omega

theorem hexFour_lt {a b c d : CodePoint} (h : hexFour? a b c d = some n) : n < 0x10000 := by
  simp only [hexFour?, Option.bind_eq_bind, Option.bind_eq_some_iff, Option.pure_def,
    Option.some.injEq] at h
  obtain ⟨i, hi, j, hj, k, hk, l, hl, rfl⟩ := h
  have hi := hexValue_lt hi
  have hj := hexValue_lt hj
  have hk := hexValue_lt hk
  have hl := hexValue_lt hl
  omega

/-- What is read after a code point given by number that opens no pair. -/
theorem readChars_numbered {a b c d : CodePoint} (hdigits : hexFour? a b c d = some n) (hne : rest ≠ [])
    (halone : 0xD800 ≤ n → n < 0xDC00 → lowHalf? rest = .ok none) :
    readChars opening (fuel + 1) position acc
        (CodePoint.ofChar '\\' :: CodePoint.ofChar 'u' :: a :: b :: c :: d :: rest) =
      readChars opening fuel (position + 6) (CodePoint.ofNat n :: acc) rest := by
  obtain ⟨next, tail, rfl⟩ := List.exists_cons_of_ne_nil hne
  simp only [readChars, hdigits]
  by_cases hhigh : 0xD800 ≤ n ∧ n < 0xDC00
  · simp [ascii_ofChar, hhigh.1, hhigh.2, halone hhigh.1 hhigh.2]
  · have hcondition : (decide (0xD800 ≤ n) && decide (n < 0xDC00)) = false := by simpa using hhigh
    simp [ascii_ofChar, hcondition]

theorem lowHalf_numbered {a b c d : CodePoint} (hdigits : hexFour? a b c d = some n) (hne : rest ≠ []) :
    lowHalf? (CodePoint.ofChar '\\' :: CodePoint.ofChar 'u' :: a :: b :: c :: d :: rest) =
      .ok (if 0xDC00 ≤ n && n < 0xE000 then some (n, rest) else none) := by
  obtain ⟨next, tail, rfl⟩ := List.exists_cons_of_ne_nil hne
  simp only [lowHalf?, hdigits]
  rfl

/-- What is read after two code points given by number that make a pair. -/
theorem readChars_paired (opening fuel position : Nat) (acc : Text) {a b c d a' b' c' d' : CodePoint}
    (hdigits : hexFour? a b c d = some n)
    (hdigits' : hexFour? a' b' c' d' = some m) (hn : 0xD800 ≤ n ∧ n < 0xDC00) (hm : 0xDC00 ≤ m ∧ m < 0xE000)
    (hne : rest ≠ []) :
    readChars opening (fuel + 1) position acc
        (CodePoint.ofChar '\\' :: CodePoint.ofChar 'u' :: a :: b :: c :: d ::
          CodePoint.ofChar '\\' :: CodePoint.ofChar 'u' :: a' :: b' :: c' :: d' :: rest) =
      readChars opening fuel (position + 12)
        (CodePoint.ofNat (0x10000 + (n - 0xD800) * 0x400 + (m - 0xDC00)) :: acc) rest := by
  have hlow := lowHalf_numbered hdigits' hne
  rw [if_pos (by simpa using hm)] at hlow
  simp only [readChars, hdigits, hlow]
  simp [ascii_ofChar, hn.1, hn.2]

theorem isHigh_ofNat (hn : n < 0x10000) :
    (CodePoint.ofNat n).isHighSurrogate = true ↔ 0xD800 ≤ n ∧ n < 0xDC00 := by
  unfold CodePoint.isHighSurrogate
  rw [CodePoint.val_ofNat (by omega)]
  simp

theorem isLow_ofNat (hn : n < 0x10000) :
    (CodePoint.ofNat n).isLowSurrogate = true ↔ 0xDC00 ≤ n ∧ n < 0xE000 := by
  unfold CodePoint.isLowSurrogate
  rw [CodePoint.val_ofNat (by omega)]
  simp

/-! ## Units that are read -/

theorem ascii_ne {a : Char} (ha : a.toNat < 128) (h : c ≠ CodePoint.ofChar a) : c.ascii ≠ a :=
  fun heq => h (eq_of_ascii heq ha)

theorem shortEscape_form {e : Char × Char} (h : e ∈ shortForms) :
    shortEscape? (CodePoint.ofChar e.1) = some e.2 ∧ (CodePoint.ofChar e.1).ascii ≠ 'u' := by
  have hforms : ∀ e ∈ shortForms, shortEscape? (CodePoint.ofChar e.1) = some e.2 ∧
      (CodePoint.ofChar e.1).ascii ≠ 'u' := by
    unfold shortForms
    simp [shortEscape?, ascii_ofChar]
  exact hforms e h

/-- A unit opens a pair with what follows it. -/
def OpensPair (x : StringUnit) : Prop := x.numbered = true ∧ x.point.isHighSurrogate = true

/-- A unit closes a pair with what stands before it. -/
def ClosesPair (x : StringUnit) : Prop := x.numbered = true ∧ x.point.isLowSurrogate = true

/-- A unit that makes no pair with what follows it is read by itself. -/
theorem readChars_unitMeans (h : UnitMeans t x) (hne : rest ≠ [])
    (halone : OpensPair x → lowHalf? rest = .ok none) :
    ∃ next, readChars opening (fuel + 1) position acc (t ++ rest) =
      readChars opening fuel next (x.point :: acc) rest := by
  cases h with
  | @plain c hcontrol hquote hescape =>
      refine ⟨position + 1, ?_⟩
      simp only [List.cons_append, List.nil_append, readChars]
      rw [if_neg (by simpa using ascii_ne (by decide) hquote),
        if_neg (by simpa using ascii_ne (by decide) hescape), if_neg (by omega)]
  | @short e he =>
      obtain ⟨hform, hu⟩ := shortEscape_form he
      refine ⟨position + 2, ?_⟩
      simp only [List.cons_append, List.nil_append, readChars]
      simp [ascii_ofChar, hform, hu]
  | numbered hdigits =>
      refine ⟨position + 6, readChars_numbered hdigits hne fun hlow hhigh => ?_⟩
      exact halone ⟨rfl, (isHigh_ofNat (hexFour_lt hdigits)).mpr ⟨hlow, hhigh⟩⟩

/-- What follows is read as the second half of a pair if and only if its first unit closes one. -/
theorem lowHalf_units (h : UnitsMean u xs) :
    lowHalf? (u ++ CodePoint.ofChar '"' :: rest) = .ok none ↔ ∀ x ∈ xs.head?, ¬ClosesPair x := by
  cases h with
  | none => simpa using lowHalf_unescaped (t := rest) (s := CodePoint.ofChar '"') (by decide)
  | @more t u x xs ht hu =>
      have hne : u ++ CodePoint.ofChar '"' :: rest ≠ [] := by simp
      rw [List.append_assoc]
      simp only [List.head?_cons, Option.mem_def, Option.some.injEq, forall_eq']
      cases ht with
      | @plain c hcontrol hquote hescape =>
          have hnone : lowHalf? (c :: (u ++ CodePoint.ofChar '"' :: rest)) = .ok none :=
            lowHalf_unescaped (ascii_ne (by decide) hescape)
          simpa [ClosesPair] using hnone
      | @short e he =>
          have hnone : lowHalf? (CodePoint.ofChar '\\' :: CodePoint.ofChar e.1 ::
              (u ++ CodePoint.ofChar '"' :: rest)) = .ok none := lowHalf_short (shortEscape_form he).2
          simpa [ClosesPair] using hnone
      | numbered hdigits =>
          simp only [List.cons_append, List.nil_append]
          rw [lowHalf_numbered hdigits hne]
          simp only [ClosesPair, isLow_ofNat (hexFour_lt hdigits), true_and]
          split_ifs with hrange
          · simpa using hrange
          · simpa using hrange

theorem spelled_pair (hx : OpensPair x) (hy : ClosesPair y) :
    spelled (x :: y :: xs) = joinedPair x.point y.point :: spelled xs := by
  obtain ⟨hx, hhigh⟩ := hx
  obtain ⟨hy, hlow⟩ := hy
  rw [spelled, if_pos (by simp [hx, hy, hhigh, hlow])]

theorem spelled_apart (h : OpensPair x → ∀ y ∈ xs.head?, ¬ClosesPair y) :
    spelled (x :: xs) = x.point :: spelled xs := by
  cases xs with
  | nil => rfl
  | cons y xs =>
      rw [spelled, if_neg]
      intro hpair
      simp only [Bool.and_eq_true] at hpair
      obtain ⟨⟨⟨hx, hy⟩, hhigh⟩, hlow⟩ := hpair
      exact h ⟨hx, hhigh⟩ y rfl ⟨hy, hlow⟩

/-- A unit that makes no pair with the units after it is read by itself. -/
theorem readChars_apart (opening fuel position : Nat) (acc rest : Text) (ht : UnitMeans t x) (hu : UnitsMean u xs)
    (hapart : OpensPair x → ∀ y ∈ xs.head?, ¬ClosesPair y) :
    ∃ next, readChars opening (fuel + 1) position acc (t ++ u ++ CodePoint.ofChar '"' :: rest) =
      readChars opening fuel next (x.point :: acc) (u ++ CodePoint.ofChar '"' :: rest) := by
  rw [List.append_assoc]
  exact readChars_unitMeans ht (by simp) fun hopens => (lowHalf_units hu).mpr (hapart hopens)

/-- Units are read as their text, up to the quote after them. -/
theorem readChars_units (h : UnitsMean u xs) (hfuel : u.length < fuel) :
    ∃ next, readChars opening fuel position acc (u ++ CodePoint.ofChar '"' :: rest) =
      .ok (acc.reverse ++ spelled xs, ⟨next, rest⟩) := by
  obtain ⟨fuel, rfl⟩ : ∃ k, fuel = k + 1 := ⟨fuel - 1, by omega⟩
  induction xs using spelled.induct generalizing u fuel position acc with
  | case1 =>
      cases h
      exact ⟨_, by simpa [spelled] using readChars_quote⟩
  | case2 x =>
      cases h with
      | more ht hu =>
          have hpos := ht.length_pos
          rw [List.length_append] at hfuel
          obtain ⟨fuel, rfl⟩ : ∃ k, fuel = k + 1 := ⟨fuel - 1, by omega⟩
          obtain ⟨next, hread⟩ := readChars_apart opening (fuel + 1) position acc rest ht hu (by simp)
          cases hu
          refine ⟨next + 1, hread.trans ?_⟩
          rw [List.nil_append, readChars_quote, List.reverse_cons]
          rfl
  | case3 x y xs hpair ih =>
      simp only [Bool.and_eq_true] at hpair
      obtain ⟨⟨⟨hx, hy⟩, hhigh⟩, hlow⟩ := hpair
      cases h with
      | more ht hu =>
        cases hu with
        | @more t' u y xs ht' hu =>
          cases ht with
          | plain | short => cases hx
          | numbered hdigits =>
            cases ht' with
            | plain | short => cases hy
            | numbered hdigits' =>
              have hn := (isHigh_ofNat (hexFour_lt hdigits)).mp hhigh
              have hm := (isLow_ofNat (hexFour_lt hdigits')).mp hlow
              simp only [List.length_append, List.length_cons] at hfuel
              obtain ⟨fuel, rfl⟩ : ∃ k, fuel = k + 1 := ⟨fuel - 1, by omega⟩
              obtain ⟨next, hread⟩ := @ih (position + 12) (_ :: acc) _ hu fuel (by omega)
              have hpaired := readChars_paired opening (fuel + 1) position acc hdigits hdigits' hn hm
                (show u ++ CodePoint.ofChar '"' :: rest ≠ [] by simp)
              refine ⟨next, hpaired.trans ?_⟩
              rw [hread, spelled_pair ⟨rfl, hhigh⟩ ⟨rfl, hlow⟩, List.reverse_cons, List.append_assoc]
              unfold joinedPair
              rw [CodePoint.val_ofNat (by omega), CodePoint.val_ofNat (by omega), List.singleton_append]
  | case4 x y xs hpair ih =>
      have hapart : OpensPair x → ∀ z ∈ (y :: xs).head?, ¬ClosesPair z := by
        rintro ⟨hx, hhigh⟩ z hz ⟨hz', hlow⟩
        cases hz
        exact hpair (by simp [hx, hhigh, hz', hlow])
      cases h with
      | more ht hu =>
          have hpos := ht.length_pos
          rw [List.length_append] at hfuel
          obtain ⟨fuel, rfl⟩ : ∃ k, fuel = k + 1 := ⟨fuel - 1, by omega⟩
          obtain ⟨start, happly⟩ := readChars_apart opening (fuel + 1) position acc rest ht hu hapart
          obtain ⟨next, hread⟩ := @ih start (x.point :: acc) _ hu fuel (by omega)
          refine ⟨next, ?_⟩
          rw [happly, hread, spelled_apart hapart, List.reverse_cons, List.append_assoc,
            List.singleton_append]

/-- A text is that of units up to the quote after them, after the text that has been read. -/
def Spells (acc t : Text) (r : Text × Cursor) : Prop :=
  ∃ u xs, t = u ++ CodePoint.ofChar '"' :: r.2.rest ∧ UnitsMean u xs ∧ r.1 = acc.reverse ++ spelled xs

namespace Spells

variable {r : Text × Cursor}

theorem unit (ht : UnitMeans u x) (halone : OpensPair x → lowHalf? t = .ok none)
    (h : Spells (x.point :: acc) t r) : Spells acc (u ++ t) r := by
  obtain ⟨w, xs, rfl, hw, hr⟩ := h
  refine ⟨u ++ w, x :: xs, (List.append_assoc _ _ _).symm, .more ht hw, ?_⟩
  rw [hr, spelled_apart fun hopens => (lowHalf_units hw).mp (halone hopens), List.reverse_cons,
    List.append_assoc, List.singleton_append]

theorem pair (ht : UnitMeans t x) (hu : UnitMeans u y) (hx : OpensPair x) (hy : ClosesPair y)
    (h : Spells (joinedPair x.point y.point :: acc) rest r) : Spells acc (t ++ (u ++ rest)) r := by
  obtain ⟨w, xs, rfl, hw, hr⟩ := h
  refine ⟨t ++ (u ++ w), x :: y :: xs, by simp, .more ht (.more hu hw), ?_⟩
  rw [hr, spelled_pair hx hy, List.reverse_cons, List.append_assoc, List.singleton_append]

end Spells

/-- The second half of a pair is given by number. -/
theorem lowHalf_some (h : lowHalf? t = .ok (some (m, rest))) :
    ∃ w, t = w ++ rest ∧ UnitMeans w ⟨.ofNat m, true⟩ ∧ 0xDC00 ≤ m ∧ m < 0xE000 := by
  unfold lowHalf? at h
  split at h
  · rename_i s u a b c d e rest'
    split_ifs at h with hescape
    · simp only [Bool.and_eq_true, beq_iff_eq] at hescape
      split at h
      · cases h
      · rename_i n hdigits
        split_ifs at h with hrange
        · cases h
          simp only [Bool.and_eq_true, decide_eq_true_eq] at hrange
          rw [eq_of_ascii hescape.1 (by decide), eq_of_ascii hescape.2 (by decide)]
          exact ⟨_, rfl, .numbered hdigits, hrange⟩
        · cases h
    · cases h
  · cases h

theorem short_means {ch : Char} (h : shortEscape? c = some ch) :
    UnitMeans [CodePoint.ofChar '\\', c] ⟨.ofChar ch, false⟩ := by
  unfold shortEscape? at h
  split at h
  case h_9 => cases h
  all_goals
    rename_i hc
    obtain rfl := eq_of_ascii hc (by decide)
    obtain rfl := Option.some.inj h
    exact .short (e := (_, _)) (by decide)

/-- What is read inside of quotes is the text of units. -/
theorem readChars_gives (fuel : Nat) :
    ∀ position acc t, Gives (Spells acc t) (readChars opening fuel position acc t) := by
  induction fuel with
  | zero => exact fun _ _ _ => .error
  | succ fuel ih =>
      intro position acc t
      cases t with
      | nil => exact .error
      | cons c t =>
          rw [readChars.eq_def]
          dsimp only
          split_ifs with hquote hescape hcontrol
          · refine .ok ⟨[], [], ?_, .none, by simp [spelled]⟩
            rw [eq_of_ascii (beq_iff_eq.mp hquote) (by decide)]
            rfl
          · rw [eq_of_ascii (beq_iff_eq.mp hescape) (by decide)]
            split
            · exact .error
            rename_i e t
            split_ifs with hnumbered
            · rw [eq_of_ascii (beq_iff_eq.mp hnumbered) (by decide)]
              split
              · rename_i a b c d next tail
                split
                · exact .error
                rename_i n hdigits
                have hunit : UnitMeans _ _ := .numbered hdigits
                have hrange := isHigh_ofNat (hexFour_lt hdigits)
                split_ifs with hhigh
                · simp only [Bool.and_eq_true, decide_eq_true_eq] at hhigh
                  split
                  · exact .error
                  · rename_i low after hlow
                    obtain ⟨w, hw, hsecond, hlow⟩ := lowHalf_some hlow
                    rw [hw]
                    intro r hr
                    refine Spells.pair hunit hsecond ⟨rfl, hrange.mpr hhigh⟩
                      ⟨rfl, (isLow_ofNat (by omega)).mpr hlow⟩ ?_
                    unfold joinedPair
                    rw [CodePoint.val_ofNat (by omega), CodePoint.val_ofNat (by omega)]
                    exact ih _ _ _ r hr
                  · rename_i hnone
                    exact fun r hr => (ih _ _ _ r hr).unit hunit fun _ => hnone
                · refine fun r hr => (ih _ _ _ r hr).unit hunit fun hopens => ?_
                  exact absurd (hrange.mp hopens.2) (by simpa using hhigh)
              · exact .error
            · split
              · rename_i ch hform
                exact fun r hr => (ih _ _ _ r hr).unit (short_means hform) (by simp [OpensPair])
              · exact .error
          · exact .error
          · have hplain : UnitMeans [c] ⟨c, false⟩ := by
              refine .plain (by omega) ?_ ?_
              · rintro rfl
                exact hquote rfl
              · rintro rfl
                exact hescape rfl
            exact fun r hr => (ih _ _ _ r hr).unit hplain (by simp [OpensPair])

/-- A string is read as its text, once its first quote has been read. -/
theorem readString_units (position : Nat) (rest : Text) (h : UnitsMean u xs) :
    ∃ next, readString ⟨position, u ++ CodePoint.ofChar '"' :: rest⟩ = .ok (spelled xs, ⟨next, rest⟩) :=
  readChars_units h (by simp only [List.length_append]; omega)

theorem readString_gives (c : Cursor) : Gives (Spells [] c.rest) (readString c) := readChars_gives _ _ _ _

/-! ## Digits -/

variable {ds f fs e : List Char} {i : Int} {negative : Bool}

theorem digit_ne {a b : Char} (ha : a.isDigit = true) (hb : b.isDigit = false) :
    (CodePoint.ofChar a).ascii ≠ b := by
  rw [digit_ascii ha]
  exact ne_digit ha hb

theorem exists_digits (h : ∀ c ∈ t, c.isDigit = true) : ∃ ds, AllDigits ds ∧ t = ds.map CodePoint.ofChar := by
  induction t with
  | nil => exact ⟨[], by simp [AllDigits], rfl⟩
  | cons c t ih =>
      obtain ⟨hc, ht⟩ := List.forall_mem_cons.mp h
      obtain ⟨ds, hds, rfl⟩ := ih ht
      simp only [CodePoint.isDigit, Bool.and_eq_true, decide_eq_true_eq] at hc
      have hchar : c = CodePoint.ofChar c.ascii := ScannedStrings.eq_ofChar (by omega)
      refine ⟨c.ascii :: ds, ?_, by rw [List.map_cons, ← hchar]⟩
      refine List.forall_mem_cons.mpr ⟨?_, hds⟩
      have hval : c.ascii.toNat = c.val := (congrArg CodePoint.val hchar).symm
      simp only [Char.isDigit, Bool.and_eq_true, decide_eq_true_eq, ge_iff_le, UInt32.le_iff_toNat_le]
      change 48 ≤ c.ascii.toNat ∧ c.ascii.toNat ≤ 57
      omega

/-- The digits at the head of a text. -/
theorem exists_run (t : Text) : ∃ ds, AllDigits ds ∧ t.takeWhile CodePoint.isDigit = ds.map CodePoint.ofChar ∧
    t = ds.map CodePoint.ofChar ++ t.dropWhile CodePoint.isDigit := by
  obtain ⟨ds, hds, hrun⟩ := exists_digits fun c hc => List.mem_takeWhile_imp (l := t) hc
  exact ⟨ds, hds, hrun, by rw [← hrun, List.takeWhile_append_dropWhile]⟩

/-! ## Numbers -/

/-- White space and what separates or closes. -/
def followers : List Char := [' ', '\t', '\n', '\r', ',', ']', '\x7d']

/-- What may follow a value: nothing, white space, or what separates or closes. -/
def Follows (t : Text) : Prop := ∀ c ∈ t.head?, c ∈ followers.map CodePoint.ofChar

theorem follows_nil : Follows [] := by simp [Follows]

theorem follows_cons {a : Char} (ha : a ∈ followers) : Follows (CodePoint.ofChar a :: t) := by
  intro c hc
  cases hc
  exact List.mem_map_of_mem ha

theorem follows_blank (hu : IsBlank u) (ht : Follows t) : Follows (u ++ t) := by
  cases u with
  | nil => exact ht
  | cons c u =>
      intro d hd
      cases hd
      have hblanks : ∀ c ∈ [' ', '\t', '\n', '\r'].map CodePoint.ofChar, c ∈ followers.map CodePoint.ofChar := by
        decide
      exact hblanks c (hu c List.mem_cons_self)

theorem followers_chars : ∀ c ∈ followers.map CodePoint.ofChar,
    c.isDigit = false ∧ c.ascii ≠ '_' ∧ c.ascii ≠ '.' ∧ c.ascii ≠ 'e' ∧ c.ascii ≠ 'E' := by decide

/-- What may follow a number goes on with no digit. -/
theorem Follows.endsDigits (h : Follows t) : EndsDigits t := fun c hc =>
  ⟨(followers_chars c (h c hc)).1, (followers_chars c (h c hc)).2.1⟩

theorem scanWhole_means (h : IsWhole ds) (hrest : EndsDigits rest) :
    scanWhole? (ds.map CodePoint.ofChar ++ rest) = some (ds.map CodePoint.ofChar, rest) := by
  have hwritten : Numeral.IsWritten { whole := ds, fraction := none, exponent := none } := by
    cases h with
    | zero => exact ⟨by simp [AllDigits], by simp, by simp, by simp, by simp⟩
    | digits hds hne hzero =>
        refine ⟨hds, hne, ?_, by simp, by simp⟩
        rintro es rfl
        exact absurd rfl hzero
  exact scanWhole_digits hwritten hrest

theorem scanWhole_some (h : scanWhole? t = some (u, rest)) :
    ∃ ds, IsWhole ds ∧ u = ds.map CodePoint.ofChar ∧ t = u ++ rest := by
  unfold scanWhole? at h
  split at h
  · rename_i c t
    split_ifs at h with hzero hdigit
    · cases h
      obtain rfl := eq_of_ascii (beq_iff_eq.mp hzero) (by decide)
      exact ⟨['0'], .zero, rfl, rfl⟩
    · cases h
      obtain ⟨ds, hds, hrun, ht⟩ := exists_run t
      obtain ⟨es, hes, hc⟩ := exists_digits (t := [c]) (by simpa using hdigit)
      obtain ⟨d, rfl⟩ : ∃ d, es = [d] := List.length_eq_one_iff.mp (by simpa using (congrArg List.length hc).symm)
      obtain rfl : c = CodePoint.ofChar d := by simpa using hc
      have hne : d ≠ '0' := by
        rintro rfl
        exact hzero rfl
      have hdigits : AllDigits (d :: ds) := List.forall_mem_cons.mpr ⟨hes d (by simp), hds⟩
      refine ⟨d :: ds, .digits hdigits (by simp) (by simpa using hne), ?_, ?_⟩
      · rw [hrun, List.map_cons]
      · rw [List.cons_append, List.takeWhile_append_dropWhile]
  · cases h

theorem scanFraction_some (h : scanFraction? t = some (u, rest)) :
    ∃ f fs, FractionMeans f fs ∧ f ≠ [] ∧ u = fs.map CodePoint.ofChar ∧ t = f.map CodePoint.ofChar ++ rest := by
  unfold scanFraction? at h
  split at h
  · rename_i c t
    dsimp only at h
    split_ifs at h with hpoint hdigits
    cases h
    obtain rfl := eq_of_ascii (beq_iff_eq.mp hpoint) (by decide)
    obtain ⟨ds, hds, hrun, ht⟩ := exists_run t
    refine ⟨'.' :: ds, ds, .digits hds ?_, List.cons_ne_nil _ _, hrun, by rw [List.map_cons, List.cons_append, ← ht]⟩
    rintro rfl
    exact hdigits (by rw [hrun]; rfl)
  · cases h

theorem scanFraction_means (h : FractionMeans f fs) (hrest : EndsDigits rest)
    (hpoint : ∀ c ∈ rest.head?, c.ascii ≠ '.') :
    scanFraction? (f.map CodePoint.ofChar ++ rest) =
      if f = [] then none else some (fs.map CodePoint.ofChar, rest) := by
  cases h with
  | none =>
      cases rest with
      | nil => rfl
      | cons c rest => simp [scanFraction?, hpoint c (by simp)]
  | digits hds hne =>
      simp [scanFraction?, ascii_ofChar, takeWhile_digits hds hrest, dropWhile_digits hds hrest, hne]

/-- The sign at the head of an exponent's number, and what follows it. -/
def splitSign (t : Text) : Bool × Text :=
  match t with
  | s :: tail => if s.ascii == '-' then (true, tail) else if s.ascii == '+' then (false, tail) else (false, t)
  | [] => (false, t)

/-- The number of an exponent after its sign, and what follows it. -/
def scanPower? (negative : Bool) (t : Text) : Option (Int × Text) :=
  let digits := t.takeWhile CodePoint.isDigit
  if digits.isEmpty then none
  else some (if negative then -(digitsValue digits : Int) else digitsValue digits, t.dropWhile CodePoint.isDigit)

theorem scanExponent_mark (t : Text) (h : c.ascii = 'e' ∨ c.ascii = 'E') :
    scanExponent? (c :: t) = scanPower? (splitSign t).1 (splitSign t).2 := by
  have hmark : (c.ascii == 'e' || c.ascii == 'E') = true := by simpa using h
  exact if_pos hmark

theorem splitSign_sign (t : Text) : ∃ sign : List Char, t = sign.map CodePoint.ofChar ++ (splitSign t).2 ∧
    ((splitSign t).1 = false ∧ (sign = [] ∨ sign = ['+']) ∨ (splitSign t).1 = true ∧ sign = ['-']) := by
  unfold splitSign
  split
  · split_ifs with hminus hplus
    · rw [eq_of_ascii (beq_iff_eq.mp hminus) (by decide)]
      exact ⟨['-'], rfl, .inr ⟨rfl, rfl⟩⟩
    · rw [eq_of_ascii (beq_iff_eq.mp hplus) (by decide)]
      exact ⟨['+'], rfl, .inl ⟨rfl, .inr rfl⟩⟩
    · exact ⟨[], rfl, .inl ⟨rfl, .inl rfl⟩⟩
  · exact ⟨[], rfl, .inl ⟨rfl, .inl rfl⟩⟩

theorem splitSign_digits (hds : AllDigits ds) (hne : ds ≠ []) (rest : Text) :
    splitSign (ds.map CodePoint.ofChar ++ rest) = (false, ds.map CodePoint.ofChar ++ rest) := by
  obtain ⟨d, ds, rfl⟩ := List.exists_cons_of_ne_nil hne
  have hd := hds d List.mem_cons_self
  unfold splitSign
  rw [List.map_cons, List.cons_append]
  dsimp only
  rw [if_neg (by simpa using digit_ne hd rfl), if_neg (by simpa using digit_ne hd rfl)]

theorem scanPower_some (h : scanPower? negative t = some (i, rest)) :
    ∃ ds, AllDigits ds ∧ ds ≠ [] ∧ t = ds.map CodePoint.ofChar ++ rest ∧
      i = if negative then -(Nat.ofDigitChars 10 ds 0 : Int) else Nat.ofDigitChars 10 ds 0 := by
  obtain ⟨ds, hds, hrun, ht⟩ := exists_run t
  unfold scanPower? at h
  dsimp only at h
  rw [hrun, digitsValue_map] at h
  split at h
  · cases h
  · rename_i hempty
    cases h
    refine ⟨ds, hds, ?_, ht, rfl⟩
    rintro rfl
    exact hempty rfl

theorem scanPower_digits (hds : AllDigits ds) (hne : ds ≠ []) (hrest : EndsDigits rest) :
    scanPower? negative (ds.map CodePoint.ofChar ++ rest) =
      some (if negative then -(Nat.ofDigitChars 10 ds 0 : Int) else Nat.ofDigitChars 10 ds 0, rest) := by
  unfold scanPower?
  dsimp only
  rw [takeWhile_digits hds hrest, dropWhile_digits hds hrest, digitsValue_map]
  exact if_neg (by simpa using hne)

theorem scanExponent_some (h : scanExponent? t = some (i, rest)) :
    ∃ e, ExponentMeans e i ∧ e ≠ [] ∧ t = e.map CodePoint.ofChar ++ rest := by
  cases t with
  | nil => cases h
  | cons c t =>
      by_cases hmark : c.ascii = 'e' ∨ c.ascii = 'E'
      · obtain ⟨m, hm, rfl⟩ : ∃ m, (m = 'e' ∨ m = 'E') ∧ c = CodePoint.ofChar m := by
          rcases hmark with hmark | hmark
          · exact ⟨'e', .inl rfl, eq_of_ascii hmark (by decide)⟩
          · exact ⟨'E', .inr rfl, eq_of_ascii hmark (by decide)⟩
        rw [scanExponent_mark t hmark] at h
        obtain ⟨ds, hds, hne, hrun, hi⟩ := scanPower_some h
        obtain ⟨sign, ht, hsign⟩ := splitSign_sign t
        rw [hrun] at ht
        rcases hsign with ⟨hnegative, hsign⟩ | ⟨hnegative, rfl⟩
        · rw [hnegative, if_neg Bool.false_ne_true] at hi
          subst hi
          exact ⟨m :: (sign ++ ds), .raised hm hsign hds hne, List.cons_ne_nil _ _, by simp [ht]⟩
        · rw [hnegative, if_pos rfl] at hi
          subst hi
          exact ⟨m :: '-' :: ds, .lowered hm hds hne, List.cons_ne_nil _ _, by simp [ht]⟩
      · rw [scanExponent_none (by simpa using hmark)] at h
        cases h

theorem scanExponent_means (h : ExponentMeans e i) (hrest : Follows rest) :
    scanExponent? (e.map CodePoint.ofChar ++ rest) = if e = [] then none else some (i, rest) := by
  have hmarks : ∀ m, m = 'e' ∨ m = 'E' → (CodePoint.ofChar m).ascii = 'e' ∨ (CodePoint.ofChar m).ascii = 'E' := by
    rintro m (rfl | rfl)
    · exact .inl rfl
    · exact .inr rfl
  cases h with
  | none => exact scanExponent_none fun c hc => (followers_chars c (hrest c hc)).2.2.2
  | @raised m sign ds hm hsign hds hne =>
      have hsplit : splitSign ((sign ++ ds).map CodePoint.ofChar ++ rest) =
          (false, ds.map CodePoint.ofChar ++ rest) := by
        rcases hsign with rfl | rfl
        · exact splitSign_digits hds hne rest
        · rfl
      rw [List.map_cons, List.cons_append, scanExponent_mark _ (hmarks m hm), hsplit,
        scanPower_digits hds hne hrest.endsDigits]
      rfl
  | @lowered m ds hm hds hne =>
      have hsplit : splitSign (('-' :: ds).map CodePoint.ofChar ++ rest) =
          (true, ds.map CodePoint.ofChar ++ rest) := rfl
      rw [List.map_cons, List.cons_append, scanExponent_mark _ (hmarks m hm), hsplit,
        scanPower_digits hds hne hrest.endsDigits]
      rfl

theorem exponent_head (h : ExponentMeans e i) (hrest : Follows rest) :
    EndsDigits (e.map CodePoint.ofChar ++ rest) ∧
      ∀ c ∈ (e.map CodePoint.ofChar ++ rest).head?, c.ascii ≠ '.' := by
  have hmarks : ∀ m, m = 'e' ∨ m = 'E' → (CodePoint.ofChar m).isDigit = false ∧
      (CodePoint.ofChar m).ascii ≠ '_' ∧ (CodePoint.ofChar m).ascii ≠ '.' := by
    rintro m (rfl | rfl)
    · decide
    · decide
  cases h with
  | none => exact ⟨hrest.endsDigits, fun c hc => (followers_chars c (hrest c hc)).2.2.1⟩
  | raised hm | lowered hm =>
      refine ⟨fun c hc => ?_, fun c hc => ?_⟩
      · cases hc
        exact ⟨(hmarks _ hm).1, (hmarks _ hm).2.1⟩
      · cases hc
        exact (hmarks _ hm).2.2

theorem fraction_head (h : FractionMeans f fs) (hrest : EndsDigits rest) :
    EndsDigits (f.map CodePoint.ofChar ++ rest) := by
  cases h with
  | none => exact hrest
  | digits =>
      intro c hc
      cases hc
      decide

theorem scanUnsigned_means (negative : Bool) (hds : IsWhole ds) (hf : FractionMeans f fs)
    (he : ExponentMeans e i) (hrest : Follows rest) :
    scanUnsigned? negative ((ds ++ (f ++ e)).map CodePoint.ofChar ++ rest) =
      some ({ negative, whole := ds.map CodePoint.ofChar, fraction := fs.map CodePoint.ofChar, exponent := i
              isFloat := decide (f ≠ [] ∨ e ≠ []) }, rest) := by
  obtain ⟨hends, hpoint⟩ := exponent_head he hrest
  have hwhole := scanWhole_means hds (fraction_head hf hends)
  have hfraction := scanFraction_means hf hends hpoint
  have hexponent := scanExponent_means he hrest
  unfold scanUnsigned?
  rw [List.map_append, List.map_append, List.append_assoc, List.append_assoc, hwhole]
  simp only [Option.bind_eq_bind, Option.bind_some, hfraction]
  by_cases hf' : f = []
  · obtain ⟨rfl, rfl⟩ : f = [] ∧ fs = [] := by
      cases hf
      · exact ⟨rfl, rfl⟩
      · cases hf'
    rw [if_pos rfl]
    simp only [List.map_nil, List.nil_append, hexponent]
    by_cases he' : e = []
    · obtain rfl : i = 0 := by
        subst he'
        cases he
        rfl
      simp [he']
    · simp [he']
  · rw [if_neg hf']
    simp only [hexponent]
    by_cases he' : e = []
    · obtain rfl : i = 0 := by
        subst he'
        cases he
        rfl
      simp [he', hf']
    · simp [he', hf']

theorem scanUnsigned_some {token : NumberToken} (h : scanUnsigned? negative t = some (token, rest)) :
    ∃ ds f fs e n, IsWhole ds ∧ FractionMeans f fs ∧ ExponentMeans e n ∧
      t = (ds ++ (f ++ e)).map CodePoint.ofChar ++ rest ∧
      token = { negative, whole := ds.map CodePoint.ofChar, fraction := fs.map CodePoint.ofChar, exponent := n
                isFloat := decide (f ≠ [] ∨ e ≠ []) } := by
  unfold scanUnsigned? at h
  simp only [Option.bind_eq_bind, Option.bind_eq_some_iff] at h
  obtain ⟨⟨whole, t'⟩, hwhole, h⟩ := h
  obtain ⟨ds, hds, rfl, rfl⟩ := scanWhole_some hwhole
  dsimp only at h
  cases hfraction : scanFraction? t' with
  | none =>
      rw [hfraction] at h
      dsimp only at h
      cases hexponent : scanExponent? t' with
      | none =>
          rw [hexponent] at h
          cases h
          exact ⟨ds, [], [], [], 0, hds, .none, .none, by simp, by simp⟩
      | some r =>
          rw [hexponent] at h
          cases h
          obtain ⟨e, he, hne, rfl⟩ := scanExponent_some hexponent
          exact ⟨ds, [], [], e, r.1, hds, .none, he, by simp, by simp [hne]⟩
  | some p =>
      rw [hfraction] at h
      obtain ⟨f, fs, hf, hne, hfs, rfl⟩ := scanFraction_some hfraction
      dsimp only at h
      cases hexponent : scanExponent? p.2 with
      | none =>
          rw [hexponent] at h
          cases h
          exact ⟨ds, f, fs, [], 0, hds, hf, .none, by simp, by simp [hne, hfs]⟩
      | some r =>
          rw [hexponent] at h
          cases h
          obtain ⟨e, he, hne', ht⟩ := scanExponent_some hexponent
          exact ⟨ds, f, fs, e, r.1, hds, hf, he, by simp [ht], by simp [hne, hfs]⟩

/-- A number as it is written spells the token that is read for it. -/
inductive SpellsNumber : List Char → NumberToken → Prop
  | parts {ds f fs e : List Char} {i : Int} (negative : Bool) (hds : IsWhole ds) (hf : FractionMeans f fs)
    (he : ExponentMeans e i) :
    SpellsNumber (signChars negative ++ (ds ++ (f ++ e)))
      { negative, whole := ds.map CodePoint.ofChar, fraction := fs.map CodePoint.ofChar, exponent := i
        isFloat := decide (f ≠ [] ∨ e ≠ []) }

variable {token : NumberToken} {d : Dialect} {v : HostValue}

theorem scanNumber_some (h : scanNumber? t = some (token, rest)) :
    ∃ ds, SpellsNumber ds token ∧ t = ds.map CodePoint.ofChar ++ rest := by
  cases t with
  | nil => cases h
  | cons c t =>
      by_cases hsign : c.ascii = '-'
      · obtain rfl := eq_of_ascii hsign (by decide)
        rw [scanNumber_signed] at h
        obtain ⟨ds, f, fs, e, i, hds, hf, he, rfl, rfl⟩ := scanUnsigned_some h
        exact ⟨_, .parts true hds hf he, rfl⟩
      · rw [scanNumber_unsigned t hsign] at h
        obtain ⟨ds, f, fs, e, i, hds, hf, he, ht, rfl⟩ := scanUnsigned_some h
        exact ⟨_, .parts false hds hf he, ht⟩

theorem whole_start (h : IsWhole ds) : ∃ c cs, ds = c :: cs ∧ c.isDigit = true := by
  cases h with
  | zero => exact ⟨_, _, rfl, rfl⟩
  | digits hds hne =>
      obtain ⟨c, cs, rfl⟩ := List.exists_cons_of_ne_nil hne
      exact ⟨c, cs, rfl, hds c List.mem_cons_self⟩

/-- A number starts with a digit, after its sign. -/
theorem number_start (h : SpellsNumber ds token) :
    ∃ negative c cs, ds = signChars negative ++ c :: cs ∧ c.isDigit = true := by
  cases h with
  | parts negative hds =>
      obtain ⟨c, cs, rfl, hc⟩ := whole_start hds
      exact ⟨negative, c, _, rfl, hc⟩

theorem scanNumber_spells (h : SpellsNumber ds token) (hrest : Follows rest) :
    scanNumber? (ds.map CodePoint.ofChar ++ rest) = some (token, rest) := by
  cases h with
  | @parts ds f fs e i negative hds hf he =>
      have hread := scanUnsigned_means negative hds hf he hrest
      cases negative with
      | true => exact (scanNumber_signed _).trans hread
      | false =>
          obtain ⟨c, cs, rfl, hc⟩ := whole_start hds
          exact (scanNumber_unsigned _ (digit_ne hc rfl)).trans hread

/-- The value of a token is what the number means. -/
theorem value_gives (h : SpellsNumber ds token) : Gives (NumberMeans .loose ds) token.value := by
  cases h with
  | @parts ds f fs e i negative hds hf he =>
      unfold NumberToken.value
      dsimp only
      by_cases hfloat : f ≠ [] ∨ e ≠ []
      · rw [if_pos (decide_eq_true hfloat)]
        have hvalue := NumberMeans.float (d := .loose) negative hds hf he hfloat
        unfold NumberToken.toFloat
        rw [← List.map_append, digitsValue_map, List.length_map]
        exact .ok hvalue
      · rw [if_neg (by simpa using hfloat)]
        simp only [not_or, not_not] at hfloat
        obtain ⟨rfl, rfl⟩ := hfloat
        split
        · exact .error
        · rename_i hlong
          have hadmits : Dialect.loose.Admits ds.length := by
            rintro n ⟨⟩
            simpa using hlong
          rw [digitsValue_map, List.append_nil, List.append_nil]
          exact .ok (.integer negative hds hadmits)

/-- The token of a number has the value that the number means, if it has one. -/
theorem number_spells (h : NumberMeans d ds v) : ∃ token, SpellsNumber ds token ∧
    (token.value = .ok v ∨ ∃ n, maxIntegerDigits < n ∧ d.Admits n ∧ token.value = .error (.tooManyDigits n)) := by
  cases h with
  | @integer ds negative hds hadmits =>
      have hspells := SpellsNumber.parts negative hds .none .none
      rw [List.append_nil, List.append_nil] at hspells
      refine ⟨_, hspells, ?_⟩
      unfold NumberToken.value
      dsimp only
      rw [if_neg (by simp), List.length_map, digitsValue_map]
      split
      · rename_i hlong
        exact .inr ⟨_, hlong, hadmits, rfl⟩
      · exact .inl rfl
  | float negative hds hf he hsome =>
      refine ⟨_, .parts negative hds hf he, .inl ?_⟩
      unfold NumberToken.value NumberToken.toFloat
      dsimp only
      rw [if_pos (decide_eq_true hsome), ← List.map_append, digitsValue_map, List.length_map]

/-! ## Words -/

theorem scanWord_some (h : scanWord? t = some (v, n, rest)) :
    ∃ w ∈ words, t = Text.ofString w.1 ++ rest ∧ v = w.2 := by
  obtain ⟨w, hw, hv⟩ := List.exists_of_findSome?_eq_some h
  dsimp only at hv
  split_ifs at hv with hstart
  cases hv
  obtain ⟨u, rfl⟩ := startsWith_iff.mp hstart
  exact ⟨w, hw, by rw [List.drop_left], rfl⟩

end ScriptHost.Proofs.ReadTokens
