import ScriptHost.Proofs.NormalForms
import ScriptHost.Proofs.StrictJson

/-!
# What JSON texts mean

The grammar of JSON with the value that each of its texts stands for.  A dialect may know more words
than JSON, and may bound the digits of an integer.  Every text of the strict grammar has a meaning.
-/

namespace ScriptHost.Proofs.JsonMeanings

open Json
open ScriptHost.Proofs.NormalForms (gathered)
open ScriptHost.Proofs.Numerals (signChars)
open ScriptHost.Proofs.ReadScalars (joinedPair)
open ScriptHost.Proofs.ScannedNumbers (AllDigits)
open ScriptHost.Proofs.StrictJson
open ScriptHost.Proofs.TextTrees (textEntries)

/-! ## Dialects -/

structure Dialect where
  words : List (String × HostValue)
  /-- The greatest number of digits of an integer. -/
  maxDigits : Option Nat

namespace Dialect

/-- JSON itself: three words, and integers of any length. -/
def strict : Dialect :=
  { words := [("null", .none), ("true", .bool true), ("false", .bool false)], maxDigits := none }

/-- The dialect with words for the floats that are infinite or no number. -/
def loose : Dialect := { words := Json.words, maxDigits := some maxIntegerDigits }

def Admits (d : Dialect) (digits : Nat) : Prop := ∀ n, d.maxDigits = some n → digits ≤ n

end Dialect

/-! ## Meanings -/

/-- A unit of a string: the code point it stands for, and whether it is given by number. -/
structure StringUnit where
  point : CodePoint
  numbered : Bool

/-- The text of some units; halves of a pair that are both given by number make one code point. -/
def spelled : List StringUnit → Text
  | [] => []
  | [x] => [x.point]
  | x :: y :: rest =>
    if x.numbered && y.numbered && x.point.isHighSurrogate && y.point.isLowSurrogate then
      joinedPair x.point y.point :: spelled rest
    else x.point :: spelled (y :: rest)

/-- The characters after the backslash of a short escape, with what they stand for. -/
def shortForms : List (Char × Char) :=
  [('"', '"'), ('\\', '\\'), ('/', '/'), ('b', '\x08'), ('f', '\x0c'), ('n', '\n'), ('r', '\r'), ('t', '\t')]

inductive UnitMeans : Text → StringUnit → Prop
  | plain {c : CodePoint} (hcontrol : 0x20 ≤ c.val) (hquote : c ≠ .ofChar '"') (hescape : c ≠ .ofChar '\\') :
    UnitMeans [c] ⟨c, false⟩
  | short {e : Char × Char} (h : e ∈ shortForms) :
    UnitMeans [.ofChar '\\', .ofChar e.1] ⟨.ofChar e.2, false⟩
  | numbered {a b c d : CodePoint} {n : Nat} (h : hexFour? a b c d = some n) :
    UnitMeans [.ofChar '\\', .ofChar 'u', a, b, c, d] ⟨.ofNat n, true⟩

/-- What stands between the quotes of a string. -/
inductive UnitsMean : Text → List StringUnit → Prop
  | none : UnitsMean [] []
  | more {t u : Text} {x : StringUnit} {xs : List StringUnit} (ht : UnitMeans t x) (hu : UnitsMean u xs) :
    UnitsMean (t ++ u) (x :: xs)

/-- The digits of a fraction. -/
inductive FractionMeans : List Char → List Char → Prop
  | none : FractionMeans [] []
  | digits {ds : List Char} (hds : AllDigits ds) (hne : ds ≠ []) : FractionMeans ('.' :: ds) ds

/-- The power of ten of an exponent. -/
inductive ExponentMeans : List Char → Int → Prop
  | none : ExponentMeans [] 0
  | raised {e : Char} {sign ds : List Char} (he : e = 'e' ∨ e = 'E') (hsign : sign = [] ∨ sign = ['+'])
    (hds : AllDigits ds) (hne : ds ≠ []) : ExponentMeans (e :: (sign ++ ds)) (Nat.ofDigitChars 10 ds 0)
  | lowered {e : Char} {ds : List Char} (he : e = 'e' ∨ e = 'E') (hds : AllDigits ds) (hne : ds ≠ []) :
    ExponentMeans (e :: '-' :: ds) (-(Nat.ofDigitChars 10 ds 0 : Int))

/-- A number is an integer, or with a fraction or an exponent the float nearest to it. -/
inductive NumberMeans (d : Dialect) : List Char → HostValue → Prop
  | integer {ds : List Char} (negative : Bool) (hds : IsWhole ds) (hadmits : d.Admits ds.length) :
    NumberMeans d (signChars negative ++ ds)
      (.int (if negative then -(Nat.ofDigitChars 10 ds 0 : Int) else Nat.ofDigitChars 10 ds 0))
  | float {ds f fs e : List Char} {n : Int} (negative : Bool) (hds : IsWhole ds) (hf : FractionMeans f fs)
    (he : ExponentMeans e n) (hsome : f ≠ [] ∨ e ≠ []) :
    NumberMeans d (signChars negative ++ (ds ++ (f ++ e)))
      (.float (Decimal.toFloat negative (Nat.ofDigitChars 10 (ds ++ fs) 0) (n - fs.length)))

mutual

/-- The meaning of a value of the grammar.  Of several members with one key the last one stands. -/
inductive ValueMeans (d : Dialect) : Text → HostValue → Prop
  | word {w : String × HostValue} (h : w ∈ d.words) : ValueMeans d (Text.ofString w.1) w.2
  | number {ds : List Char} {v : HostValue} (h : NumberMeans d ds v) : ValueMeans d (ds.map CodePoint.ofChar) v
  | string {t : Text} {xs : List StringUnit} (h : UnitsMean t xs) :
    ValueMeans d (.ofChar '"' :: t ++ [.ofChar '"']) (.str (spelled xs))
  | emptyList {b : Text} (h : IsBlank b) : ValueMeans d (.ofChar '[' :: (b ++ [.ofChar ']'])) (.list [])
  | list {t : Text} {vs : List HostValue} (h : ItemsMean d t vs) :
    ValueMeans d (.ofChar '[' :: (t ++ [.ofChar ']'])) (.list vs)
  | emptyRecord {b : Text} (h : IsBlank b) :
    ValueMeans d (.ofChar '\x7b' :: (b ++ [.ofChar '\x7d'])) (.dict [])
  | record {t : Text} {es : List (Text × HostValue)} (h : MembersMean d t es) :
    ValueMeans d (.ofChar '\x7b' :: (t ++ [.ofChar '\x7d'])) (.dict (textEntries (gathered es)))

/-- A value with white space around it. -/
inductive ItemMeans (d : Dialect) : Text → HostValue → Prop
  | spaced {before t after : Text} {v : HostValue} (hbefore : IsBlank before) (h : ValueMeans d t v)
    (hafter : IsBlank after) : ItemMeans d (before ++ (t ++ after)) v

/-- Values separated by commas. -/
inductive ItemsMean (d : Dialect) : Text → List HostValue → Prop
  | one {t : Text} {v : HostValue} (h : ItemMeans d t v) : ItemsMean d t [v]
  | more {t u : Text} {v : HostValue} {vs : List HostValue} (h : ItemMeans d t v) (hmore : ItemsMean d u vs) :
    ItemsMean d (t ++ (.ofChar ',' :: u)) (v :: vs)

/-- Members separated by commas. -/
inductive MembersMean (d : Dialect) : Text → List (Text × HostValue) → Prop
  | one {before key after t : Text} {xs : List StringUnit} {v : HostValue} (hbefore : IsBlank before)
    (hkey : UnitsMean key xs) (hafter : IsBlank after) (h : ItemMeans d t v) :
    MembersMean d (before ++ ((.ofChar '"' :: key ++ [.ofChar '"']) ++ (after ++ (.ofChar ':' :: t))))
      [(spelled xs, v)]
  | more {before key after t u : Text} {xs : List StringUnit} {v : HostValue} {es : List (Text × HostValue)}
    (hbefore : IsBlank before) (hkey : UnitsMean key xs) (hafter : IsBlank after) (h : ItemMeans d t v)
    (hmore : MembersMean d u es) :
    MembersMean d (before ++ ((.ofChar '"' :: key ++ [.ofChar '"']) ++
        (after ++ (.ofChar ':' :: (t ++ (.ofChar ',' :: u))))))
      ((spelled xs, v) :: es)

end

/-- A text stands for a value: it is one with white space around it. -/
abbrev Means (d : Dialect) (t : Text) (v : HostValue) : Prop := ItemMeans d t v

variable {d d' : Dialect} {t u : Text} {v : HostValue} {ds : List Char}

/-! ## Every text of the grammar has a meaning -/

theorem unit_means (h : IsUnit t) : ∃ x, UnitMeans t x := by
  cases h with
  | plain hcontrol hquote hescape => exact ⟨_, .plain hcontrol hquote hescape⟩
  | @short d h =>
      have hforms : ∀ d ∈ ['"', '\\', '/', 'b', 'f', 'n', 'r', 't'], ∃ e ∈ shortForms, e.1 = d := by
        simp [shortForms]
      obtain ⟨e, he, rfl⟩ := hforms d h
      exact ⟨_, .short he⟩
  | @escape t hlength h =>
      obtain ⟨a, b, c, d, rfl⟩ : ∃ a b c d, t = [a, b, c, d] := by
        match t, hlength with
        | [a, b, c, d], _ => exact ⟨a, b, c, d, rfl⟩
      simp only [List.forall_mem_cons, Option.isSome_iff_exists] at h
      obtain ⟨⟨i, hi⟩, ⟨j, hj⟩, ⟨k, hk⟩, ⟨l, hl⟩, -⟩ := h
      exact ⟨_, .numbered (n := ((i * 16 + j) * 16 + k) * 16 + l) (by
        simp only [hexFour?, hi, hj, hk, hl]
        rfl)⟩

theorem units_mean (h : AreUnits t) : ∃ xs, UnitsMean t xs := by
  induction h with
  | none => exact ⟨[], .none⟩
  | more ht _ ih =>
      obtain ⟨x, hx⟩ := unit_means ht
      obtain ⟨xs, hxs⟩ := ih
      exact ⟨x :: xs, .more hx hxs⟩

theorem fraction_means (h : IsFraction ds) : ∃ fs, FractionMeans ds fs := by
  cases h with
  | none => exact ⟨[], .none⟩
  | digits hds hne => exact ⟨_, .digits hds hne⟩

theorem exponent_means (h : IsExponent ds) : ∃ n, ExponentMeans ds n := by
  cases h with
  | none => exact ⟨0, .none⟩
  | @digits e sign ds he hsign hds hne =>
      simp only [List.mem_cons, List.not_mem_nil, or_false] at hsign
      rcases hsign with rfl | rfl | rfl
      · exact ⟨_, .raised he (.inl rfl) hds hne⟩
      · exact ⟨_, .raised he (.inr rfl) hds hne⟩
      · exact ⟨_, .lowered he hds hne⟩

theorem number_means (h : IsNumber ds) : ∃ v, NumberMeans .strict ds v := by
  obtain ⟨hsign, hwhole, hfraction, hexponent⟩ := h
  rename_i sign whole fraction exponent
  obtain ⟨negative, rfl⟩ : ∃ negative, sign = signChars negative := by
    rcases hsign with rfl | rfl
    · exact ⟨false, rfl⟩
    · exact ⟨true, rfl⟩
  obtain ⟨fs, hfs⟩ := fraction_means hfraction
  obtain ⟨n, hn⟩ := exponent_means hexponent
  by_cases hsome : fraction ≠ [] ∨ exponent ≠ []
  · exact ⟨_, .float negative hwhole hfs hn hsome⟩
  · simp only [ne_eq, not_or, not_not] at hsome
    obtain ⟨rfl, rfl⟩ := hsome
    have hinteger := NumberMeans.integer (d := .strict) negative hwhole (by simp [Dialect.Admits, Dialect.strict])
    exact ⟨_, by simpa using hinteger⟩

mutual

theorem value_means : ∀ {t : Text}, IsValue t → ∃ v, ValueMeans .strict t v
  | _, .word h => by
      have hwords : ∀ w ∈ ["null", "true", "false"], ∃ e ∈ Dialect.strict.words, e.1 = w := by
        simp [Dialect.strict]
      obtain ⟨e, he, rfl⟩ := hwords _ h
      exact ⟨_, .word he⟩
  | _, .number h => by
      obtain ⟨v, hv⟩ := number_means h
      exact ⟨v, .number hv⟩
  | _, .string ⟨h⟩ => by
      obtain ⟨xs, hxs⟩ := units_mean h
      exact ⟨_, .string hxs⟩
  | _, .emptyList h => ⟨_, .emptyList h⟩
  | _, .list h => by
      obtain ⟨vs, hvs⟩ := items_mean h
      exact ⟨_, .list hvs⟩
  | _, .emptyRecord h => ⟨_, .emptyRecord h⟩
  | _, .record h => by
      obtain ⟨es, hes⟩ := members_mean h
      exact ⟨_, .record hes⟩

theorem item_means : ∀ {t : Text}, IsItem t → ∃ v, ItemMeans .strict t v
  | _, .spaced hbefore h hafter => by
      obtain ⟨v, hv⟩ := value_means h
      exact ⟨v, .spaced hbefore hv hafter⟩

theorem items_mean : ∀ {t : Text}, AreItems t → ∃ vs, ItemsMean .strict t vs
  | _, .one h => by
      obtain ⟨v, hv⟩ := item_means h
      exact ⟨[v], .one hv⟩
  | _, .more h hmore => by
      obtain ⟨v, hv⟩ := item_means h
      obtain ⟨vs, hvs⟩ := items_mean hmore
      exact ⟨v :: vs, .more hv hvs⟩

theorem members_mean : ∀ {t : Text}, AreMembers t → ∃ es, MembersMean .strict t es
  | _, .one hbefore ⟨hkey⟩ hafter h => by
      obtain ⟨xs, hxs⟩ := units_mean hkey
      obtain ⟨v, hv⟩ := item_means h
      exact ⟨_, .one hbefore hxs hafter hv⟩
  | _, .more hbefore ⟨hkey⟩ hafter h hmore => by
      obtain ⟨xs, hxs⟩ := units_mean hkey
      obtain ⟨v, hv⟩ := item_means h
      obtain ⟨es, hes⟩ := members_mean hmore
      exact ⟨_, .more hbefore hxs hafter hv hes⟩

end

/-! ## Only texts of the grammar have a meaning -/

variable {x : StringUnit} {xs : List StringUnit} {fs : List Char} {n : Int} {vs : List HostValue}
  {es : List (Text × HostValue)}

theorem UnitMeans.isUnit (h : UnitMeans t x) : IsUnit t := by
  cases h with
  | plain hcontrol hquote hescape => exact .plain hcontrol hquote hescape
  | @short e h =>
      have hforms : ∀ e ∈ shortForms, e.1 ∈ ['"', '\\', '/', 'b', 'f', 'n', 'r', 't'] := by decide
      exact .short (hforms e h)
  | numbered h =>
      refine .escape rfl ?_
      simp only [hexFour?, Option.bind_eq_bind, Option.bind_eq_some_iff] at h
      obtain ⟨i, hi, j, hj, k, hk, l, hl, -⟩ := h
      simp [hi, hj, hk, hl]

theorem UnitMeans.length_pos (h : UnitMeans t x) : 0 < t.length := by
  cases h with
  | plain | short | numbered => simp

theorem UnitsMean.areUnits (h : UnitsMean t xs) : AreUnits t := by
  induction h with
  | none => exact .none
  | more ht _ ih => exact .more ht.isUnit ih

theorem FractionMeans.isFraction (h : FractionMeans ds fs) : IsFraction ds := by
  cases h with
  | none => exact .none
  | digits hds hne => exact .digits hds hne

theorem ExponentMeans.isExponent (h : ExponentMeans ds n) : IsExponent ds := by
  cases h with
  | none => exact .none
  | raised he hsign hds hne => exact .digits he (by rcases hsign with rfl | rfl <;> simp) hds hne
  | lowered he hds hne => exact .digits he (show ['-'] ∈ [[], ['+'], ['-']] by simp) hds hne

theorem isSign_signChars (negative : Bool) : signChars negative = [] ∨ signChars negative = ['-'] := by
  cases negative with
  | false => exact .inl rfl
  | true => exact .inr rfl

theorem NumberMeans.isNumber (h : NumberMeans d ds v) : IsNumber ds := by
  cases h with
  | integer negative hds =>
      have hnumber := IsNumber.parts (isSign_signChars negative) hds .none .none
      simpa using hnumber
  | float negative hds hf he => exact .parts (isSign_signChars negative) hds hf.isFraction he.isExponent

mutual

theorem ValueMeans.isValue : ∀ {t : Text} {v : HostValue}, ValueMeans .strict t v → IsValue t
  | _, _, .word (w := w) h => by
      have hwords : ∀ e ∈ Dialect.strict.words, e.1 ∈ ["null", "true", "false"] := by simp [Dialect.strict]
      exact .word (hwords w h)
  | _, _, .number h => .number h.isNumber
  | _, _, .string h => .string (.units h.areUnits)
  | _, _, .emptyList h => .emptyList h
  | _, _, .list h => .list h.areItems
  | _, _, .emptyRecord h => .emptyRecord h
  | _, _, .record h => .record h.areMembers

theorem ItemMeans.isItem : ∀ {t : Text} {v : HostValue}, ItemMeans .strict t v → IsItem t
  | _, _, .spaced hbefore h hafter => .spaced hbefore h.isValue hafter

theorem ItemsMean.areItems : ∀ {t : Text} {vs : List HostValue}, ItemsMean .strict t vs → AreItems t
  | _, _, .one h => .one h.isItem
  | _, _, .more h hmore => .more h.isItem hmore.areItems

theorem MembersMean.areMembers : ∀ {t : Text} {es : List (Text × HostValue)}, MembersMean .strict t es →
    AreMembers t
  | _, _, .one hbefore hkey hafter h => .one hbefore (.units hkey.areUnits) hafter h.isItem
  | _, _, .more hbefore hkey hafter h hmore =>
      .more hbefore (.units hkey.areUnits) hafter h.isItem hmore.areMembers

end

/-- The texts that have a meaning are those of the grammar. -/
theorem isJson_iff_means : IsJson t ↔ ∃ v, Means .strict t v := by
  constructor
  · exact item_means
  · rintro ⟨v, h⟩
    exact h.isItem

end ScriptHost.Proofs.JsonMeanings
