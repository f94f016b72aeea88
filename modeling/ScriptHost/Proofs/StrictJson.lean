import ScriptHost.Proofs.DataTexts
import ScriptHost.Proofs.DataTrees

/-!
# The grammar of JSON

JSON has no word for a number that is infinite or none.  What is written for data is in the grammar
exactly if no float of the data is such a number: outside of strings no other word has an `N` or an
`I` in it.
-/

namespace ScriptHost.Proofs.StrictJson

open Json
open ScriptHost.Proofs.DataTexts
open ScriptHost.Proofs.DataTokens
open ScriptHost.Proofs.DataTrees
open ScriptHost.Proofs.Numerals
open ScriptHost.Proofs.Scanning (forall_of_all ofChar_inj)
open ScriptHost.Proofs.ScannedNumbers
open ScriptHost.Proofs.ScannedStrings

/-! ## The grammar -/

/-- White space. -/
def IsBlank (t : Text) : Prop := ∀ c ∈ t, c ∈ [' ', '\t', '\n', '\r'].map CodePoint.ofChar

/-- What stands for one unit of a string. -/
inductive IsUnit : Text → Prop
  | plain {c : CodePoint} (hcontrol : 0x20 ≤ c.val) (hquote : c ≠ .ofChar '"') (hescape : c ≠ .ofChar '\\') :
    IsUnit [c]
  | short {d : Char} (h : d ∈ ['"', '\\', '/', 'b', 'f', 'n', 'r', 't']) :
    IsUnit [.ofChar '\\', .ofChar d]
  | escape {t : Text} (hlength : t.length = 4) (h : ∀ c ∈ t, c.hexValue?.isSome = true) :
    IsUnit (.ofChar '\\' :: .ofChar 'u' :: t)

/-- What stands between the quotes of a string. -/
inductive AreUnits : Text → Prop
  | none : AreUnits []
  | more {t u : Text} (ht : IsUnit t) (hu : AreUnits u) : AreUnits (t ++ u)

/-- The digits before the point. -/
inductive IsWhole : List Char → Prop
  | zero : IsWhole ['0']
  | digits {ds : List Char} (hds : AllDigits ds) (hne : ds ≠ []) (hzero : ds.head? ≠ some '0') : IsWhole ds

/-- The point and what follows it. -/
inductive IsFraction : List Char → Prop
  | none : IsFraction []
  | digits {ds : List Char} (hds : AllDigits ds) (hne : ds ≠ []) : IsFraction ('.' :: ds)

/-- The exponent. -/
inductive IsExponent : List Char → Prop
  | none : IsExponent []
  | digits {e : Char} {sign ds : List Char} (he : e = 'e' ∨ e = 'E') (hsign : sign ∈ [[], ['+'], ['-']])
    (hds : AllDigits ds) (hne : ds ≠ []) : IsExponent (e :: (sign ++ ds))

/-- A number. -/
inductive IsNumber : List Char → Prop
  | parts {sign whole fraction exponent : List Char} (hsign : sign = [] ∨ sign = ['-'])
    (hwhole : IsWhole whole) (hfraction : IsFraction fraction) (hexponent : IsExponent exponent) :
    IsNumber (sign ++ (whole ++ (fraction ++ exponent)))

/-- A string. -/
inductive IsString : Text → Prop
  | units {u : Text} (h : AreUnits u) : IsString (.ofChar '"' :: u ++ [.ofChar '"'])

mutual

/-- A value of the grammar. -/
inductive IsValue : Text → Prop
  | word {w : String} (h : w ∈ ["null", "true", "false"]) : IsValue (Text.ofString w)
  | number {ds : List Char} (h : IsNumber ds) : IsValue (ds.map CodePoint.ofChar)
  | string {t : Text} (h : IsString t) : IsValue t
  | emptyList {b : Text} (h : IsBlank b) : IsValue (.ofChar '[' :: (b ++ [.ofChar ']']))
  | list {t : Text} (h : AreItems t) : IsValue (.ofChar '[' :: (t ++ [.ofChar ']']))
  | emptyRecord {b : Text} (h : IsBlank b) : IsValue (.ofChar '\x7b' :: (b ++ [.ofChar '\x7d']))
  | record {t : Text} (h : AreMembers t) : IsValue (.ofChar '\x7b' :: (t ++ [.ofChar '\x7d']))

/-- A value with white space around it. -/
inductive IsItem : Text → Prop
  | spaced {before t after : Text} (hbefore : IsBlank before) (h : IsValue t) (hafter : IsBlank after) :
    IsItem (before ++ (t ++ after))

/-- Values separated by commas. -/
inductive AreItems : Text → Prop
  | one {t : Text} (h : IsItem t) : AreItems t
  | more {t u : Text} (h : IsItem t) (hmore : AreItems u) : AreItems (t ++ (.ofChar ',' :: u))

/-- Members separated by commas. -/
inductive AreMembers : Text → Prop
  | one {before key after t : Text} (hbefore : IsBlank before) (hkey : IsString key)
    (hafter : IsBlank after) (h : IsItem t) :
    AreMembers (before ++ (key ++ (after ++ (.ofChar ':' :: t))))
  | more {before key after t u : Text} (hbefore : IsBlank before) (hkey : IsString key)
    (hafter : IsBlank after) (h : IsItem t) (hmore : AreMembers u) :
    AreMembers (before ++ (key ++ (after ++ (.ofChar ':' :: (t ++ (.ofChar ',' :: u))))))

end

/-- A text of JSON: a value with white space around it. -/
abbrev IsJson (t : Text) : Prop := IsItem t

variable {t u b : Text} {ts : List Text} {ds : List Char} {c : CodePoint} {v : HostValue}
  {xs : List HostValue} {es : List (HostValue × HostValue)}

/-! ## What is written is in the grammar -/

theorem isBlank_nil : IsBlank [] := by simp [IsBlank]

theorem isBlank_space : IsBlank [.ofChar ' '] := by simp [IsBlank]

theorem hexDigits_isSome (width n : Nat) :
    ∀ c ∈ (Text.hexDigits width n).map CodePoint.ofChar, c.hexValue?.isSome = true := by
  induction width generalizing n with
  | zero => simp [Text.hexDigits]
  | succ width ih =>
      intro c hc
      unfold Text.hexDigits at hc
      rw [List.map_append] at hc
      rcases List.mem_append.mp hc with hc | hc
      · exact ih _ c hc
      · obtain rfl := List.mem_singleton.mp hc
        rw [hexValue_hexDigit]
        rfl

theorem isUnit_unitEscape (n : Nat) : IsUnit (unitEscape n) :=
  .escape (by rw [List.length_map, length_hexDigits]) (hexDigits_isSome 4 n)

theorem AreUnits.of (h : IsUnit t) : AreUnits t := by
  simpa using AreUnits.more h .none

theorem areUnits_written (h : Written c t) : AreUnits t := by
  cases h with
  | @short e he hc =>
      have hshort : ∀ e ∈ shortEscapes, e.2 ∈ ['"', '\\', '/', 'b', 'f', 'n', 'r', 't'] := by decide
      exact .of (.short (hshort e he))
  | escaped =>
      unfold pointEscape
      split
      · exact .of (isUnit_unitEscape _)
      · exact .more (isUnit_unitEscape _) (.of (isUnit_unitEscape _))
  | plain hlow hhigh hquote hback =>
      refine .of (.plain hlow ?_ ?_)
      · rintro rfl
        exact hquote (by decide)
      · rintro rfl
        exact hback (by decide)

theorem AreUnits.append (ht : AreUnits t) (hu : AreUnits u) : AreUnits (t ++ u) := by
  induction ht with
  | none => exact hu
  | more h _ ih =>
      rw [List.append_assoc]
      exact .more h ih

theorem isString_written (t : Text) : IsString (writeString true t) := by
  refine .units ?_
  induction t with
  | nil => exact .none
  | cons c t ih => exact (areUnits_written (written_writePoint c)).append ih

/-- The digits after the point are some. -/
theorem fraction_laidOut {lead : Int} (hne : ds ≠ []) {fs : List Char}
    (h : (laidOut ds lead).fraction = some fs) : fs ≠ [] := by
  unfold laidOut at h
  split at h
  · split at h
    · cases h
      simp [hne]
    · split at h
      · cases h
        simp
      · cases h
        simp only [ne_eq, List.drop_eq_nil_iff]
        omega
  · dsimp only at h
    split at h
    · cases h
    · cases h
      simp only [ne_eq, List.drop_eq_nil_iff]
      omega

theorem fraction_magnitude {significand : Nat} {exponent : Int} {fs : List Char}
    (h : (magnitude significand exponent).fraction = some fs) : fs ≠ [] := by
  unfold magnitude at h
  split at h
  · cases h
    simp
  · rename_i hne
    obtain ⟨d, ds, hds, -, -⟩ :=
      significantChars_cons (shortest_pos (Nat.pos_of_ne_zero hne) exponent)
    exact fraction_laidOut (by rw [hds]; simp) h

theorem isNumber_numeral {x : Numeral} (hx : x.IsWritten)
    (hfraction : ∀ fs, x.fraction = some fs → fs ≠ []) (negative : Bool) :
    IsNumber (signChars negative ++ x.chars) := by
  refine .parts ?_ ?_ ?_ ?_
  · cases negative with
    | false => exact .inl rfl
    | true => exact .inr rfl
  · obtain ⟨d, ds, hds⟩ := List.exists_cons_of_ne_nil hx.nonempty
    by_cases hd : d = '0'
    · rw [hds, hx.zero ds (hd ▸ hds), hd]
      exact .zero
    · exact .digits hx.whole hx.nonempty (by rw [hds]; simpa using hd)
  · cases hfs : x.fraction with
    | none => exact .none
    | some fs => exact .digits (hx.fraction fs hfs) (hfraction fs hfs)
  · cases hes : x.exponent with
    | none => exact .none
    | some e =>
        obtain ⟨sign, ds⟩ := e
        obtain ⟨hds, hne, hsign⟩ := hx.exponent sign ds hes
        refine @IsExponent.digits _ [sign] ds (.inl rfl) ?_ hds hne
        rcases hsign with rfl | rfl
        · simp
        · simp

theorem isValue_int {n : Int} (h : writeInt n = .ok t) : IsValue t := by
  rw [writeInt_eq h]
  exact .number (isNumber_numeral (natural_isWritten _) (by simp [natural]) _)

theorem isValue_float {x : Float} (h : IsFinite (.float x)) : IsValue (writeFloat x) := by
  unfold IsFinite at h
  obtain ⟨negative, significand, exponent, hparts⟩ := h
  rw [writeFloat_eq, hparts]
  exact .number (isNumber_numeral (magnitude_isWritten _ _) (fun _ => fraction_magnitude) negative)

theorem isValue_bool (b : Bool) : IsValue (writeBool b) := by
  cases b with
  | false => exact .word (w := "false") (by simp)
  | true => exact .word (w := "true") (by simp)

theorem joined_cons (gap t : Text) (hne : ts ≠ []) :
    Text.joinWith (.ofChar ',' :: gap) (t :: ts) =
      t ++ (.ofChar ',' :: (gap ++ Text.joinWith (.ofChar ',' :: gap) ts)) := by
  rw [joinWith_cons, if_neg (by simpa using hne), List.cons_append]

/-- Values that are written one after the other are items, whatever white space stands around them. -/
theorem areItems_joined {gap after : Text} (hne : ts ≠ []) (h : ∀ t ∈ ts, IsValue t) (hb : IsBlank b)
    (hgap : IsBlank gap) (hafter : IsBlank after) :
    AreItems (b ++ (Text.joinWith (.ofChar ',' :: gap) ts ++ after)) := by
  induction ts generalizing b with
  | nil => exact absurd rfl hne
  | cons t ts ih =>
      have ht := h t List.mem_cons_self
      by_cases hnone : ts = []
      · subst hnone
        exact .one (.spaced hb ht hafter)
      · have hmore := ih hnone (fun u hu => h u (List.mem_cons_of_mem t hu)) hgap
        have hfirst : IsItem (b ++ (t ++ [])) := .spaced hb ht isBlank_nil
        rw [joined_cons gap t hnone]
        simpa using AreItems.more hfirst hmore

theorem isValue_bracketed (h : ∀ t ∈ ts, IsValue t) : IsValue (bracketed "[" "]" ts) := by
  by_cases hne : ts = []
  · subst hne
    exact .emptyList isBlank_nil
  · have hlist := IsValue.list (areItems_joined hne h isBlank_nil isBlank_space isBlank_nil)
    simpa [bracketed, Text.ofString] using hlist

/-- A member as it is written. -/
def IsMember (t : Text) : Prop :=
  ∃ key value, IsString key ∧ IsValue value ∧ t = key ++ (.ofChar ':' :: (.ofChar ' ' :: value))

theorem areMembers_joined {gap after : Text} (hne : ts ≠ []) (h : ∀ t ∈ ts, IsMember t) (hb : IsBlank b)
    (hgap : IsBlank gap) (hafter : IsBlank after) :
    AreMembers (b ++ (Text.joinWith (.ofChar ',' :: gap) ts ++ after)) := by
  induction ts generalizing b with
  | nil => exact absurd rfl hne
  | cons t ts ih =>
      obtain ⟨key, value, hkey, hvalue, rfl⟩ := h t List.mem_cons_self
      by_cases hnone : ts = []
      · subst hnone
        have hone := AreMembers.one hb hkey isBlank_nil (.spaced isBlank_space hvalue hafter)
        simpa [Text.joinWith] using hone
      · have hmore := ih hnone (fun u hu => h u (List.mem_cons_of_mem _ hu)) hgap
        have hitem : IsItem ([.ofChar ' '] ++ (value ++ [])) := .spaced isBlank_space hvalue isBlank_nil
        rw [joined_cons gap _ hnone]
        simpa using AreMembers.more hb hkey isBlank_nil hitem hmore

theorem isValue_bracketedMembers (h : ∀ t ∈ ts, IsMember t) :
    IsValue (bracketed "\x7b" "\x7d" ts) := by
  by_cases hne : ts = []
  · subst hne
    exact .emptyRecord isBlank_nil
  · have hrecord := IsValue.record (areMembers_joined hne h isBlank_nil isBlank_space isBlank_nil)
    simpa [bracketed, Text.ofString] using hrecord

mutual

/-- What is written for data whose floats are finite is in the grammar. -/
theorem isValue_written : ∀ (v : HostValue) {t : Text}, IsFinite v → write wire v = .ok t → IsValue t
  | .none, t, _, h => by
      cases h
      exact .word (by simp)
  | .bool b, t, _, h => by
      cases h
      exact isValue_bool b
  | .int _, t, _, h => isValue_int h
  | .intMember _, t, _, h => isValue_int h
  | .float x, t, hfinite, h => by
      cases h
      exact isValue_float hfinite
  | .str s, t, _, h => by
      cases h
      exact .string (isString_written s)
  | .strMember s, t, _, h => by
      cases h
      exact .string (isString_written s)
  | .list xs, t, hfinite, h => by
      obtain ⟨ts, hts, h⟩ := ok_of_bind h
      cases h
      exact isValue_bracketed (areValues_written xs hfinite hts)
  | .tuple xs, t, hfinite, h => by
      obtain ⟨ts, hts, h⟩ := ok_of_bind h
      cases h
      exact isValue_bracketed (areValues_written xs hfinite hts)
  | .dict es, t, hfinite, h => by
      have hentries : ∃ ts, entryTexts es = .ok ts ∧ bracketed "\x7b" "\x7d" ts = t := by
        obtain ⟨ts, hts, h⟩ := ok_of_bind h
        cases h
        exact ⟨ts, hts, rfl⟩
      obtain ⟨ts, hts, rfl⟩ := hentries
      exact isValue_bracketedMembers (areMembers_written es hfinite hts)

theorem areValues_written : ∀ (xs : List HostValue) {ts : List Text}, ItemsFinite xs →
    writeItems wire xs = .ok ts → ∀ t ∈ ts, IsValue t
  | [], ts, _, h => by
      cases h
      simp
  | v :: xs, ts, hfinite, h => by
      obtain ⟨t, us, ht, hus, rfl⟩ := writeItems_cons h
      exact List.forall_mem_cons.mpr
        ⟨isValue_written v hfinite.1 ht, areValues_written xs hfinite.2 hus⟩

theorem areMembers_written : ∀ (es : List (HostValue × HostValue)) {ts : List Text},
    EntriesFinite es → entryTexts es = .ok ts → ∀ t ∈ ts, IsMember t
  | [], ts, _, h => by
      cases h
      simp
  | (k, v) :: es, ts, hfinite, h => by
      obtain ⟨key, t, us, hkey, ht, hus, rfl⟩ := entryTexts_cons h
      have hmember : IsMember (writeString true key ++ ": " ++ t) :=
        ⟨_, t, isString_written key, isValue_written v hfinite.1 ht, by simp [Text.ofString]⟩
      exact List.forall_mem_cons.mpr ⟨hmember, areMembers_written es hfinite.2 hus⟩

end

/-! ## Outside of strings -/

/-- Where a character stands: outside of strings, inside one, or behind a backslash inside one. -/
inductive Place
  | outside | inside | escaped

/-- Where what follows a character stands. -/
def Place.after (c : CodePoint) : Place → Place
  | .outside => if c = .ofChar '"' then .inside else .outside
  | .inside =>
    if c = .ofChar '\\' then .escaped else if c = .ofChar '"' then .outside else .inside
  | .escaped => .inside

/-- Where what follows a text stands. -/
def placeAfter : Place → Text → Place
  | p, [] => p
  | p, c :: t => placeAfter (p.after c) t

/-- The characters of a text that stand outside of strings, quotes included. -/
def bare : Place → Text → Text
  | _, [] => []
  | .outside, c :: t => c :: bare (Place.after c .outside) t
  | .inside, c :: t => bare (Place.after c .inside) t
  | .escaped, c :: t => bare (Place.after c .escaped) t

variable {p : Place}

theorem placeAfter_append (p : Place) (t u : Text) :
    placeAfter p (t ++ u) = placeAfter (placeAfter p t) u := by
  induction t generalizing p with
  | nil => rfl
  | cons c t ih => exact ih _

theorem bare_append (p : Place) (t u : Text) :
    bare p (t ++ u) = bare p t ++ bare (placeAfter p t) u := by
  induction t generalizing p with
  | nil => rfl
  | cons c t ih =>
      cases p with
      | outside => exact congrArg (c :: ·) (ih _)
      | inside => exact ih _
      | escaped => exact ih _

/-- A text that leaves every string it enters. -/
def IsClosed (t : Text) : Prop := placeAfter .outside t = .outside

/-- The letters that only the words for numbers have that are infinite or none. -/
def loudLetters : Text := [.ofChar 'N', .ofChar 'I']

/-- A text with one of the letters outside of strings. -/
def IsLoud (t : Text) : Prop := ∃ c ∈ bare .outside t, c ∈ loudLetters

theorem IsClosed.append (ht : IsClosed t) (hu : IsClosed u) : IsClosed (t ++ u) := by
  unfold IsClosed at *
  rw [placeAfter_append, ht, hu]

theorem isLoud_append (ht : IsClosed t) : IsLoud (t ++ u) ↔ IsLoud t ∨ IsLoud u := by
  unfold IsLoud
  rw [bare_append, ht]
  simp only [List.mem_append, or_and_right, exists_or]

/-- Characters without a quote. -/
theorem closed_unquoted (h : CodePoint.ofChar '"' ∉ t) : IsClosed t ∧ bare .outside t = t := by
  induction t with
  | nil => exact ⟨rfl, rfl⟩
  | cons c t ih =>
      obtain ⟨hc, ht⟩ := not_or.mp (mt List.mem_cons.mpr h)
      have hafter : Place.after c .outside = .outside := if_neg fun heq => hc heq.symm
      obtain ⟨hclosed, hbare⟩ := ih ht
      refine ⟨?_, ?_⟩
      · change placeAfter (Place.after c .outside) t = _
        rw [hafter]
        exact hclosed
      · change c :: bare (Place.after c .outside) t = _
        rw [hafter, hbare]

/-- A text that leaves every string it enters, without one of the letters outside. -/
structure IsQuiet (t : Text) : Prop where
  closed : IsClosed t
  quiet : ¬IsLoud t

theorem IsQuiet.append (ht : IsQuiet t) (hu : IsQuiet u) : IsQuiet (t ++ u) :=
  ⟨ht.closed.append hu.closed, fun h => ((isLoud_append ht.closed).mp h).elim ht.quiet hu.quiet⟩

theorem isQuiet_of (h : ∀ c ∈ t, c ≠ .ofChar '"' ∧ c ∉ loudLetters) : IsQuiet t := by
  obtain ⟨hclosed, hbare⟩ := closed_unquoted fun hquote => (h _ hquote).1 rfl
  refine ⟨hclosed, fun ⟨c, hc, hletter⟩ => ?_⟩
  rw [hbare] at hc
  exact (h c hc).2 hletter

theorem isQuiet_chars (h : ∀ d ∈ ds, d ≠ '"' ∧ d ≠ 'N' ∧ d ≠ 'I') :
    IsQuiet (ds.map CodePoint.ofChar) := by
  refine isQuiet_of fun c hc => ?_
  obtain ⟨d, hd, rfl⟩ := List.mem_map.mp hc
  simpa [loudLetters, ofChar_inj] using h d hd

theorem isQuiet_mark {d : Char} (h : d ≠ '"' ∧ d ≠ 'N' ∧ d ≠ 'I') : IsQuiet [.ofChar d] :=
  @isQuiet_chars [d] (by simpa using h)

theorem isQuiet_blank (h : IsBlank b) : IsQuiet b := by
  refine isQuiet_of fun c hc => ?_
  have hblank : ∀ c ∈ [' ', '\t', '\n', '\r'].map CodePoint.ofChar,
      c ≠ .ofChar '"' ∧ c ∉ loudLetters := by decide
  exact hblank c (h c hc)

/-! ## Strings are quiet -/

theorem hexValue_marks {c : CodePoint} (h : c.hexValue?.isSome = true) :
    c ≠ .ofChar '"' ∧ c ≠ .ofChar '\\' := by
  constructor
  · rintro rfl
    revert h
    decide
  · rintro rfl
    revert h
    decide

/-- Inside a string, characters other than the marks stay inside. -/
theorem inside_plain (h : ∀ c ∈ t, c ≠ .ofChar '"' ∧ c ≠ .ofChar '\\') :
    placeAfter .inside t = .inside ∧ bare .inside t = [] := by
  induction t with
  | nil => exact ⟨rfl, rfl⟩
  | cons c t ih =>
      obtain ⟨hquote, hescape⟩ := h c List.mem_cons_self
      have hafter : Place.after c .inside = .inside :=
        (if_neg hescape).trans (if_neg hquote)
      have hrest := ih fun d hd => h d (List.mem_cons_of_mem c hd)
      unfold placeAfter bare
      rwa [hafter]

theorem inside_unit (h : IsUnit t) : placeAfter .inside t = .inside ∧ bare .inside t = [] := by
  cases h with
  | plain hcontrol hquote hescape => exact inside_plain (by simpa using ⟨hquote, hescape⟩)
  | short h => exact ⟨rfl, rfl⟩
  | @escape t _ h =>
      have hplain : placeAfter .inside t = .inside ∧ bare .inside t = [] :=
        inside_plain fun c hc => hexValue_marks (h c hc)
      exact hplain

theorem inside_units (h : AreUnits t) : placeAfter .inside t = .inside ∧ bare .inside t = [] := by
  induction h with
  | none => exact ⟨rfl, rfl⟩
  | more ht _ ih =>
      obtain ⟨hplace, hbare⟩ := inside_unit ht
      rw [placeAfter_append, bare_append, hplace, hbare]
      exact ih

theorem isQuiet_string (h : IsString t) : IsQuiet t := by
  obtain ⟨hunits⟩ := h
  rename_i u
  obtain ⟨hplace, hbare⟩ := inside_units hunits
  have hafter : placeAfter .outside (.ofChar '"' :: u ++ [.ofChar '"']) = .outside := by
    change placeAfter .inside (u ++ [.ofChar '"']) = _
    rw [placeAfter_append, hplace]
    rfl
  have hquotes : bare .outside (.ofChar '"' :: u ++ [.ofChar '"']) = [.ofChar '"'] := by
    change _ :: bare .inside (u ++ [.ofChar '"']) = _
    rw [bare_append, hplace, hbare]
    rfl
  refine ⟨hafter, fun ⟨c, hc, hletter⟩ => ?_⟩
  rw [hquotes] at hc
  obtain rfl := List.mem_singleton.mp hc
  revert hletter
  decide

/-! ## Values are quiet -/

theorem digits_quiet (h : AllDigits ds) : ∀ d ∈ ds, d ≠ '"' ∧ d ≠ 'N' ∧ d ≠ 'I' := by
  intro d hd
  have hdigit := h d hd
  refine ⟨?_, ?_, ?_⟩
  all_goals
    rintro rfl
    revert hdigit
    decide

theorem isQuiet_number (h : IsNumber ds) : IsQuiet (ds.map CodePoint.ofChar) := by
  obtain ⟨hsign, hwhole, hfraction, hexponent⟩ := h
  have hsigns : ∀ sign ∈ [[], ['+'], ['-']], ∀ d ∈ sign, d ≠ '"' ∧ d ≠ 'N' ∧ d ≠ 'I' := by
    simp only [List.forall_mem_cons, List.not_mem_nil, false_implies, implies_true, and_true]
    decide
  simp only [List.map_append]
  refine (isQuiet_chars ?_).append ((isQuiet_chars ?_).append
    ((isQuiet_chars ?_).append (isQuiet_chars ?_)))
  · exact hsigns _ (by rcases hsign with rfl | rfl <;> simp)
  · cases hwhole with
    | zero => exact forall_of_all (by decide)
    | digits hds _ _ => exact digits_quiet hds
  · cases hfraction with
    | none => simp
    | digits hds _ => exact List.forall_mem_cons.mpr ⟨by decide, digits_quiet hds⟩
  · cases hexponent with
    | none => simp
    | digits he hsign hds _ =>
        refine List.forall_mem_cons.mpr ⟨by rcases he with rfl | rfl <;> decide, fun d hd => ?_⟩
        exact (List.mem_append.mp hd).elim (hsigns _ hsign d) (digits_quiet hds d)

mutual

theorem IsValue.isQuiet : ∀ {t : Text}, IsValue t → IsQuiet t
  | _, .word h => by
      have hwords : ∀ w ∈ ["null", "true", "false"], ∀ d ∈ w.toList,
          d ≠ '"' ∧ d ≠ 'N' ∧ d ≠ 'I' := by
        refine fun w hw => forall_of_all ?_
        revert w
        decide
      exact isQuiet_chars (hwords _ h)
  | _, .number h => isQuiet_number h
  | _, .string h => isQuiet_string h
  | _, .emptyList h =>
      (isQuiet_mark (d := '[') (by decide)).append ((isQuiet_blank h).append (isQuiet_mark (by decide)))
  | _, .list h =>
      (isQuiet_mark (d := '[') (by decide)).append (h.isQuiet.append (isQuiet_mark (by decide)))
  | _, .emptyRecord h =>
      (isQuiet_mark (d := '\x7b') (by decide)).append
        ((isQuiet_blank h).append (isQuiet_mark (by decide)))
  | _, .record h =>
      (isQuiet_mark (d := '\x7b') (by decide)).append (h.isQuiet.append (isQuiet_mark (by decide)))

theorem IsItem.isQuiet : ∀ {t : Text}, IsItem t → IsQuiet t
  | _, .spaced hbefore h hafter =>
      (isQuiet_blank hbefore).append (h.isQuiet.append (isQuiet_blank hafter))

theorem AreItems.isQuiet : ∀ {t : Text}, AreItems t → IsQuiet t
  | _, .one h => h.isQuiet
  | _, .more h hmore =>
      h.isQuiet.append ((isQuiet_mark (d := ',') (by decide)).append hmore.isQuiet)

theorem AreMembers.isQuiet : ∀ {t : Text}, AreMembers t → IsQuiet t
  | _, .one hbefore hkey hafter h =>
      (isQuiet_blank hbefore).append ((isQuiet_string hkey).append ((isQuiet_blank hafter).append
        ((isQuiet_mark (d := ':') (by decide)).append h.isQuiet)))
  | _, .more hbefore hkey hafter h hmore =>
      (isQuiet_blank hbefore).append ((isQuiet_string hkey).append ((isQuiet_blank hafter).append
        ((isQuiet_mark (d := ':') (by decide)).append
          (h.isQuiet.append ((isQuiet_mark (d := ',') (by decide)).append hmore.isQuiet)))))

end

/-! ## What is not in the grammar -/

theorem closed_chars (h : '"' ∉ ds) : IsClosed (ds.map CodePoint.ofChar) := by
  refine (closed_unquoted fun hquote => ?_).1
  obtain ⟨d, hd, hsame⟩ := List.mem_map.mp hquote
  obtain rfl := ofChar_inj.mp hsame
  exact h hd

/-- What is written for a value: it leaves the strings it enters, and it is loud unless all floats
of the value are finite. -/
structure TellsFinite (t : Text) (finite : Prop) : Prop where
  closed : IsClosed t
  loud : ¬finite → IsLoud t

theorem IsQuiet.tellsFinite {finite : Prop} (h : IsQuiet t) (hfinite : finite) : TellsFinite t finite :=
  ⟨h.closed, fun hnot => absurd hfinite hnot⟩

theorem TellsFinite.append {p q : Prop} (ht : TellsFinite t p) (hu : TellsFinite u q) :
    TellsFinite (t ++ u) (p ∧ q) := by
  refine ⟨ht.closed.append hu.closed, fun hnot => (isLoud_append ht.closed).mpr ?_⟩
  by_cases hp : p
  · exact .inr (hu.loud fun hq => hnot ⟨hp, hq⟩)
  · exact .inl (ht.loud hp)

theorem TellsFinite.congr {p q : Prop} (h : TellsFinite t p) (hpq : p ↔ q) : TellsFinite t q :=
  ⟨h.closed, fun hnot => h.loud (mt hpq.mp hnot)⟩

/-- A value between quiet texts. -/
theorem TellsFinite.between {p : Prop} {before after : Text} (h : TellsFinite t p)
    (hbefore : IsQuiet before) (hafter : IsQuiet after) : TellsFinite (before ++ (t ++ after)) p :=
  ((hbefore.tellsFinite trivial).append (h.append (hafter.tellsFinite trivial))).congr (by simp)

theorem tellsFinite_float (x : Float) : TellsFinite (writeFloat x) (IsFinite (.float x)) := by
  unfold IsFinite
  cases hparts : Binary.Parts.ofFloat x with
  | nan =>
      rw [writeFloat_eq, hparts]
      exact ⟨closed_chars (by decide), fun _ => ⟨.ofChar 'N', by decide, by decide⟩⟩
  | infinite negative =>
      rw [writeFloat_eq, hparts]
      cases negative with
      | false => exact ⟨closed_chars (by decide), fun _ => ⟨.ofChar 'I', by decide, by decide⟩⟩
      | true => exact ⟨closed_chars (by decide), fun _ => ⟨.ofChar 'I', by decide, by decide⟩⟩
  | finite negative significand exponent =>
      have hfinite : IsFinite (.float x) := ⟨negative, significand, exponent, hparts⟩
      exact (isValue_float hfinite).isQuiet.tellsFinite ⟨_, _, _, rfl⟩

theorem tellsFinite_joined {p q : Prop} (ht : TellsFinite t p)
    (hmore : TellsFinite (Text.joinWith ", " ts) q) :
    TellsFinite (Text.joinWith ", " (t :: ts)) (p ∧ q) := by
  by_cases hnone : ts = []
  · subst hnone
    simpa [Text.joinWith] using ht.append hmore
  · have hseparator : IsQuiet (Text.ofString ", ") := isQuiet_chars (forall_of_all (by decide))
    rw [joinWith_cons, if_neg (by simpa using hnone)]
    exact (ht.append ((hseparator.tellsFinite trivial).append hmore)).congr (by simp)

theorem tellsFinite_bracketed {p : Prop} {o c : Char} (ho : o ≠ '"' ∧ o ≠ 'N' ∧ o ≠ 'I')
    (hc : c ≠ '"' ∧ c ≠ 'N' ∧ c ≠ 'I') (h : TellsFinite (Text.joinWith ", " ts) p) :
    TellsFinite (bracketed (String.singleton o) (String.singleton c) ts) p := by
  have hbetween := h.between (isQuiet_mark ho) (isQuiet_mark hc)
  simpa [bracketed, Text.ofString] using hbetween

mutual

theorem tellsFinite_written : ∀ (v : HostValue) {t : Text}, write wire v = .ok t →
    TellsFinite t (IsFinite v)
  | .none, t, h => (isValue_written .none trivial h).isQuiet.tellsFinite trivial
  | .bool b, t, h => (isValue_written (.bool b) trivial h).isQuiet.tellsFinite trivial
  | .int _, t, h => (isValue_int h).isQuiet.tellsFinite trivial
  | .intMember _, t, h => (isValue_int h).isQuiet.tellsFinite trivial
  | .float x, t, h => by
      cases h
      exact tellsFinite_float x
  | .str s, t, h => (isValue_written (.str s) trivial h).isQuiet.tellsFinite trivial
  | .strMember s, t, h => (isValue_written (.strMember s) trivial h).isQuiet.tellsFinite trivial
  | .list xs, t, h => by
      obtain ⟨ts, hts, h⟩ := ok_of_bind h
      cases h
      exact tellsFinite_bracketed (o := '[') (c := ']') (by decide) (by decide)
        (tellsFinite_items xs hts)
  | .tuple xs, t, h => by
      obtain ⟨ts, hts, h⟩ := ok_of_bind h
      cases h
      exact tellsFinite_bracketed (o := '[') (c := ']') (by decide) (by decide)
        (tellsFinite_items xs hts)
  | .dict es, t, h => by
      have hentries : ∃ ts, entryTexts es = .ok ts ∧ bracketed "\x7b" "\x7d" ts = t := by
        obtain ⟨ts, hts, h⟩ := ok_of_bind h
        cases h
        exact ⟨ts, hts, rfl⟩
      obtain ⟨ts, hts, rfl⟩ := hentries
      exact tellsFinite_bracketed (o := '\x7b') (c := '\x7d') (by decide) (by decide)
        (tellsFinite_entries es hts)

theorem tellsFinite_items : ∀ (xs : List HostValue) {ts : List Text}, writeItems wire xs = .ok ts →
    TellsFinite (Text.joinWith ", " ts) (ItemsFinite xs)
  | [], ts, h => by
      cases h
      exact (isQuiet_blank isBlank_nil).tellsFinite trivial
  | v :: xs, ts, h => by
      obtain ⟨t, us, ht, hus, rfl⟩ := writeItems_cons h
      exact tellsFinite_joined (tellsFinite_written v ht) (tellsFinite_items xs hus)

theorem tellsFinite_entries : ∀ (es : List (HostValue × HostValue)) {ts : List Text},
    entryTexts es = .ok ts → TellsFinite (Text.joinWith ", " ts) (EntriesFinite es)
  | [], ts, h => by
      cases h
      exact (isQuiet_blank isBlank_nil).tellsFinite trivial
  | (k, v) :: es, ts, h => by
      obtain ⟨key, t, us, hkey, ht, hus, rfl⟩ := entryTexts_cons h
      have hbefore : IsQuiet (writeString true key ++ Text.ofString ": ") :=
        (isQuiet_string (isString_written key)).append (isQuiet_chars (forall_of_all (by decide)))
      have hentry := (hbefore.tellsFinite trivial).append (tellsFinite_written v ht)
      exact tellsFinite_joined (hentry.congr (by simp)) (tellsFinite_entries es hus)

end

/-- What is written for data is in the grammar, if and only if all floats of the data are finite. -/
theorem isJson_iff (h : write wire v = .ok t) : IsJson t ↔ IsFinite v := by
  refine ⟨fun hjson => ?_, fun hfinite => ?_⟩
  · refine Classical.byContradiction fun hnot => ?_
    exact hjson.isQuiet.quiet ((tellsFinite_written v h).loud hnot)
  · have hspaced := IsItem.spaced isBlank_nil (isValue_written v hfinite h) isBlank_nil
    simpa using hspaced

end ScriptHost.Proofs.StrictJson
