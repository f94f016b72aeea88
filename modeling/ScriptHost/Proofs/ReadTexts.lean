import ScriptHost.Proofs.ReadTokens

/-!
# What is read is what the text means

A text that is read has the value as its meaning.  Of the meanings of a text the value is read, unless the
text has an integer that is too long.
-/

namespace ScriptHost.Proofs.ReadTexts

open Json
open ScriptHost.Proofs.JsonData (Gives)
open ScriptHost.Proofs.JsonMeanings
open ScriptHost.Proofs.NormalForms (gathered)
open ScriptHost.Proofs.Numerals (signChars)
open ScriptHost.Proofs.ReadTokens
open ScriptHost.Proofs.RoundTrip
open ScriptHost.Proofs.ScannedStrings (eq_of_ascii)
open ScriptHost.Proofs.ScannedNumbers (toNat_digit)
open ScriptHost.Proofs.Scanning (val_ofChar)
open ScriptHost.Proofs.StrictJson (IsBlank)
open ScriptHost.Proofs.TextTrees (textEntries)

variable {position fuel : Nat} {t u b rest : Text} {c : CodePoint} {d : Dialect} {v : HostValue}

/-! ## White space -/

/-- A text goes on with no white space. -/
def EndsBlank (t : Text) : Prop := ∀ c ∈ t.head?, isSpace c = false

theorem isSpace_blank : ∀ c ∈ [' ', '\t', '\n', '\r'].map CodePoint.ofChar, isSpace c = true := by decide

theorem blank_of_isSpace (h : isSpace c = true) : c ∈ [' ', '\t', '\n', '\r'].map CodePoint.ofChar := by
  unfold isSpace at h
  split at h
  case h_5 => cases h
  all_goals
    rename_i hc
    rw [eq_of_ascii hc (by decide)]
    decide

theorem skipSpace_split (position : Nat) (t : Text) : ∃ b, IsBlank b ∧
    t = b ++ (Cursor.skipSpace ⟨position, t⟩).rest ∧ EndsBlank (Cursor.skipSpace ⟨position, t⟩).rest := by
  induction t generalizing position with
  | nil => exact ⟨[], by simp [IsBlank], rfl, by simp [EndsBlank, Cursor.skipSpace, Json.skipSpace]⟩
  | cons c t ih =>
      cases hc : isSpace c with
      | true =>
          obtain ⟨b, hb, ht, hends⟩ := ih (position + 1)
          have hskip : Cursor.skipSpace ⟨position, c :: t⟩ = Cursor.skipSpace ⟨position + 1, t⟩ := if_pos hc
          rw [hskip]
          exact ⟨c :: b, List.forall_mem_cons.mpr ⟨blank_of_isSpace hc, hb⟩, by rw [List.cons_append, ← ht], hends⟩
      | false =>
          rw [skipSpace_cons position t hc]
          exact ⟨[], by simp [IsBlank], rfl, by simpa [EndsBlank] using hc⟩

theorem skipSpace_past (hb : IsBlank b) (hrest : EndsBlank rest) (position : Nat) :
    ∃ next, Cursor.skipSpace ⟨position, b ++ rest⟩ = ⟨next, rest⟩ := by
  induction b generalizing position with
  | nil =>
      cases rest with
      | nil => exact ⟨_, rfl⟩
      | cons c rest => exact ⟨_, skipSpace_cons position rest (hrest c rfl)⟩
  | cons c b ih =>
      obtain ⟨hc, hb⟩ := List.forall_mem_cons.mp hb
      obtain ⟨next, hnext⟩ := ih hb (position + 1)
      refine ⟨next, ?_⟩
      rw [← hnext]
      exact if_pos (isSpace_blank c hc)

/-! ## Values with white space around them -/

/-- Reads a value and the white space around it. -/
def readItem (fuel : Nat) (c : Cursor) : Except ReadError (HostValue × Cursor) := do
  let (v, c) ← readValue fuel c.skipSpace
  return (v, c.skipSpace)

theorem readItems_item (fuel : Nat) (acc : List HostValue) (c : Cursor) :
    readItems (fuel + 1) acc c.skipSpace = (do
      let (v, c) ← readItem fuel c
      match c.rest with
      | d :: rest =>
        match d.ascii with
        | ']' => return ((v :: acc).reverse, ⟨c.position + 1, rest⟩)
        | ',' => readItems fuel (v :: acc) (Cursor.skipSpace ⟨c.position + 1, rest⟩)
        | _ => .error (.syntaxError .expectingComma c.position)
      | [] => .error (.syntaxError .expectingComma c.position)) := by
  unfold readItem
  rw [readItems]
  cases readValue fuel c.skipSpace with
  | error e => rfl
  | ok r => rfl

/-- Reads the value of an entry and what follows it. -/
def readRest (fuel : Nat) (acc : List (Text × HostValue)) (key : Text) (c : Cursor) :
    Except ReadError (List (Text × HostValue) × Cursor) := do
  let (v, c) ← readItem fuel c
  match c.rest with
  | d :: rest =>
    match d.ascii with
    | '\x7d' => return (HostValue.insertEntry acc key v, ⟨c.position + 1, rest⟩)
    | ',' => readEntries fuel (HostValue.insertEntry acc key v) (Cursor.skipSpace ⟨c.position + 1, rest⟩)
    | _ => .error (.syntaxError .expectingComma c.position)
  | [] => .error (.syntaxError .expectingComma c.position)

theorem readEntries_rest (fuel : Nat) (acc : List (Text × HostValue)) (c : Cursor) :
    readEntries (fuel + 1) acc c =
      (match c.rest with
      | [] => .error (.syntaxError .expectingName c.position)
      | q :: rest =>
        if q.ascii != '"' then .error (.syntaxError .expectingName c.position)
        else do
          let (key, c) ← readString ⟨c.position + 1, rest⟩
          let c := c.skipSpace
          match c.rest with
          | [] => .error (.syntaxError .expectingColon c.position)
          | colon :: rest =>
            if colon.ascii != ':' then .error (.syntaxError .expectingColon c.position)
            else readRest fuel acc key ⟨c.position + 1, rest⟩) := by
  have hrest (key : Text) (c : Cursor) : readRest fuel acc key c = (do
      let (v, c) ← readValue fuel c.skipSpace
      let acc := HostValue.insertEntry acc key v
      let c := c.skipSpace
      match c.rest with
      | d :: rest =>
        let next : Cursor := ⟨c.position + 1, rest⟩
        match d.ascii with
        | '\x7d' => return (acc, next)
        | ',' => readEntries fuel acc next.skipSpace
        | _ => .error (.syntaxError .expectingComma c.position)
      | [] => .error (.syntaxError .expectingComma c.position)) := by
    unfold readRest readItem
    cases readValue fuel c.skipSpace with
    | error e => rfl
    | ok r => rfl
  simp only [hrest]
  rewrite [readEntries]
  rfl

theorem readText_item (t : Text) :
    readText t = (do
      if (t.head?.map (·.val)) == some 0xFEFF then throw (.syntaxError .byteOrderMark 0)
      let (v, c) ← readItem (2 * t.length + 2) ⟨0, t⟩
      if c.rest.isEmpty then return v else throw (.syntaxError .extraData c.position)) := by
  unfold readText readItem Cursor.skipSpace
  cases readValue (2 * t.length + 2) (skipSpace 0 t) with
  | error e => rfl
  | ok r => rfl

/-! ## What is read has the value as its meaning -/

theorem isBlank_append (ht : IsBlank t) (hu : IsBlank u) : IsBlank (t ++ u) :=
  List.forall_mem_append.mpr ⟨ht, hu⟩

theorem blank_itemsMean {vs : List HostValue} (hb : IsBlank b) (h : ItemsMean d t vs) : ItemsMean d (b ++ t) vs := by
  have hitem {t : Text} {v : HostValue} (h : ItemMeans d t v) : ItemMeans d (b ++ t) v := by
    cases h with
    | spaced hbefore h hafter =>
        rw [← List.append_assoc]
        exact .spaced (isBlank_append hb hbefore) h hafter
  cases h with
  | one h => exact .one (hitem h)
  | more h hmore =>
      rw [← List.append_assoc]
      exact .more (hitem h) hmore

theorem blank_membersMean {es : List (Text × HostValue)} (hb : IsBlank b) (h : MembersMean d t es) :
    MembersMean d (b ++ t) es := by
  cases h with
  | one hbefore hkey hafter h =>
      rw [← List.append_assoc]
      exact .one (isBlank_append hb hbefore) hkey hafter h
  | more hbefore hkey hafter h hmore =>
      rw [← List.append_assoc]
      exact .more (isBlank_append hb hbefore) hkey hafter h hmore

/-- Entries put in one after the other. -/
def inserted (acc es : List (Text × HostValue)) : List (Text × HostValue) :=
  es.foldl (fun acc e => HostValue.insertEntry acc e.1 e.2) acc

/-- What each of the readers takes off the text means what it gives. -/
structure ReadsMeanings (fuel : Nat) : Prop where
  value : ∀ c, Gives (fun r => ∃ t, c.rest = t ++ r.2.rest ∧ ValueMeans .loose t r.1) (readValue fuel c)
  items : ∀ acc c, Gives (fun r => ∃ t vs, c.rest = t ++ CodePoint.ofChar ']' :: r.2.rest ∧
    ItemsMean .loose t vs ∧ r.1 = acc.reverse ++ vs) (readItems fuel acc c)
  entries : ∀ acc c, Gives (fun r => ∃ t es, c.rest = t ++ CodePoint.ofChar '\x7d' :: r.2.rest ∧
    MembersMean .loose t es ∧ r.1 = inserted acc es) (readEntries fuel acc c)

theorem readItem_gives (h : ReadsMeanings fuel) (c : Cursor) :
    Gives (fun r => ∃ t, c.rest = t ++ r.2.rest ∧ ItemMeans .loose t r.1) (readItem fuel c) := by
  obtain ⟨b, hb, hc, -⟩ := skipSpace_split c.position c.rest
  refine (h.value c.skipSpace).bind fun r hr => .ok ?_
  obtain ⟨t, ht, hv⟩ := hr
  obtain ⟨a, ha, hr, -⟩ := skipSpace_split r.2.position r.2.rest
  refine ⟨b ++ (t ++ a), ?_, .spaced hb hv ha⟩
  have hc : c.rest = b ++ c.skipSpace.rest := hc
  rw [hc, ht, hr]
  simp [Cursor.skipSpace]

theorem readItems_gives (h : ReadsMeanings fuel) (acc : List HostValue) (c : Cursor) :
    Gives (fun r => ∃ t vs, c.rest = t ++ CodePoint.ofChar ']' :: r.2.rest ∧
      ItemsMean .loose t vs ∧ r.1 = acc.reverse ++ vs) (readItems (fuel + 1) acc c) := by
  rw [readItems]
  refine (h.value c).bind fun r hv => ?_
  obtain ⟨v, after⟩ := r
  obtain ⟨t, ht, hv⟩ := hv
  obtain ⟨a, ha, hafter, -⟩ := skipSpace_split after.position after.rest
  have hitem : ItemMeans .loose (t ++ a) v := .spaced (show IsBlank [] by simp [IsBlank]) hv ha
  dsimp only at ht ⊢
  rw [hafter] at ht
  split
  · rename_i d rest hnext
    rw [show Cursor.skipSpace ⟨after.position, after.rest⟩ = after.skipSpace from rfl, hnext] at ht
    split
    · rename_i hclose
      rw [eq_of_ascii hclose (by decide)] at ht
      exact .ok ⟨t ++ a, [v], by simp [ht], .one hitem, List.reverse_cons⟩
    · rename_i hcomma
      rw [eq_of_ascii hcomma (by decide)] at ht
      refine fun r hr => ?_
      obtain ⟨u, vs, hu, hvs, hr⟩ := h.items _ _ r hr
      obtain ⟨b, hb, hrest, -⟩ := skipSpace_split (after.skipSpace.position + 1) rest
      rw [hrest, hu] at ht
      refine ⟨(t ++ a) ++ (CodePoint.ofChar ',' :: (b ++ u)), v :: vs, by simp [ht],
        .more hitem (blank_itemsMean hb hvs), ?_⟩
      rw [hr, List.reverse_cons, List.append_assoc, List.singleton_append]
    · exact .error
  · exact .error

theorem readRest_gives (h : ReadsMeanings fuel) (acc : List (Text × HostValue)) (key : Text) (c : Cursor) :
    Gives (fun r => ∃ t v, ItemMeans .loose t v ∧
      (c.rest = t ++ CodePoint.ofChar '\x7d' :: r.2.rest ∧ r.1 = HostValue.insertEntry acc key v ∨
        ∃ u es, c.rest = t ++ CodePoint.ofChar ',' :: (u ++ CodePoint.ofChar '\x7d' :: r.2.rest) ∧
          MembersMean .loose u es ∧ r.1 = inserted acc ((key, v) :: es))) (readRest fuel acc key c) := by
  refine (readItem_gives h c).bind fun ⟨v, after⟩ hv => ?_
  obtain ⟨t, ht, hv⟩ := hv
  dsimp only at ht ⊢
  split
  · rename_i d rest hnext
    rw [hnext] at ht
    split
    · rename_i hclose
      rw [eq_of_ascii hclose (by decide)] at ht
      exact .ok ⟨t, v, hv, .inl ⟨ht, rfl⟩⟩
    · rename_i hcomma
      rw [eq_of_ascii hcomma (by decide)] at ht
      refine fun r hr => ?_
      obtain ⟨u, es, hu, hes, hr⟩ := h.entries _ _ r hr
      obtain ⟨b, hb, hrest, -⟩ := skipSpace_split (after.position + 1) rest
      rw [hrest, hu] at ht
      exact ⟨t, v, hv, .inr ⟨b ++ u, es, by simp [ht], blank_membersMean hb hes, hr⟩⟩
    · exact .error
  · exact .error

theorem readEntries_gives (h : ReadsMeanings fuel) (acc : List (Text × HostValue)) (c : Cursor) :
    Gives (fun r => ∃ t es, c.rest = t ++ CodePoint.ofChar '\x7d' :: r.2.rest ∧
      MembersMean .loose t es ∧ r.1 = inserted acc es) (readEntries (fuel + 1) acc c) := by
  rw [readEntries_rest]
  split
  · exact .error
  · rename_i q rest hc
    split_ifs with hquote
    · exact .error
    · obtain rfl : q = CodePoint.ofChar '"' := eq_of_ascii (by simpa using hquote) (by decide)
      refine (readString_gives _).bind fun ⟨key, after⟩ hkey => ?_
      obtain ⟨u, xs, hu, hxs, hkey⟩ := hkey
      obtain ⟨a, ha, hafter, -⟩ := skipSpace_split after.position after.rest
      dsimp only at hu hkey ⊢
      split
      · exact .error
      · rename_i colon rest' hcolon
        split_ifs with hmark
        · exact .error
        · obtain rfl : colon = CodePoint.ofChar ':' := eq_of_ascii (by simpa using hmark) (by decide)
          refine fun r hr => ?_
          obtain ⟨t, v, hv, hr⟩ := readRest_gives h acc key _ r hr
          rw [show Cursor.skipSpace ⟨after.position, after.rest⟩ = after.skipSpace from rfl, hcolon] at hafter
          have hstart : c.rest = [] ++ ((CodePoint.ofChar '"' :: u ++ [CodePoint.ofChar '"']) ++
              (a ++ (CodePoint.ofChar ':' :: rest'))) := by simp [hc, hu, hafter]
          have hblank : IsBlank [] := by simp [IsBlank]
          subst hkey
          rcases hr with ⟨hrest, hr⟩ | ⟨w, es, hrest, hes, hr⟩
          · refine ⟨_, _, ?_, .one hblank hxs ha hv, hr⟩
            rw [hstart, show rest' = _ from hrest]
            simp
          · refine ⟨_, _, ?_, .more hblank hxs ha hv hes, hr⟩
            rw [hstart, show rest' = _ from hrest]
            simp

theorem readValue_gives (h : ReadsMeanings fuel) (c : Cursor) :
    Gives (fun r => ∃ t, c.rest = t ++ r.2.rest ∧ ValueMeans .loose t r.1) (readValue (fuel + 1) c) := by
  unfold readValue
  split
  · exact .error
  · rename_i d rest hc
    obtain ⟨b, hb, hrest, -⟩ := skipSpace_split (c.position + 1) rest
    dsimp only
    split
    · rename_i hquote
      rw [eq_of_ascii hquote (by decide)] at hc
      refine (readString_gives _).bind fun r hs => .ok ?_
      obtain ⟨s, after⟩ := r
      obtain ⟨u, xs, hu, hxs, hs⟩ := hs
      obtain rfl : s = spelled xs := hs
      refine ⟨_, ?_, .string hxs⟩
      rw [hc, show rest = _ from hu]
      simp
    · rename_i hbrace
      rw [eq_of_ascii hbrace (by decide)] at hc
      split
      · rename_i e tail hnext
        split_ifs with hclose
        · rw [hnext, eq_of_ascii (beq_iff_eq.mp hclose) (by decide)] at hrest
          exact .ok ⟨_, by simp [hc, hrest], .emptyRecord hb⟩
        · refine (h.entries [] _).bind fun r hes => .ok ?_
          obtain ⟨es, after⟩ := r
          obtain ⟨t, es', ht, hmembers, rfl⟩ := hes
          rw [ht] at hrest
          refine ⟨_, ?_, .record (blank_membersMean hb hmembers)⟩
          rw [hc, hrest]
          simp
      · exact .error
    · rename_i hbracket
      rw [eq_of_ascii hbracket (by decide)] at hc
      split
      · rename_i e tail hnext
        split_ifs with hclose
        · rw [hnext, eq_of_ascii (beq_iff_eq.mp hclose) (by decide)] at hrest
          exact .ok ⟨_, by simp [hc, hrest], .emptyList hb⟩
        · refine (h.items [] _).bind fun r hvs => .ok ?_
          obtain ⟨vs, after⟩ := r
          obtain ⟨t, vs', ht, hitems, rfl⟩ := hvs
          rw [ht] at hrest
          refine ⟨_, ?_, .list (blank_itemsMean hb hitems)⟩
          rw [hc, hrest]
          simp
      · exact .error
    · split
      · rename_i hword
        obtain ⟨w, hw, ht, rfl⟩ := scanWord_some hword
        exact .ok ⟨_, ht, .word hw⟩
      · split
        · exact .error
        · rename_i hnumber
          obtain ⟨ds, hds, ht⟩ := scanNumber_some hnumber
          exact (value_gives hds).bind fun v hv => .ok ⟨_, ht, .number hv⟩

theorem readsMeanings (fuel : Nat) : ReadsMeanings fuel := by
  induction fuel with
  | zero => exact ⟨fun _ => .error, fun _ _ => .error, fun _ _ => .error⟩
  | succ fuel ih => exact ⟨readValue_gives ih, readItems_gives ih, readEntries_gives ih⟩

/-- The value that is read of a text is what the text means. -/
theorem readText_gives (t : Text) : Gives (Means .loose t) (readText t) := by
  rw [readText_item]
  dsimp only
  split
  · exact .error
  · refine (readItem_gives (readsMeanings _) _).bind fun ⟨v, after⟩ hv => ?_
    obtain ⟨u, hu, hv⟩ := hv
    dsimp only at hu ⊢
    split_ifs with hempty
    · rw [List.isEmpty_iff.mp hempty, List.append_nil] at hu
      rw [hu]
      exact .ok hv
    · exact .error

/-! ## What a text means is read -/

/-- A reader gives a value and leaves what follows, or finds an integer that is too long for it and not for
the dialect. -/
def Reads {α : Type} (d : Dialect) (x : Except ReadError (α × Cursor)) (a : α) (rest : Text) : Prop :=
  (∃ next, x = .ok (a, ⟨next, rest⟩)) ∨ ∃ n, maxIntegerDigits < n ∧ d.Admits n ∧ x = .error (.tooManyDigits n)

namespace Reads

variable {α β : Type} {x : Except ReadError (α × Cursor)} {k : α × Cursor → Except ReadError (β × Cursor)}
  {a : α} {a' : β} {rest' : Text}

theorem ok (next : Nat) : Reads d (.ok (a, ⟨next, rest⟩)) a rest := .inl ⟨next, rfl⟩

theorem bind (hx : Reads d x a rest) (hk : ∀ next, Reads d (k (a, ⟨next, rest⟩)) a' rest') :
    Reads d (x >>= k) a' rest' := by
  rcases hx with ⟨next, rfl⟩ | ⟨n, hlong, hadmits, rfl⟩
  · exact hk next
  · exact .inr ⟨n, hlong, hadmits, rfl⟩

end Reads

theorem follows_comma (t : Text) : Follows (CodePoint.ofChar ',' :: t) ∧ EndsBlank (CodePoint.ofChar ',' :: t) :=
  ⟨follows_cons (by decide), by rintro c ⟨⟩; rfl⟩

theorem follows_bracket (t : Text) : Follows (CodePoint.ofChar ']' :: t) ∧ EndsBlank (CodePoint.ofChar ']' :: t) :=
  ⟨follows_cons (by decide), by rintro c ⟨⟩; rfl⟩

theorem follows_brace (t : Text) :
    Follows (CodePoint.ofChar '\x7d' :: t) ∧ EndsBlank (CodePoint.ofChar '\x7d' :: t) :=
  ⟨follows_cons (by decide), by rintro c ⟨⟩; rfl⟩

/-- What a value starts with. -/
theorem value_starts (hwords : d.words ⊆ words) (h : ValueMeans d t v) : StartsValue t := by
  cases h with
  | word hw =>
      obtain ⟨c, u, hu, hspace, hclose, -⟩ := words_start _ (hwords hw)
      exact ⟨c, u, hu, hspace, hclose⟩
  | number h =>
      obtain ⟨token, htoken, -⟩ := number_spells h
      obtain ⟨negative, c, cs, rfl, hc⟩ := number_start htoken
      obtain ⟨c, u, hu, hspace, hclose, -⟩ := numeral_start negative hc cs
      exact ⟨c, u, hu, hspace, hclose⟩
  | string => exact ⟨_, _, rfl, by decide, by decide⟩
  | emptyList | list => exact ⟨_, _, rfl, by decide, by decide⟩
  | emptyRecord | record => exact ⟨_, _, rfl, by decide, by decide⟩

theorem StartsValue.endsBlank (h : StartsValue t) : EndsBlank t := by
  obtain ⟨c, u, rfl, hspace, -⟩ := h
  rintro c ⟨⟩
  exact hspace

/-- Items that are read after white space, up to the bracket after them. -/
def ReadsItems (d : Dialect) (t : Text) (vs : List HostValue) : Prop :=
  ∀ fuel position acc rest, t.length < fuel →
    Reads d (readItems fuel acc (Cursor.skipSpace ⟨position, t ++ CodePoint.ofChar ']' :: rest⟩))
      (acc.reverse ++ vs) rest

/-- Entries that are read after white space, up to the bracket after them. -/
def ReadsEntries (d : Dialect) (t : Text) (es : List (Text × HostValue)) : Prop :=
  ∀ fuel position acc rest, t.length < fuel →
    Reads d (readEntries fuel acc (Cursor.skipSpace ⟨position, t ++ CodePoint.ofChar '\x7d' :: rest⟩))
      (inserted acc es) rest

def ReadsValue (d : Dialect) (t : Text) (v : HostValue) : Prop :=
  ∀ fuel position rest, t.length ≤ fuel → Follows rest → Reads d (readValue fuel ⟨position, t ++ rest⟩) v rest

def ReadsItem (d : Dialect) (t : Text) (v : HostValue) : Prop :=
  ∀ fuel position rest, t.length ≤ fuel → Follows rest → EndsBlank rest →
    Reads d (readItem fuel ⟨position, t ++ rest⟩) v rest

variable {vs : List HostValue} {es : List (Text × HostValue)} {before key after : Text} {xs : List StringUnit}

theorem readsValue_word (w : String × HostValue) (hw : w ∈ words) : ReadsValue d (Text.ofString w.1) w.2 := by
  intro fuel position rest hfuel hrest
  obtain ⟨c, t, ht, -⟩ := words_start w hw
  rw [ht, List.length_cons] at hfuel
  obtain ⟨fuel, rfl⟩ : ∃ n, fuel = n + 1 := ⟨fuel - 1, by omega⟩
  exact .inl (readValue_word hw fuel position rest)

theorem readsValue_number {ds : List Char} (h : NumberMeans d ds v) : ReadsValue d (ds.map CodePoint.ofChar) v := by
  intro fuel position rest hfuel hrest
  obtain ⟨token, htoken, hvalue⟩ := number_spells h
  have hnumber := scanNumber_spells htoken hrest
  obtain ⟨negative, c, cs, rfl, hc⟩ := number_start htoken
  obtain ⟨fuel, rfl⟩ : ∃ n, fuel = n + 1 := ⟨fuel - 1, by simp at hfuel; omega⟩
  obtain ⟨next, hread⟩ := readValue_numeral hc hnumber fuel position
  rw [hread]
  rcases hvalue with hvalue | ⟨n, hlong, hadmits, hvalue⟩
  · rw [hvalue]
    exact .ok next
  · rw [hvalue]
    exact .inr ⟨n, hlong, hadmits, rfl⟩

theorem readsValue_string (h : UnitsMean t xs) :
    ReadsValue d (CodePoint.ofChar '"' :: t ++ [CodePoint.ofChar '"']) (.str (spelled xs)) := by
  intro fuel position rest hfuel hrest
  obtain ⟨fuel, rfl⟩ : ∃ n, fuel = n + 1 := ⟨fuel - 1, by simp at hfuel; omega⟩
  obtain ⟨next, hread⟩ := readString_units (position + 1) rest h
  rw [List.cons_append, List.cons_append, List.append_assoc, List.singleton_append, readValue]
  change Reads d (do
    let (s, c) ← readString ⟨position + 1, t ++ CodePoint.ofChar '"' :: rest⟩
    return (HostValue.str s, c)) _ _
  rw [hread]
  exact .ok next

theorem readsItem_spaced (hbefore : IsBlank before) (hstarts : StartsValue t) (h : ReadsValue d t v)
    (hafter : IsBlank after) : ReadsItem d (before ++ (t ++ after)) v := by
  intro fuel position rest hfuel hrest hends
  simp only [List.length_append] at hfuel
  obtain ⟨start, hskip⟩ := skipSpace_past hbefore (StartsValue.endsBlank (hstarts.append (after ++ rest))) position
  have htext : before ++ (t ++ after) ++ rest = before ++ (t ++ (after ++ rest)) := by simp
  unfold readItem
  rw [htext, hskip]
  refine (h fuel start (after ++ rest) (by omega) (follows_blank hafter hrest)).bind fun next => ?_
  obtain ⟨stop, hstop⟩ := skipSpace_past hafter hends next
  dsimp only
  rw [hstop]
  exact .ok stop

theorem readsItems_one (h : ReadsItem d t v) : ReadsItems d t [v] := by
  intro fuel position acc rest hfuel
  obtain ⟨fuel, rfl⟩ : ∃ n, fuel = n + 1 := ⟨fuel - 1, by omega⟩
  obtain ⟨hfollows, hends⟩ := follows_bracket rest
  rw [readItems_item, ← List.reverse_cons]
  exact (h fuel position _ (by omega) hfollows hends).bind fun next => .ok _

theorem readsItems_more (h : ReadsItem d t v) (hmore : ReadsItems d u vs) :
    ReadsItems d (t ++ (CodePoint.ofChar ',' :: u)) (v :: vs) := by
  intro fuel position acc rest hfuel
  simp only [List.length_append, List.length_cons] at hfuel
  obtain ⟨fuel, rfl⟩ : ∃ n, fuel = n + 1 := ⟨fuel - 1, by omega⟩
  obtain ⟨hfollows, hends⟩ := follows_comma (u ++ CodePoint.ofChar ']' :: rest)
  rw [readItems_item, List.append_assoc, List.cons_append]
  refine (h fuel position _ (by omega) hfollows hends).bind fun next => ?_
  have hothers := hmore fuel (next + 1) (v :: acc) rest (by omega)
  rwa [List.reverse_cons, List.append_assoc, List.singleton_append] at hothers

/-- A key is read up to the value after it. -/
theorem readEntries_key (hbefore : IsBlank before) (hkey : UnitsMean key xs) (hafter : IsBlank after)
    (fuel position : Nat) (acc : List (Text × HostValue)) (rest : Text) :
    ∃ next, readEntries (fuel + 1) acc (Cursor.skipSpace ⟨position,
        before ++ ((CodePoint.ofChar '"' :: key ++ [CodePoint.ofChar '"']) ++
          (after ++ (CodePoint.ofChar ':' :: rest)))⟩) =
      readRest fuel acc (spelled xs) ⟨next, rest⟩ := by
  have hquote (t : Text) : EndsBlank (CodePoint.ofChar '"' :: t) := by
    rintro c ⟨⟩
    rfl
  have hcolon (t : Text) : EndsBlank (CodePoint.ofChar ':' :: t) := by
    rintro c ⟨⟩
    rfl
  obtain ⟨start, hstart⟩ := skipSpace_past hbefore
    (hquote (key ++ CodePoint.ofChar '"' :: (after ++ (CodePoint.ofChar ':' :: rest)))) position
  obtain ⟨next, hread⟩ := readString_units (start + 1) (after ++ (CodePoint.ofChar ':' :: rest)) hkey
  obtain ⟨stop, hstop⟩ := skipSpace_past hafter (hcolon rest) next
  rw [List.cons_append, List.cons_append, List.append_assoc, List.singleton_append, hstart, readEntries_rest]
  refine ⟨stop + 1, ?_⟩
  dsimp only
  rw [if_neg (by decide), hread]
  simp only [bind, Except.bind, hstop]
  exact if_neg (by decide)

theorem readsEntries_one (hbefore : IsBlank before) (hkey : UnitsMean key xs) (hafter : IsBlank after)
    (h : ReadsItem d t v) :
    ReadsEntries d (before ++ ((CodePoint.ofChar '"' :: key ++ [CodePoint.ofChar '"']) ++
      (after ++ (CodePoint.ofChar ':' :: t)))) [(spelled xs, v)] := by
  intro fuel position acc rest hfuel
  simp only [List.length_append, List.length_cons] at hfuel
  obtain ⟨fuel, rfl⟩ : ∃ n, fuel = n + 1 := ⟨fuel - 1, by omega⟩
  obtain ⟨hfollows, hends⟩ := follows_brace rest
  obtain ⟨next, hread⟩ := readEntries_key hbefore hkey hafter fuel position acc
    (t ++ CodePoint.ofChar '\x7d' :: rest)
  simp only [List.append_assoc, List.cons_append] at hread ⊢
  rw [hread]
  exact (h fuel next _ (by omega) hfollows hends).bind fun next => .ok _

theorem readsEntries_more (hbefore : IsBlank before) (hkey : UnitsMean key xs) (hafter : IsBlank after)
    (h : ReadsItem d t v) (hmore : ReadsEntries d u es) :
    ReadsEntries d (before ++ ((CodePoint.ofChar '"' :: key ++ [CodePoint.ofChar '"']) ++
      (after ++ (CodePoint.ofChar ':' :: (t ++ (CodePoint.ofChar ',' :: u)))))) ((spelled xs, v) :: es) := by
  intro fuel position acc rest hfuel
  simp only [List.length_append, List.length_cons] at hfuel
  obtain ⟨fuel, rfl⟩ : ∃ n, fuel = n + 1 := ⟨fuel - 1, by omega⟩
  obtain ⟨hfollows, hends⟩ := follows_comma (u ++ CodePoint.ofChar '\x7d' :: rest)
  obtain ⟨next, hread⟩ := readEntries_key hbefore hkey hafter fuel position acc
    (t ++ CodePoint.ofChar ',' :: (u ++ CodePoint.ofChar '\x7d' :: rest))
  simp only [List.append_assoc, List.cons_append] at hread ⊢
  rw [hread]
  refine (h fuel next _ (by omega) hfollows hends).bind fun next => ?_
  exact hmore fuel (next + 1) _ rest (by omega)

theorem readValue_items {next : Nat} (hskip : Cursor.skipSpace ⟨position + 1, t⟩ = ⟨next, c :: u⟩)
    (hclose : c.ascii ≠ ']') :
    readValue (fuel + 1) ⟨position, CodePoint.ofChar '[' :: t⟩ = (do
      let (items, c) ← readItems fuel [] (Cursor.skipSpace ⟨position + 1, t⟩)
      return (.list items, c)) := by
  rw [readValue]
  dsimp only
  simp only [hskip, beq_iff_eq, hclose, if_false]
  rfl

theorem readValue_entries {next : Nat} (hskip : Cursor.skipSpace ⟨position + 1, t⟩ = ⟨next, c :: u⟩)
    (hclose : c.ascii ≠ '\x7d') :
    readValue (fuel + 1) ⟨position, CodePoint.ofChar '\x7b' :: t⟩ = (do
      let (entries, c) ← readEntries fuel [] (Cursor.skipSpace ⟨position + 1, t⟩)
      return (.dict (entries.map fun e => (.str e.1, e.2)), c)) := by
  rw [readValue]
  dsimp only
  simp only [hskip, beq_iff_eq, hclose, if_false]
  rfl

theorem readsValue_emptyList (hb : IsBlank b) :
    ReadsValue d (CodePoint.ofChar '[' :: (b ++ [CodePoint.ofChar ']'])) (.list []) := by
  intro fuel position rest hfuel hrest
  obtain ⟨fuel, rfl⟩ : ∃ n, fuel = n + 1 := ⟨fuel - 1, by simp at hfuel; omega⟩
  obtain ⟨next, hnext⟩ := skipSpace_past hb (follows_bracket rest).2 (position + 1)
  rw [List.cons_append, List.append_assoc, List.singleton_append, readValue]
  simp only [hnext]
  exact .ok _

theorem readsValue_emptyRecord (hb : IsBlank b) :
    ReadsValue d (CodePoint.ofChar '\x7b' :: (b ++ [CodePoint.ofChar '\x7d'])) (.dict []) := by
  intro fuel position rest hfuel hrest
  obtain ⟨fuel, rfl⟩ : ∃ n, fuel = n + 1 := ⟨fuel - 1, by simp at hfuel; omega⟩
  obtain ⟨next, hnext⟩ := skipSpace_past hb (follows_brace rest).2 (position + 1)
  rw [List.cons_append, List.append_assoc, List.singleton_append, readValue]
  simp only [hnext]
  exact .ok _

/-- A text starts with a value after white space. -/
def StartsItem (t : Text) : Prop := ∃ b u, IsBlank b ∧ StartsValue u ∧ t = b ++ u

theorem item_starts (hwords : d.words ⊆ words) (h : ItemMeans d t v) : StartsItem t := by
  cases h with
  | spaced hbefore h hafter => exact ⟨_, _, hbefore, (value_starts hwords h).append _, rfl⟩

theorem items_start (hwords : d.words ⊆ words) (h : ItemsMean d t vs) : StartsItem t := by
  cases h with
  | one h => exact item_starts hwords h
  | more h hmore =>
      obtain ⟨b, u, hb, hu, rfl⟩ := item_starts hwords h
      exact ⟨b, _, hb, hu.append _, List.append_assoc _ _ _⟩

theorem members_start (h : MembersMean d t es) : ∃ b u, IsBlank b ∧ t = b ++ CodePoint.ofChar '"' :: u := by
  cases h with
  | one hbefore | more hbefore => exact ⟨_, _, hbefore, rfl⟩

theorem readsValue_list (hstarts : StartsItem t) (h : ReadsItems d t vs) :
    ReadsValue d (CodePoint.ofChar '[' :: (t ++ [CodePoint.ofChar ']'])) (.list vs) := by
  intro fuel position rest hfuel hrest
  simp only [List.length_append, List.length_cons, List.length_nil] at hfuel
  obtain ⟨fuel, rfl⟩ : ∃ n, fuel = n + 1 := ⟨fuel - 1, by omega⟩
  obtain ⟨b, u, hb, ⟨c, w, rfl, hspace, hclose⟩, rfl⟩ := hstarts
  have hends : EndsBlank (c :: (w ++ CodePoint.ofChar ']' :: rest)) := by
    rintro c ⟨⟩
    exact hspace
  obtain ⟨next, hskip⟩ := skipSpace_past hb hends (position + 1)
  have hread := h fuel (position + 1) [] rest (by omega)
  rw [List.append_assoc, List.cons_append] at hread
  rw [List.cons_append, List.append_assoc, List.append_assoc, List.singleton_append, List.cons_append,
    readValue_items hskip hclose]
  exact hread.bind fun next => .ok next

theorem readsValue_record (hstarts : ∃ b u, IsBlank b ∧ t = b ++ CodePoint.ofChar '"' :: u)
    (h : ReadsEntries d t es) :
    ReadsValue d (CodePoint.ofChar '\x7b' :: (t ++ [CodePoint.ofChar '\x7d'])) (.dict (textEntries (gathered es))) := by
  intro fuel position rest hfuel hrest
  simp only [List.length_append, List.length_cons, List.length_nil] at hfuel
  obtain ⟨fuel, rfl⟩ : ∃ n, fuel = n + 1 := ⟨fuel - 1, by omega⟩
  obtain ⟨b, u, hb, rfl⟩ := hstarts
  have hends : EndsBlank (CodePoint.ofChar '"' :: (u ++ CodePoint.ofChar '\x7d' :: rest)) := by
    rintro c ⟨⟩
    rfl
  obtain ⟨next, hskip⟩ := skipSpace_past hb hends (position + 1)
  have hread := h fuel (position + 1) [] rest (by omega)
  rw [List.append_assoc, List.cons_append] at hread
  rw [List.cons_append, List.append_assoc, List.append_assoc, List.singleton_append, List.cons_append,
    readValue_entries hskip (by decide)]
  exact hread.bind fun next => .ok next

mutual

/-- What a text means is read up to what follows the text. -/
theorem readsValue (hwords : d.words ⊆ words) : ∀ {t : Text} {v : HostValue}, ValueMeans d t v → ReadsValue d t v
  | _, _, .word h => readsValue_word _ (hwords h)
  | _, _, .number h => readsValue_number h
  | _, _, .string h => readsValue_string h
  | _, _, .emptyList h => readsValue_emptyList h
  | _, _, .list h => readsValue_list (items_start hwords h) (readsItems hwords h)
  | _, _, .emptyRecord h => readsValue_emptyRecord h
  | _, _, .record h => readsValue_record (members_start h) (readsEntries hwords h)

theorem readsItem (hwords : d.words ⊆ words) : ∀ {t : Text} {v : HostValue}, ItemMeans d t v → ReadsItem d t v
  | _, _, .spaced hbefore h hafter => readsItem_spaced hbefore (value_starts hwords h) (readsValue hwords h) hafter

theorem readsItems (hwords : d.words ⊆ words) : ∀ {t : Text} {vs : List HostValue},
    ItemsMean d t vs → ReadsItems d t vs
  | _, _, .one h => readsItems_one (readsItem hwords h)
  | _, _, .more h hmore => readsItems_more (readsItem hwords h) (readsItems hwords hmore)

theorem readsEntries (hwords : d.words ⊆ words) : ∀ {t : Text} {es : List (Text × HostValue)},
    MembersMean d t es → ReadsEntries d t es
  | _, _, .one hbefore hkey hafter h => readsEntries_one hbefore hkey hafter (readsItem hwords h)
  | _, _, .more hbefore hkey hafter h hmore =>
      readsEntries_more hbefore hkey hafter (readsItem hwords h) (readsEntries hwords hmore)

end

/-- No text with a meaning starts with a byte order mark. -/
theorem item_head (hwords : d.words ⊆ words) (h : ItemMeans d t v) : ∀ c ∈ t.head?, c.val < 128 := by
  have hvalue {t : Text} {v : HostValue} (h : ValueMeans d t v) : ∃ c u, t = c :: u ∧ c.val < 128 := by
    cases h with
    | @word w hw =>
        have hheads : ∀ w ∈ words, ∃ c u, Text.ofString w.1 = c :: u ∧ c.val < 128 := by
          unfold words
          simp only [List.forall_mem_cons, List.not_mem_nil, false_implies, implies_true, and_true]
          refine ⟨?_, ?_, ?_, ?_, ?_, ?_⟩
          all_goals exact ⟨_, _, rfl, by decide⟩
        exact hheads w (hwords hw)
    | number h =>
        obtain ⟨token, htoken, -⟩ := number_spells h
        obtain ⟨negative, c, cs, rfl, hc⟩ := number_start htoken
        have hbound := toNat_digit hc
        cases negative with
        | true => exact ⟨_, _, rfl, by decide⟩
        | false => exact ⟨_, _, rfl, by rw [val_ofChar]; omega⟩
    | string | emptyList | list | emptyRecord | record => exact ⟨_, _, rfl, by decide⟩
  cases h with
  | @spaced before t after v hbefore h hafter =>
      intro c hc
      cases before with
      | nil =>
          obtain ⟨e, u, rfl, he⟩ := hvalue h
          cases hc
          exact he
      | cons e before =>
          cases hc
          have hblanks : ∀ c ∈ [' ', '\t', '\n', '\r'].map CodePoint.ofChar, c.val < 128 := by decide
          exact hblanks c (hbefore c List.mem_cons_self)

/-- What a text means is read, unless it has an integer that is too long. -/
theorem readText_means (hwords : d.words ⊆ words) (h : Means d t v) :
    readText t = .ok v ∨ ∃ n, maxIntegerDigits < n ∧ d.Admits n ∧ readText t = .error (.tooManyDigits n) := by
  have hmark : (t.head?.map (·.val) == some 0xFEFF) = false := by
    rw [beq_eq_false_iff_ne]
    intro heq
    obtain ⟨c, hc, hval⟩ := Option.map_eq_some_iff.mp heq
    have hlow := item_head hwords h c hc
    omega
  have hread := readsItem hwords h (2 * t.length + 2) 0 [] (by omega) follows_nil (by simp [EndsBlank])
  rw [List.append_nil] at hread
  rw [readText_item]
  simp only [hmark, Bool.false_eq_true, if_false]
  rcases hread with ⟨next, hread⟩ | ⟨n, hlong, hadmits, hread⟩
  · rw [hread]
    exact .inl rfl
  · rw [hread]
    exact .inr ⟨n, hlong, hadmits, rfl⟩

theorem read_eq_ok_iff : Json.read t = .ok v ↔ readText t = .ok v := by
  unfold Json.read
  split
  · rename_i w hw
    rw [hw, Except.ok.injEq, Except.ok.injEq]
  · rename_i e he
    rw [he]
    simp

/-- What is read of a text is what the text means with the words for floats that JSON has no word for, where
integers are not too long. -/
theorem read_iff_means : Json.read t = .ok v ↔ Means .loose t v := by
  rw [read_eq_ok_iff]
  constructor
  · exact readText_gives t v
  · intro h
    rcases readText_means (fun _ hw => hw) h with hread | ⟨n, hlong, hadmits, -⟩
    · exact hread
    · exact absurd (hadmits maxIntegerDigits rfl) (Nat.not_le_of_lt hlong)

/-- Of a text that has a meaning in JSON, the meaning is what is read, if anything is. -/
theorem eq_of_strict {w : HostValue} (h : Means .strict t v) (hread : Json.read t = .ok w) : w = v := by
  have hstrict : Dialect.strict.words ⊆ words := by simp [Dialect.strict, words]
  rw [read_eq_ok_iff] at hread
  rcases readText_means hstrict h with hread' | ⟨n, -, -, hread'⟩
  · rw [hread] at hread'
    exact Except.ok.inj hread'
  · rw [hread] at hread'
    cases hread'

end ScriptHost.Proofs.ReadTexts
