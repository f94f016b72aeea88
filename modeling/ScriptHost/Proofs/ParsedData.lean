import ScriptHost.Proofs.DataTrees
import ScriptHost.Proofs.ParsedScalars

/-!
# Reading data from a script

The text that is written for a value of plain data is read by the script's own reader as what the
data denotes, if no float of it is infinite or no number.
-/

namespace ScriptHost.Proofs.ParsedData

open Script
open Script.Library.JsonText hiding unitEscape
open Json (write writeString writeItems wire bracketed keyText)
open ScriptHost.Proofs.Scanning
open ScriptHost.Proofs.ScannedNumbers
open ScriptHost.Proofs.Numerals
open ScriptHost.Proofs.DataTokens
open ScriptHost.Proofs.DataTrees
open ScriptHost.Proofs.ParsedScalars

variable {t u rest : Text} {ts : List Text} {r r' : JsonReader} {d : Data} {ds : List Data}
  {v : HostValue} {xs : List HostValue} {es : List (HostValue × HostValue)}

/-! ## What data denotes -/

/-- What a float denotes. -/
def floatDatum : Binary.Parts → Data
  | .finite negative significand exponent => .number (numeralValue negative (magnitude significand exponent))
  | _ => .null

mutual

/-- What plain data denotes. -/
def datum : HostValue → Data
  | .bool b => .bool b
  | .int i | .intMember i => .number (numeralValue (i < 0) (natural i.natAbs))
  | .float x => floatDatum (Binary.Parts.ofFloat x)
  | .str t | .strMember t => .text (Utf16.ofText t)
  | .list xs | .tuple xs => .list (itemData xs)
  | .dict es => .record (memberData es)
  | _ => .null

/-- What the items of a list denote. -/
def itemData : List HostValue → List Data
  | [] => []
  | v :: rest => datum v :: itemData rest

/-- What the entries of a dictionary denote. -/
def memberData : List (HostValue × HostValue) → List (Name × Data)
  | [] => []
  | (k, v) :: rest => (keyString k, datum v) :: memberData rest

end

/-! ## Scalars -/

/-- A token that closes no list and no object. -/
def Opens (token : JsonToken) : Prop :=
  token ≠ .symbol (CodePoint.ofChar ']') ∧ token ≠ .symbol (CodePoint.ofChar '\x7d')

theorem opens_mark {m : Char} (hm : m ≠ ']' ∧ m ≠ '\x7d') :
    Opens (.symbol (CodePoint.ofChar m)) := by
  simpa [Opens, ofChar_inj] using hm

/-- A text that is read as data, whatever closes it. -/
structure IsParsedAs (t : Text) (d : Data) : Prop where
  nonempty : 0 < t.length
  begins : ∀ rest, Closes rest → ∃ token after, Begins (t ++ rest) token after ∧ Opens token ∧
    rest.length ≤ after.length
  reads : ∀ fuel r rest, t.length ≤ fuel → Closes rest → StandsAt r (t ++ rest) →
    ∃ r', readData fuel r = .ok (d, r') ∧ StandsAt r' rest

/-- A token that is data by itself. -/
inductive IsScalar : JsonToken → Data → Prop
  | text (s : Utf16) : IsScalar (.text s) (.text s)
  | number (v : Value) : IsScalar (.number v) (.number v)
  | true_ : IsScalar (.word "true") (.bool true)
  | false_ : IsScalar (.word "false") (.bool false)
  | null : IsScalar (.word "null") .null

theorem readData_scalar {token : JsonToken} (h : IsScalar token d) {fuel : Nat}
    (htoken : r.token = token) : readData (fuel + 1) r =
      (Script.Library.JsonText.next >>= fun _ => pure d) r := by
  obtain ⟨_, _, _, _⟩ := r
  cases htoken
  cases h with
  | text s => rfl
  | number v => rfl
  | true_ => rfl
  | false_ => rfl
  | null => rfl

theorem opens_scalar {token : JsonToken} (h : IsScalar token d) : Opens token := by
  unfold Opens
  cases h with
  | text s => simp
  | number v => simp
  | true_ => simp
  | false_ => simp
  | null => simp

/-- A text that is one token is read as what the token is. -/
theorem isParsedAs_scalar {token : JsonToken} (hscalar : IsScalar token d) (hpos : 0 < t.length)
    (h : ∀ rest, Closes rest → Begins (t ++ rest) token rest) : IsParsedAs t d := by
  refine ⟨hpos, fun rest hrest => ⟨token, rest, h rest hrest, opens_scalar hscalar, Nat.le_refl _⟩,
    fun fuel r rest hfuel hrest hr => ?_⟩
  obtain ⟨fuel, rfl⟩ : ∃ n, fuel = n + 1 := ⟨fuel - 1, by omega⟩
  obtain ⟨htoken, hafter⟩ := hr.taken (h rest hrest)
  obtain ⟨token', after, hbegins⟩ := begins_closes hrest
  obtain ⟨r', hnext, hr'⟩ := next_standsAt hafter hbegins
  exact ⟨r', by rw [readData_scalar hscalar htoken, bind_ok hnext]; rfl, hr'⟩

/-! ## Marks -/

/-- Whether a mark is at hand. -/
theorem atSymbol_run (n : Nat) (r : JsonReader) : atSymbol n r =
    .ok (match r.token with
      | .symbol c => decide (c.val = n)
      | _ => false, r) := by
  obtain ⟨_, _, token, _⟩ := r
  cases token with
  | symbol c => rfl
  | _ => rfl

theorem atSymbol_mark {m : Char} (h : r.token = .symbol (CodePoint.ofChar m)) (n : Nat) :
    atSymbol n r = .ok (decide (m.toNat = n), r) := by
  rw [atSymbol_run, h]
  rfl

theorem atSymbol_opens {m : Char} (hm : m = ']' ∨ m = '\x7d') (h : Opens r.token) :
    atSymbol m.toNat r = .ok (false, r) := by
  rw [atSymbol_run]
  split
  · rename_i c hc
    rw [hc] at h
    have hne : c.val ≠ m.toNat := by
      intro hval
      have hmark : c = CodePoint.ofChar m := (CodePoint.mk.injEq ..).mpr hval
      rcases hm with rfl | rfl
      · exact h.1 (hmark ▸ rfl)
      · exact h.2 (hmark ▸ rfl)
    rw [decide_eq_false hne]
  · rfl

/-- A mark that has to be at hand is taken. -/
theorem expectSymbol_mark {m : Char} {token : JsonToken} {after : Text}
    (htoken : r.token = .symbol (CodePoint.ofChar m)) (hrest : r.rest = t)
    (h : Begins t token after) :
    ∃ r', expectSymbol m.toNat r = .ok ((), r') ∧ StandsAt r' t := by
  obtain ⟨r', hnext, hr'⟩ := next_standsAt hrest h
  refine ⟨r', ?_, hr'⟩
  unfold expectSymbol
  rw [bind_ok (atSymbol_mark htoken _), decide_eq_true rfl]
  exact hnext

/-! ## Lists -/

/-- A text of items that are read up to the bracket after them. -/
structure AreParsedAs (u : Text) (ds : List Data) : Prop where
  count : ds.length ≤ u.length
  begins : ∀ rest, ∃ token after, Begins (u ++ CodePoint.ofChar ']' :: rest) token after ∧
    Opens token ∧ ds.length ≤ after.length + 1
  reads : ∀ fuel n r rest, u.length ≤ fuel → ds.length ≤ n →
    StandsAt r (u ++ CodePoint.ofChar ']' :: rest) →
    ∃ r', readItems (readData fuel) n r = .ok (ds, r') ∧ StandsAt r' (CodePoint.ofChar ']' :: rest)

theorem areParsedAs_one (h : IsParsedAs t d) : AreParsedAs t [d] := by
  refine ⟨h.nonempty, fun rest => ?_, fun fuel n r rest hfuel hn hr => ?_⟩
  · obtain ⟨token, after, hbegins, hopens, -⟩ := h.begins (CodePoint.ofChar ']' :: rest)
      (by simp [Closes, closers])
    exact ⟨token, after, hbegins, hopens, by simp⟩
  · obtain ⟨n, rfl⟩ : ∃ m, n = m + 1 := ⟨n - 1, by simp at hn; omega⟩
    obtain ⟨r', hread, hr'⟩ := h.reads fuel r (CodePoint.ofChar ']' :: rest) hfuel
      (by simp [Closes, closers]) hr
    refine ⟨r', ?_, hr'⟩
    obtain ⟨htoken, -⟩ := hr'.taken (begins_mark (by decide) rest)
    unfold readItems
    rw [bind_ok hread, bind_ok (atSymbol_mark htoken _)]
    rfl

theorem areParsedAs_cons (h : IsParsedAs t d) (hmore : AreParsedAs u ds) :
    AreParsedAs (t ++ (", " ++ u)) (d :: ds) := by
  have hcount := hmore.count
  have hpos := h.nonempty
  have htext (rest : Text) : t ++ (", " ++ u) ++ CodePoint.ofChar ']' :: rest =
      t ++ (CodePoint.ofChar ',' :: CodePoint.ofChar ' ' :: (u ++ CodePoint.ofChar ']' :: rest)) := by
    simp [Text.ofString]
  have hclose (rest : Text) : Closes (CodePoint.ofChar ',' :: CodePoint.ofChar ' ' ::
      (u ++ CodePoint.ofChar ']' :: rest)) := by simp [Closes, closers]
  have hseparator : (Text.ofString ", ").length = 2 := rfl
  refine ⟨?_, fun rest => ?_, fun fuel n r rest hfuel hn hr => ?_⟩
  · simp only [List.length_cons, List.length_append]
    omega
  · obtain ⟨token, after, hbegins, hopens, hafter⟩ := h.begins _ (hclose rest)
    refine ⟨token, after, htext rest ▸ hbegins, hopens, ?_⟩
    simp only [List.length_cons, List.length_append] at hafter ⊢
    omega
  · obtain ⟨n, rfl⟩ : ∃ m, n = m + 1 := ⟨n - 1, by simp at hn; omega⟩
    simp only [List.length_append, hseparator] at hfuel
    rw [htext] at hr
    obtain ⟨r₁, hread, hr₁⟩ := h.reads fuel r _ (by omega) (hclose rest) hr
    obtain ⟨htoken, hrest⟩ := hr₁.taken (begins_mark (by decide) _)
    obtain ⟨token, after, hbegins, -, -⟩ := hmore.begins rest
    obtain ⟨r₂, hnext, hr₂⟩ := next_standsAt hrest (begins_blank hbegins)
    obtain ⟨r', hothers, hr'⟩ := hmore.reads fuel n r₂ rest (by omega) (by simpa using hn)
      (hr₂.blank hbegins)
    refine ⟨r', ?_, hr'⟩
    unfold readItems
    rw [bind_ok hread, bind_ok (atSymbol_mark htoken _)]
    change (Script.Library.JsonText.next >>= fun _ => readItems (readData fuel) n >>= fun ds =>
      pure (d :: ds)) r₁ = _
    rw [bind_ok hnext, bind_ok hothers]
    rfl

/-- Data in brackets. -/
theorem readData_list {fuel : Nat} (htoken : r.token = .symbol (CodePoint.ofChar '[')) :
    readData (fuel + 1) r = (do
      Script.Library.JsonText.next
      let items ←
        if ← atSymbol 0x5D then pure []
        else do readItems (readData fuel) ((← get).rest.length + 2)
      expectSymbol 0x5D
      return Data.list items) r := by
  obtain ⟨_, _, _, _⟩ := r
  cases htoken
  rfl

theorem isParsedAs_list (h : AreParsedAs u ds) :
    IsParsedAs (CodePoint.ofChar '[' :: (u ++ [CodePoint.ofChar ']'])) (.list ds) := by
  have htext (rest : Text) : CodePoint.ofChar '[' :: (u ++ [CodePoint.ofChar ']']) ++ rest =
      CodePoint.ofChar '[' :: (u ++ CodePoint.ofChar ']' :: rest) := by simp
  refine ⟨by simp, fun rest hrest => ?_, fun fuel r rest hfuel hrest hr => ?_⟩
  · refine ⟨_, _, htext rest ▸ begins_mark (by decide) _, opens_mark (by decide), ?_⟩
    simp only [List.length_append, List.length_cons]
    omega
  · simp only [List.length_cons, List.length_append, List.length_nil] at hfuel
    obtain ⟨fuel, rfl⟩ : ∃ n, fuel = n + 1 := ⟨fuel - 1, by omega⟩
    rw [htext] at hr
    obtain ⟨htoken, hinside⟩ := hr.taken (begins_mark (by decide) _)
    obtain ⟨token, after, hbegins, hopens, hcount⟩ := h.begins rest
    obtain ⟨r₁, hnext, hr₁⟩ := next_standsAt hinside hbegins
    obtain ⟨htoken₁, hrest₁⟩ := hr₁.taken hbegins
    obtain ⟨r₂, hitems, hr₂⟩ := h.reads fuel (r₁.rest.length + 2) r₁ rest (by omega)
      (by rw [hrest₁]; omega) hr₁
    obtain ⟨htoken₂, hrest₂⟩ := hr₂.taken (begins_mark (by decide) rest)
    obtain ⟨token', after', hclosed⟩ := begins_closes hrest
    obtain ⟨r', hlast, hr'⟩ := expectSymbol_mark htoken₂ hrest₂ hclosed
    refine ⟨r', ?_, hr'⟩
    have hsome : atSymbol 0x5D r₁ = .ok (false, r₁) :=
      atSymbol_opens (m := ']') (.inl rfl) (by rw [htoken₁]; exact hopens)
    rw [readData_list htoken, bind_ok hnext, bind_ok hsome]
    change (readItems (readData fuel) (r₁.rest.length + 2) >>= fun items =>
      expectSymbol ']'.toNat >>= fun _ => pure (Data.list items)) r₁ = _
    rw [bind_ok hitems, bind_ok hlast]
    rfl

theorem isParsedAs_emptyList :
    IsParsedAs [CodePoint.ofChar '[', CodePoint.ofChar ']'] (.list []) := by
  refine ⟨by simp, fun rest hrest => ⟨_, _, begins_mark (by decide) _, opens_mark (by decide), by simp⟩,
    fun fuel r rest hfuel hrest hr => ?_⟩
  obtain ⟨fuel, rfl⟩ : ∃ n, fuel = n + 1 := ⟨fuel - 1, by simp at hfuel; omega⟩
  obtain ⟨htoken, hinside⟩ := hr.taken (begins_mark (by decide) _)
  obtain ⟨r₁, hnext, hr₁⟩ := next_standsAt hinside (begins_mark (by decide) rest)
  obtain ⟨htoken₁, hrest₁⟩ := hr₁.taken (begins_mark (by decide) rest)
  obtain ⟨token', after', hclosed⟩ := begins_closes hrest
  obtain ⟨r', hlast, hr'⟩ := expectSymbol_mark htoken₁ hrest₁ hclosed
  refine ⟨r', ?_, hr'⟩
  rw [readData_list htoken, bind_ok hnext, bind_ok (atSymbol_mark htoken₁ _)]
  change (expectSymbol ']'.toNat >>= fun _ => pure (Data.list [])) r₁ = _
  rw [bind_ok hlast]
  rfl

/-! ## Objects -/

variable {ms : List (Name × Data)} {key : Text}

/-- A text of members that are read up to the bracket after them. -/
structure MembersParsedAs (u : Text) (ms : List (Name × Data)) : Prop where
  count : ms.length ≤ u.length
  starts : ∃ key w, u = writeString true key ++ w ∧ ms.length ≤ w.length + 1
  reads : ∀ fuel n r rest, u.length ≤ fuel → ms.length ≤ n →
    StandsAt r (u ++ CodePoint.ofChar '\x7d' :: rest) →
    ∃ r', readMembers (readData fuel) n r = .ok (ms, r') ∧
      StandsAt r' (CodePoint.ofChar '\x7d' :: rest)

/-- What is read of a member once its key has been. -/
def readMembersAfter (fuel n : Nat) (key : Text) : ReadJson (List (Name × Data)) := do
  let d ← readData fuel
  if ← atSymbol 0x2C then
    Script.Library.JsonText.next
    return (Utf16.ofText key, d) :: (← readMembers (readData fuel) n)
  else return [(Utf16.ofText key, d)]

/-- A key is read before its value. -/
theorem readMembers_key (key : Text) {token : JsonToken} {after : Text} (hbegins : Begins t token after)
    {fuel n : Nat} (hr : StandsAt r (writeString true key ++ (": " ++ t))) :
    ∃ r', StandsAt r' t ∧
      readMembers (readData fuel) (n + 1) r = readMembersAfter fuel n key r' := by
  obtain ⟨htoken, hafter⟩ := hr.taken (begins_string key _)
  obtain ⟨r₁, hnext, hr₁⟩ := next_standsAt hafter (begins_mark (m := ':') (by decide) _)
  obtain ⟨htoken₁, hrest₁⟩ := hr₁.taken (begins_mark (by decide) _)
  obtain ⟨r₂, hcolon, hr₂⟩ := expectSymbol_mark htoken₁ hrest₁ (begins_blank hbegins)
  refine ⟨r₂, hr₂.blank hbegins, ?_⟩
  have hopen : readMembers (readData fuel) (n + 1) r = (do
      Script.Library.JsonText.next
      expectSymbol 0x3A
      readMembersAfter fuel n key) r := by
    obtain ⟨_, _, _, _⟩ := r
    cases htoken
    rfl
  have hexpected : expectSymbol 0x3A r₁ = .ok ((), r₂) := hcolon
  rw [hopen, bind_ok hnext, bind_ok hexpected]

/-- A key with its value is read before what follows them. -/
theorem readMembers_entry (key rest : Text) (h : IsParsedAs t d) {fuel n : Nat}
    (hfuel : t.length ≤ fuel) (hrest : Closes rest)
    (hr : StandsAt r (writeString true key ++ ": " ++ t ++ rest)) :
    ∃ r', StandsAt r' rest ∧ readMembers (readData fuel) (n + 1) r = (do
      if ← atSymbol 0x2C then
        Script.Library.JsonText.next
        return (Utf16.ofText key, d) :: (← readMembers (readData fuel) n)
      else return [(Utf16.ofText key, d)]) r' := by
  obtain ⟨token, after, hbegins, -, -⟩ := h.begins rest hrest
  obtain ⟨r₁, hr₁, hread⟩ := readMembers_key (n := n) key hbegins (by simpa using hr)
  obtain ⟨r', hvalue, hr'⟩ := h.reads fuel r₁ rest hfuel hrest hr₁
  refine ⟨r', hr', ?_⟩
  unfold readMembersAfter at hread
  rw [hread, bind_ok hvalue]

theorem membersParsedAs_one (key : Text) (h : IsParsedAs t d) :
    MembersParsedAs (writeString true key ++ ": " ++ t) [(Utf16.ofText key, d)] := by
  refine ⟨by simp [writeString], ⟨key, ": " ++ t, by simp, by simp⟩,
    fun fuel n r rest hfuel hn hr => ?_⟩
  obtain ⟨n, rfl⟩ : ∃ m, n = m + 1 := ⟨n - 1, by simp at hn; omega⟩
  simp only [List.length_append] at hfuel
  obtain ⟨r', hr', hread⟩ := readMembers_entry key (CodePoint.ofChar '\x7d' :: rest) h (n := n)
    (show t.length ≤ fuel by omega) (by simp [Closes, closers]) hr
  obtain ⟨htoken, -⟩ := hr'.taken (begins_mark (by decide) rest)
  refine ⟨r', ?_, hr'⟩
  rw [hread, bind_ok (atSymbol_mark htoken _)]
  rfl

theorem membersParsedAs_cons (key : Text) (h : IsParsedAs t d) (hmore : MembersParsedAs u ms) :
    MembersParsedAs (writeString true key ++ ": " ++ t ++ (", " ++ u)) ((Utf16.ofText key, d) :: ms) := by
  have hcount := hmore.count
  have hseparator : (Text.ofString ", ").length = 2 := rfl
  refine ⟨?_, ⟨key, ": " ++ t ++ (", " ++ u), by simp, ?_⟩, fun fuel n r rest hfuel hn hr => ?_⟩
  · simp only [List.length_cons, List.length_append, hseparator]
    omega
  · simp only [List.length_cons, List.length_append, hseparator]
    omega
  · obtain ⟨n, rfl⟩ : ∃ m, n = m + 1 := ⟨n - 1, by simp at hn; omega⟩
    simp only [List.length_append, hseparator] at hfuel
    have htext : writeString true key ++ ": " ++ t ++ (", " ++ u) ++ CodePoint.ofChar '\x7d' :: rest =
        writeString true key ++ ": " ++ t ++ (CodePoint.ofChar ',' :: CodePoint.ofChar ' ' ::
          (u ++ CodePoint.ofChar '\x7d' :: rest)) := by simp [Text.ofString]
    rw [htext] at hr
    obtain ⟨r₁, hr₁, hread⟩ := readMembers_entry key _ h (n := n)
      (show t.length ≤ fuel by omega) (by simp [Closes, closers]) hr
    obtain ⟨htoken, hrest⟩ := hr₁.taken (begins_mark (by decide) _)
    obtain ⟨key', w, hu, -⟩ := hmore.starts
    have hbegins : Begins (u ++ CodePoint.ofChar '\x7d' :: rest) (.text (Utf16.ofText key'))
        (w ++ CodePoint.ofChar '\x7d' :: rest) := by
      rw [hu, List.append_assoc]
      exact begins_string key' _
    obtain ⟨r₂, hnext, hr₂⟩ := next_standsAt hrest (begins_blank hbegins)
    obtain ⟨r', hothers, hr'⟩ := hmore.reads fuel n r₂ rest (by omega) (by simpa using hn)
      (hr₂.blank hbegins)
    refine ⟨r', ?_, hr'⟩
    rw [hread, bind_ok (atSymbol_mark htoken _)]
    change (Script.Library.JsonText.next >>= fun _ => readMembers (readData fuel) n >>= fun ms =>
      pure ((Utf16.ofText key, d) :: ms)) r₁ = _
    rw [bind_ok hnext, bind_ok hothers]
    rfl

/-- Members in brackets. -/
theorem readData_record {fuel : Nat} (htoken : r.token = .symbol (CodePoint.ofChar '\x7b')) :
    readData (fuel + 1) r = (do
      Script.Library.JsonText.next
      let members ←
        if ← atSymbol 0x7D then pure []
        else do readMembers (readData fuel) ((← get).rest.length + 2)
      expectSymbol 0x7D
      return Data.record members) r := by
  obtain ⟨_, _, _, _⟩ := r
  cases htoken
  rfl

theorem isParsedAs_record (h : MembersParsedAs u ms) :
    IsParsedAs (CodePoint.ofChar '\x7b' :: (u ++ [CodePoint.ofChar '\x7d'])) (.record ms) := by
  have htext (rest : Text) : CodePoint.ofChar '\x7b' :: (u ++ [CodePoint.ofChar '\x7d']) ++ rest =
      CodePoint.ofChar '\x7b' :: (u ++ CodePoint.ofChar '\x7d' :: rest) := by simp
  obtain ⟨key, w, hu, hcount⟩ := h.starts
  refine ⟨by simp, fun rest hrest => ?_, fun fuel r rest hfuel hrest hr => ?_⟩
  · refine ⟨_, _, htext rest ▸ begins_mark (by decide) _, opens_mark (by decide), ?_⟩
    simp only [List.length_append, List.length_cons]
    omega
  · simp only [List.length_cons, List.length_append, List.length_nil] at hfuel
    obtain ⟨fuel, rfl⟩ : ∃ n, fuel = n + 1 := ⟨fuel - 1, by omega⟩
    rw [htext] at hr
    obtain ⟨htoken, hinside⟩ := hr.taken (begins_mark (by decide) _)
    have hbegins : Begins (u ++ CodePoint.ofChar '\x7d' :: rest) (.text (Utf16.ofText key))
        (w ++ CodePoint.ofChar '\x7d' :: rest) := by
      rw [hu, List.append_assoc]
      exact begins_string key _
    obtain ⟨r₁, hnext, hr₁⟩ := next_standsAt hinside hbegins
    obtain ⟨htoken₁, hrest₁⟩ := hr₁.taken hbegins
    obtain ⟨r₂, hmembers, hr₂⟩ := h.reads fuel (r₁.rest.length + 2) r₁ rest (by omega)
      (by rw [hrest₁, List.length_append]; omega) hr₁
    obtain ⟨htoken₂, hrest₂⟩ := hr₂.taken (begins_mark (by decide) rest)
    obtain ⟨token', after', hclosed⟩ := begins_closes hrest
    obtain ⟨r', hlast, hr'⟩ := expectSymbol_mark htoken₂ hrest₂ hclosed
    refine ⟨r', ?_, hr'⟩
    have hsome : atSymbol 0x7D r₁ = .ok (false, r₁) :=
      atSymbol_opens (m := '\x7d') (.inr rfl) (by rw [htoken₁]; simp [Opens])
    rw [readData_record htoken, bind_ok hnext, bind_ok hsome]
    change (readMembers (readData fuel) (r₁.rest.length + 2) >>= fun members =>
      expectSymbol '\x7d'.toNat >>= fun _ => pure (Data.record members)) r₁ = _
    rw [bind_ok hmembers, bind_ok hlast]
    rfl

theorem isParsedAs_emptyRecord :
    IsParsedAs [CodePoint.ofChar '\x7b', CodePoint.ofChar '\x7d'] (.record []) := by
  refine ⟨by simp, fun rest hrest => ⟨_, _, begins_mark (by decide) _, opens_mark (by decide), by simp⟩,
    fun fuel r rest hfuel hrest hr => ?_⟩
  obtain ⟨fuel, rfl⟩ : ∃ n, fuel = n + 1 := ⟨fuel - 1, by simp at hfuel; omega⟩
  obtain ⟨htoken, hinside⟩ := hr.taken (begins_mark (by decide) _)
  obtain ⟨r₁, hnext, hr₁⟩ := next_standsAt hinside (begins_mark (by decide) rest)
  obtain ⟨htoken₁, hrest₁⟩ := hr₁.taken (begins_mark (by decide) rest)
  obtain ⟨token', after', hclosed⟩ := begins_closes hrest
  obtain ⟨r', hlast, hr'⟩ := expectSymbol_mark htoken₁ hrest₁ hclosed
  refine ⟨r', ?_, hr'⟩
  rw [readData_record htoken, bind_ok hnext, bind_ok (atSymbol_mark htoken₁ _)]
  change (expectSymbol '\x7d'.toNat >>= fun _ => pure (Data.record [])) r₁ = _
  rw [bind_ok hlast]
  rfl

/-! ## Written data -/

theorem isParsedAs_int {n : Int} (h : Json.writeInt n = .ok t) :
    IsParsedAs t (.number (numeralValue (n < 0) (natural n.natAbs))) := by
  have hwritten := natural_isWritten n.natAbs
  have hpos := List.length_pos_iff.mpr hwritten.nonempty
  rw [writeInt_eq h]
  refine isParsedAs_scalar (.number _) ?_ fun rest hrest => begins_numeral _ hwritten hrest
  simp only [List.length_map, List.length_append, Numeral.chars]
  omega

theorem isParsedAs_float {x : Float} (h : IsFinite (.float x)) :
    IsParsedAs (Json.writeFloat x) (floatDatum (Binary.Parts.ofFloat x)) := by
  unfold IsFinite at h
  obtain ⟨negative, significand, exponent, hparts⟩ := h
  have hwritten := magnitude_isWritten significand exponent
  have hpos := List.length_pos_iff.mpr hwritten.nonempty
  rw [writeFloat_eq, hparts]
  refine isParsedAs_scalar (.number _) ?_ fun rest hrest => begins_numeral negative hwritten hrest
  simp only [floatChars, List.length_map, List.length_append, Numeral.chars]
  omega

theorem isParsedAs_string (s : Text) :
    IsParsedAs (writeString true s) (.text (Utf16.ofText s)) :=
  isParsedAs_scalar (.text _) (by simp [writeString]) fun rest _ => begins_string s rest

theorem isParsedAs_items (hts : writeItems wire xs = .ok ts)
    (h : ts ≠ [] → AreParsedAs (Text.joinWith ", " ts) (itemData xs)) :
    IsParsedAs (bracketed "[" "]" ts) (.list (itemData xs)) := by
  by_cases hnone : ts = []
  · subst hnone
    obtain rfl := (items_eq_nil hts).mpr rfl
    exact isParsedAs_emptyList
  · have hlist := isParsedAs_list (h hnone)
    simpa [bracketed, Text.ofString] using hlist

theorem isParsedAs_entries (hts : entryTexts es = .ok ts)
    (h : ts ≠ [] → MembersParsedAs (Text.joinWith ", " ts) (memberData es)) :
    IsParsedAs (bracketed "\x7b" "\x7d" ts) (.record (memberData es)) := by
  by_cases hnone : ts = []
  · subst hnone
    obtain rfl := (entries_eq_nil hts).mpr rfl
    exact isParsedAs_emptyRecord
  · have hrecord := isParsedAs_record (h hnone)
    simpa [bracketed, Text.ofString] using hrecord

mutual

/-- The text that is written for a value is read by the script as what the value denotes. -/
theorem isParsedAs_written : ∀ (v : HostValue) {t : Text}, IsFinite v → write wire v = .ok t →
    IsParsedAs t (datum v)
  | .none, t, _, h => by
      cases h
      exact isParsedAs_scalar .null (by decide) fun rest hrest => begins_word (by simp) hrest
  | .bool b, t, _, h => by
      cases h
      cases b with
      | false => exact isParsedAs_scalar .false_ (by decide) fun rest hrest => begins_word (by simp) hrest
      | true => exact isParsedAs_scalar .true_ (by decide) fun rest hrest => begins_word (by simp) hrest
  | .int _, t, _, h => isParsedAs_int h
  | .intMember _, t, _, h => isParsedAs_int h
  | .float x, t, hfinite, h => by
      cases h
      exact isParsedAs_float hfinite
  | .str s, t, _, h => by
      cases h
      exact isParsedAs_string s
  | .strMember s, t, _, h => by
      cases h
      exact isParsedAs_string s
  | .list xs, t, hfinite, h => by
      obtain ⟨ts, hts, h⟩ := ok_of_bind h
      cases h
      exact isParsedAs_items hts (areParsedAs_written xs hfinite hts)
  | .tuple xs, t, hfinite, h => by
      obtain ⟨ts, hts, h⟩ := ok_of_bind h
      cases h
      exact isParsedAs_items hts (areParsedAs_written xs hfinite hts)
  | .dict es, t, hfinite, h => by
      have hentries : ∃ ts, entryTexts es = .ok ts ∧ bracketed "\x7b" "\x7d" ts = t := by
        obtain ⟨ts, hts, h⟩ := ok_of_bind h
        cases h
        exact ⟨ts, hts, rfl⟩
      obtain ⟨ts, hts, rfl⟩ := hentries
      exact isParsedAs_entries hts (membersParsedAs_written es hfinite hts)

/-- The texts of the items of a list are read as what the items denote. -/
theorem areParsedAs_written : ∀ (xs : List HostValue) {ts : List Text}, ItemsFinite xs →
    writeItems wire xs = .ok ts → ts ≠ [] → AreParsedAs (Text.joinWith ", " ts) (itemData xs)
  | [], ts, _, h, hne => by
      cases h
      exact absurd rfl hne
  | v :: xs, ts, hfinite, h, hne => by
      obtain ⟨t, us, ht, hus, rfl⟩ := writeItems_cons h
      have hfirst := isParsedAs_written v hfinite.1 ht
      rw [joinWith_cons]
      by_cases hnone : us = []
      · subst hnone
        obtain rfl := (items_eq_nil hus).mpr rfl
        simpa [itemData] using areParsedAs_one hfirst
      · rw [if_neg (by simpa using hnone)]
        exact areParsedAs_cons hfirst (areParsedAs_written xs hfinite.2 hus hnone)

/-- The texts of the entries of a dictionary are read as what the entries denote. -/
theorem membersParsedAs_written : ∀ (es : List (HostValue × HostValue)) {ts : List Text},
    EntriesFinite es → entryTexts es = .ok ts → ts ≠ [] →
      MembersParsedAs (Text.joinWith ", " ts) (memberData es)
  | [], ts, _, h, hne => by
      cases h
      exact absurd rfl hne
  | (k, v) :: es, ts, hfinite, h, hne => by
      obtain ⟨key, t, us, hkey, ht, hus, rfl⟩ := entryTexts_cons h
      have hfirst := isParsedAs_written v hfinite.1 ht
      have hstring : keyString k = Utf16.ofText key := by
        unfold keyString
        rw [hkey]
      rw [joinWith_cons]
      unfold memberData
      rw [hstring]
      by_cases hnone : us = []
      · subst hnone
        obtain rfl := (entries_eq_nil hus).mpr rfl
        simpa [memberData] using membersParsedAs_one key hfirst
      · rw [if_neg (by simpa using hnone)]
        exact membersParsedAs_cons key hfirst (membersParsedAs_written es hfinite.2 hus hnone)

end

/-- What has been written is read by the script as what it denotes. -/
theorem read_written (hfinite : IsFinite v) (h : write wire v = .ok t) :
    Script.Library.JsonText.read t = .ok (datum v) := by
  have hparsed := isParsedAs_written v hfinite h
  obtain ⟨token, after, hbegins, -, -⟩ := hparsed.begins [] (by simp [Closes, closers])
  rw [List.append_nil] at hbegins
  obtain ⟨r₁, hnext, hr₁⟩ := next_standsAt (r := ⟨t, 1, .eof, []⟩) rfl hbegins
  obtain ⟨r', hread, hr'⟩ := hparsed.reads (t.length + 2) r₁ [] (by omega) (by simp [Closes, closers])
    (by rwa [List.append_nil])
  obtain ⟨hend, -⟩ := hr'.taken begins_end
  have hwhole : readWhole t ⟨t, 1, .eof, []⟩ = .ok (datum v, r') := by
    unfold readWhole
    rw [bind_ok hnext, bind_ok hread]
    obtain ⟨_, _, _, _⟩ := r'
    cases hend
    rfl
  unfold Script.Library.JsonText.read
  change (readWhole t ⟨t, 1, .eof, []⟩).map (·.1) = _
  rw [hwhole]
  rfl

end ScriptHost.Proofs.ParsedData
