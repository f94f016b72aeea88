import ScriptHost.Proofs.ParsedData
import ScriptHost.Proofs.StrictJson

/-!
# Data that a script cannot read

The script's own reader refuses what is written for a float that is infinite or no number, and so
every text with such a float in it: what stands before the float is read, and nothing after it.
-/

namespace ScriptHost.Proofs.RefusedData

open Script
open Script.Library.JsonText hiding unitEscape
open Json (write writeString writeItems wire bracketed)
open ScriptHost.Proofs.DataTokens
open ScriptHost.Proofs.DataTrees
open ScriptHost.Proofs.ParsedData
open ScriptHost.Proofs.ParsedScalars
open ScriptHost.Proofs.Scanning
open ScriptHost.Proofs.StrictJson

variable {α β : Type} {t u rest : Text} {ts : List Text} {r r' : JsonReader} {d : Data}
  {v : HostValue} {xs : List HostValue} {es : List (HostValue × HostValue)} {n : Nat}

theorem bind_error {p : ReadJson α} {f : α → ReadJson β} {e : SyntaxFault} (h : p r = .error e) :
    (p >>= f) r = .error e := by
  change (p r >>= fun x => f x.1 x.2) = _
  rw [h]
  rfl

/-! ## Tokens that are refused -/

/-- A token that numbers start with that are infinite or none. -/
inductive IsForeign : JsonToken → Prop
  | nan : IsForeign (.word "NaN")
  | infinity : IsForeign (.word "Infinity")
  | minus : IsForeign (.symbol (CodePoint.ofChar '-'))

theorem failUnexpectedToken_error (r : JsonReader) :
    ∃ e, (failUnexpectedToken : ReadJson Data) r = .error e := by
  obtain ⟨_, _, token, _⟩ := r
  cases token with
  | eof => exact ⟨_, rfl⟩
  | _ => exact ⟨_, rfl⟩

theorem readData_foreign {token : JsonToken} (h : IsForeign token) (htoken : r.token = token)
    (fuel : Nat) : ∃ e, readData fuel r = .error e := by
  cases fuel with
  | zero => exact failUnexpectedToken_error r
  | succ fuel =>
      have hrefused : readData (fuel + 1) r = (failUnexpectedToken : ReadJson Data) r := by
        obtain ⟨_, _, _, _⟩ := r
        cases htoken
        cases h with
        | nan => rfl
        | infinity => rfl
        | minus => rfl
      rw [hrefused]
      exact failUnexpectedToken_error r

theorem opens_foreign {token : JsonToken} (h : IsForeign token) : Opens token := by
  cases h with
  | nan => simp [Opens]
  | infinity => simp [Opens]
  | minus => exact opens_mark (by decide)

/-- A minus that no digit follows is a mark. -/
theorem begins_minus {c : CodePoint} (hc : c.isDigit = false) (rest : Text) :
    Begins (CodePoint.ofChar '-' :: c :: rest) (.symbol (CodePoint.ofChar '-')) (c :: rest) := by
  rintro ⟨_, line, token, text⟩ rfl
  have hstart : ¬((c :: rest).head?).any (·.isDigit) = true := by simpa using hc
  refine ⟨line, [CodePoint.ofChar '-'], ?_⟩
  change (if ((c :: rest).head?).any (·.isDigit) = true then _ else _ : ReadJson Unit) _ = _
  rw [if_neg hstart]
  rfl

/-! ## Texts that are refused -/

/-- A text that is refused as data, whatever closes it. -/
structure IsRefused (t : Text) : Prop where
  nonempty : 0 < t.length
  begins : ∀ rest, Closes rest → ∃ token after, Begins (t ++ rest) token after ∧ Opens token ∧
    rest.length ≤ after.length
  refuses : ∀ fuel r rest, t.length ≤ fuel → Closes rest → StandsAt r (t ++ rest) →
    ∃ e, readData fuel r = .error e

theorem isRefused_foreign {token : JsonToken} {after : Text} (htoken : IsForeign token)
    (hpos : 0 < t.length)
    (h : ∀ rest, Closes rest → Begins (t ++ rest) token (after ++ rest)) : IsRefused t := by
  refine ⟨hpos, fun rest hrest => ⟨token, _, h rest hrest, opens_foreign htoken, by simp⟩,
    fun fuel r rest _ hrest hr => ?_⟩
  exact readData_foreign htoken (hr.taken (h rest hrest)).1 fuel

theorem isRefused_float {x : Float} (h : ¬IsFinite (.float x)) : IsRefused (Json.writeFloat x) := by
  rw [writeFloat_eq]
  cases hparts : Binary.Parts.ofFloat x with
  | nan =>
      exact @isRefused_foreign _ _ [] .nan (by decide) fun rest hrest =>
        begins_word (w := "NaN") (by simp) hrest
  | infinite negative =>
      cases negative with
      | false =>
          exact @isRefused_foreign _ _ [] .infinity (by decide) fun rest hrest =>
            begins_word (w := "Infinity") (by simp) hrest
      | true =>
          have hbegins (rest : Text) : Begins ((floatChars (.infinite true)).map CodePoint.ofChar ++ rest)
              (.symbol (CodePoint.ofChar '-')) (Text.ofString "Infinity" ++ rest) :=
            begins_minus (by decide) _
          exact isRefused_foreign .minus (by decide) fun rest _ => hbegins rest
  | finite negative significand exponent =>
      exact absurd ⟨negative, significand, exponent, hparts⟩ h

/-! ## Lists -/

/-- A text of items one of the first `n` of which is refused, up to the bracket after them. -/
structure AreRefused (u : Text) (n : Nat) : Prop where
  count : n ≤ u.length
  begins : ∀ rest, ∃ token after, Begins (u ++ CodePoint.ofChar ']' :: rest) token after ∧
    Opens token ∧ n ≤ after.length + 1
  refuses : ∀ fuel m r rest, u.length ≤ fuel → n ≤ m →
    StandsAt r (u ++ CodePoint.ofChar ']' :: rest) → ∃ e, readItems (readData fuel) m r = .error e

/-- What follows the first item, up to the bracket. -/
theorem joined_bracket (t : Text) (ts : List Text) (m : Char) (rest : Text) :
    ∃ more, Text.joinWith ", " (t :: ts) ++ CodePoint.ofChar m :: rest = t ++ more ∧
      (more = CodePoint.ofChar m :: rest ∨ ∃ after, more = CodePoint.ofChar ',' :: after) := by
  rw [joinWith_cons]
  split
  · exact ⟨_, by simp, .inl rfl⟩
  · exact ⟨_, List.append_assoc _ _ _, .inr ⟨_, rfl⟩⟩

theorem areRefused_first (h : IsRefused t) (ts : List Text) :
    AreRefused (Text.joinWith ", " (t :: ts)) 1 := by
  have hpos := h.nonempty
  have hlength : t.length ≤ (Text.joinWith ", " (t :: ts)).length := by
    rw [joinWith_cons]
    split
    · simp
    · simp
  refine ⟨by omega, fun rest => ?_, fun fuel m r rest hfuel hm hr => ?_⟩
  · obtain ⟨more, hmore, hcloses⟩ := joined_bracket t ts ']' rest
    obtain ⟨token, after, hbegins, hopens, -⟩ := h.begins more (by
      rcases hcloses with rfl | ⟨after, rfl⟩ <;> simp [Closes, closers])
    rw [hmore]
    exact ⟨token, after, hbegins, hopens, by omega⟩
  · obtain ⟨more, hmore, hcloses⟩ := joined_bracket t ts ']' rest
    obtain ⟨m, rfl⟩ : ∃ k, m = k + 1 := ⟨m - 1, by omega⟩
    rw [hmore] at hr
    obtain ⟨e, hread⟩ := h.refuses fuel r more (by omega) (by
      rcases hcloses with rfl | ⟨after, rfl⟩ <;> simp [Closes, closers]) hr
    exact ⟨e, bind_error hread⟩

theorem areRefused_later (h : IsParsedAs t d) (hmore : AreRefused u n) :
    AreRefused (t ++ (", " ++ u)) (n + 1) := by
  have hcount := hmore.count
  have hpos := h.nonempty
  have htext (rest : Text) : t ++ (", " ++ u) ++ CodePoint.ofChar ']' :: rest =
      t ++ (CodePoint.ofChar ',' :: CodePoint.ofChar ' ' :: (u ++ CodePoint.ofChar ']' :: rest)) := by
    simp [Text.ofString]
  have hclose (rest : Text) : Closes (CodePoint.ofChar ',' :: CodePoint.ofChar ' ' ::
      (u ++ CodePoint.ofChar ']' :: rest)) := by simp [Closes, closers]
  have hseparator : (Text.ofString ", ").length = 2 := rfl
  refine ⟨?_, fun rest => ?_, fun fuel m r rest hfuel hm hr => ?_⟩
  · simp only [List.length_append]
    omega
  · obtain ⟨token, after, hbegins, hopens, hafter⟩ := h.begins _ (hclose rest)
    refine ⟨token, after, htext rest ▸ hbegins, hopens, ?_⟩
    simp only [List.length_cons, List.length_append] at hafter ⊢
    omega
  · obtain ⟨m, rfl⟩ : ∃ k, m = k + 1 := ⟨m - 1, by omega⟩
    simp only [List.length_append, hseparator] at hfuel
    rw [htext] at hr
    obtain ⟨r₁, hread, hr₁⟩ := h.reads fuel r _ (by omega) (hclose rest) hr
    obtain ⟨htoken, hrest⟩ := hr₁.taken (begins_mark (by decide) _)
    obtain ⟨token, after, hbegins, -, -⟩ := hmore.begins rest
    obtain ⟨r₂, hnext, hr₂⟩ := next_standsAt hrest (begins_blank hbegins)
    obtain ⟨e, hothers⟩ := hmore.refuses fuel m r₂ rest (by omega) (by omega) (hr₂.blank hbegins)
    refine ⟨e, ?_⟩
    unfold readItems
    rw [bind_ok hread, bind_ok (atSymbol_mark htoken _)]
    change (Script.Library.JsonText.next >>= fun _ => readItems (readData fuel) m >>= fun ds =>
      pure (d :: ds)) r₁ = _
    rw [bind_ok hnext, bind_error hothers]

theorem isRefused_list (h : AreRefused u n) :
    IsRefused (CodePoint.ofChar '[' :: (u ++ [CodePoint.ofChar ']'])) := by
  have htext (rest : Text) : CodePoint.ofChar '[' :: (u ++ [CodePoint.ofChar ']']) ++ rest =
      CodePoint.ofChar '[' :: (u ++ CodePoint.ofChar ']' :: rest) := by simp
  refine ⟨by simp, fun rest hrest => ?_, fun fuel r rest hfuel hrest hr => ?_⟩
  · refine ⟨_, _, htext rest ▸ begins_mark (by decide) _, opens_mark (by decide), ?_⟩
    simp only [List.length_append, List.length_cons]
    omega
  · simp only [List.length_cons, List.length_append, List.length_nil] at hfuel
    obtain ⟨fuel, rfl⟩ : ∃ n, fuel = n + 1 := ⟨fuel - 1, by omega⟩
    rw [htext] at hr
    obtain ⟨htoken, hinside⟩ := hr.taken (begins_mark (by decide) _)
    obtain ⟨token, after, hbegins, hopens, hcount⟩ := h.begins rest
    obtain ⟨r₁, hnext, hr₁⟩ := next_standsAt hinside hbegins
    obtain ⟨htoken₁, hrest₁⟩ := hr₁.taken hbegins
    obtain ⟨e, hitems⟩ := h.refuses fuel (r₁.rest.length + 2) r₁ rest (by omega)
      (by rw [hrest₁]; omega) hr₁
    refine ⟨e, ?_⟩
    have hsome : atSymbol 0x5D r₁ = .ok (false, r₁) :=
      atSymbol_opens (m := ']') (.inl rfl) (by rw [htoken₁]; exact hopens)
    rw [readData_list htoken, bind_ok hnext, bind_ok hsome]
    change (readItems (readData fuel) (r₁.rest.length + 2) >>= fun items =>
      expectSymbol ']'.toNat >>= fun _ => pure (Data.list items)) r₁ = _
    rw [bind_error hitems]

/-! ## Objects -/

/-- A text of members the value of one of the first `n` of which is refused, up to the bracket after
them. -/
structure MembersRefused (u : Text) (n : Nat) : Prop where
  starts : ∃ key w, u = writeString true key ++ w ∧ n ≤ w.length + 1
  refuses : ∀ fuel m r rest, u.length ≤ fuel → n ≤ m →
    StandsAt r (u ++ CodePoint.ofChar '\x7d' :: rest) →
    ∃ e, readMembers (readData fuel) m r = .error e

theorem membersRefused_first (key : Text) (h : IsRefused t) (ts : List Text) :
    MembersRefused (Text.joinWith ", " ((writeString true key ++ ": " ++ t) :: ts)) 1 := by
  have hlength : t.length ≤ (Text.joinWith ", " ((writeString true key ++ ": " ++ t) :: ts)).length := by
    rw [joinWith_cons]
    split
    all_goals
      simp only [List.length_append]
      omega
  refine ⟨?_, fun fuel m r rest hfuel hm hr => ?_⟩
  · rw [joinWith_cons]
    split
    · exact ⟨key, ": " ++ t, by simp, by omega⟩
    · exact ⟨key, ": " ++ (t ++ (", " ++ Text.joinWith ", " ts)), by simp, by omega⟩
  · obtain ⟨more, hmore, hcloses⟩ :=
      joined_bracket (writeString true key ++ ": " ++ t) ts '\x7d' rest
    have hclosed : Closes more := by
      rcases hcloses with rfl | ⟨after, rfl⟩
      · simp [Closes, closers]
      · simp [Closes, closers]
    obtain ⟨m, rfl⟩ : ∃ k, m = k + 1 := ⟨m - 1, by omega⟩
    rw [hmore] at hr
    obtain ⟨token, after, hbegins, -, -⟩ := h.begins more hclosed
    obtain ⟨r₁, hr₁, hread⟩ := readMembers_key (n := m) key hbegins (by simpa using hr)
    obtain ⟨e, hvalue⟩ := h.refuses fuel r₁ more (by omega) hclosed hr₁
    exact ⟨e, hread.trans (bind_error hvalue)⟩

theorem membersRefused_later (key : Text) (h : IsParsedAs t d) (hmore : MembersRefused u n) :
    MembersRefused (writeString true key ++ ": " ++ t ++ (", " ++ u)) (n + 1) := by
  obtain ⟨key', w, hu, hcount⟩ := hmore.starts
  have hseparator : (Text.ofString ", ").length = 2 := rfl
  refine ⟨⟨key, ": " ++ t ++ (", " ++ u), by simp, ?_⟩, fun fuel m r rest hfuel hm hr => ?_⟩
  · simp only [List.length_append, hseparator, hu]
    omega
  · obtain ⟨m, rfl⟩ : ∃ k, m = k + 1 := ⟨m - 1, by omega⟩
    simp only [List.length_append, hseparator] at hfuel
    have htext : writeString true key ++ ": " ++ t ++ (", " ++ u) ++ CodePoint.ofChar '\x7d' :: rest =
        writeString true key ++ ": " ++ t ++ (CodePoint.ofChar ',' :: CodePoint.ofChar ' ' ::
          (u ++ CodePoint.ofChar '\x7d' :: rest)) := by simp [Text.ofString]
    rw [htext] at hr
    obtain ⟨r₁, hr₁, hread⟩ := readMembers_entry key _ h (n := m)
      (show t.length ≤ fuel by omega) (by simp [Closes, closers]) hr
    obtain ⟨htoken, hrest⟩ := hr₁.taken (begins_mark (by decide) _)
    have hbegins : Begins (u ++ CodePoint.ofChar '\x7d' :: rest) (.text (Utf16.ofText key'))
        (w ++ CodePoint.ofChar '\x7d' :: rest) := by
      rw [hu, List.append_assoc]
      exact begins_string key' _
    obtain ⟨r₂, hnext, hr₂⟩ := next_standsAt hrest (begins_blank hbegins)
    obtain ⟨e, hothers⟩ := hmore.refuses fuel m r₂ rest (by omega) (by omega) (hr₂.blank hbegins)
    refine ⟨e, ?_⟩
    rw [hread, bind_ok (atSymbol_mark htoken _)]
    change (Script.Library.JsonText.next >>= fun _ => readMembers (readData fuel) m >>= fun ms =>
      pure ((Utf16.ofText key, d) :: ms)) r₁ = _
    rw [bind_ok hnext, bind_error hothers]

theorem isRefused_record (h : MembersRefused u n) :
    IsRefused (CodePoint.ofChar '\x7b' :: (u ++ [CodePoint.ofChar '\x7d'])) := by
  have htext (rest : Text) : CodePoint.ofChar '\x7b' :: (u ++ [CodePoint.ofChar '\x7d']) ++ rest =
      CodePoint.ofChar '\x7b' :: (u ++ CodePoint.ofChar '\x7d' :: rest) := by simp
  obtain ⟨key, w, hu, hcount⟩ := h.starts
  refine ⟨by simp, fun rest hrest => ?_, fun fuel r rest hfuel hrest hr => ?_⟩
  · refine ⟨_, _, htext rest ▸ begins_mark (by decide) _, opens_mark (by decide), ?_⟩
    simp only [List.length_append, List.length_cons]
    omega
  · simp only [List.length_cons, List.length_append, List.length_nil] at hfuel
    obtain ⟨fuel, rfl⟩ : ∃ n, fuel = n + 1 := ⟨fuel - 1, by omega⟩
    rw [htext] at hr
    obtain ⟨htoken, hinside⟩ := hr.taken (begins_mark (by decide) _)
    have hbegins : Begins (u ++ CodePoint.ofChar '\x7d' :: rest) (.text (Utf16.ofText key))
        (w ++ CodePoint.ofChar '\x7d' :: rest) := by
      rw [hu, List.append_assoc]
      exact begins_string key _
    obtain ⟨r₁, hnext, hr₁⟩ := next_standsAt hinside hbegins
    obtain ⟨htoken₁, hrest₁⟩ := hr₁.taken hbegins
    obtain ⟨e, hmembers⟩ := h.refuses fuel (r₁.rest.length + 2) r₁ rest (by omega)
      (by rw [hrest₁, List.length_append]; omega) hr₁
    refine ⟨e, ?_⟩
    have hsome : atSymbol 0x7D r₁ = .ok (false, r₁) :=
      atSymbol_opens (m := '\x7d') (.inr rfl) (by rw [htoken₁]; simp [Opens])
    rw [readData_record htoken, bind_ok hnext, bind_ok hsome]
    change (readMembers (readData fuel) (r₁.rest.length + 2) >>= fun members =>
      expectSymbol '\x7d'.toNat >>= fun _ => pure (Data.record members)) r₁ = _
    rw [bind_error hmembers]

/-! ## Written data -/

mutual

/-- What is written for data with a float that is not finite is refused. -/
theorem isRefused_written : ∀ (v : HostValue) {t : Text}, ¬IsFinite v → write wire v = .ok t →
    IsRefused t
  | .float x, t, hnot, h => by
      cases h
      exact isRefused_float hnot
  | .list xs, t, hnot, h => by
      obtain ⟨ts, hts, h⟩ := ok_of_bind h
      cases h
      obtain ⟨n, hrefused⟩ := areRefused_written xs hnot hts
      simpa [bracketed, Text.ofString] using isRefused_list hrefused
  | .tuple xs, t, hnot, h => by
      obtain ⟨ts, hts, h⟩ := ok_of_bind h
      cases h
      obtain ⟨n, hrefused⟩ := areRefused_written xs hnot hts
      simpa [bracketed, Text.ofString] using isRefused_list hrefused
  | .dict es, t, hnot, h => by
      have hentries : ∃ ts, entryTexts es = .ok ts ∧ bracketed "\x7b" "\x7d" ts = t := by
        obtain ⟨ts, hts, h⟩ := ok_of_bind h
        cases h
        exact ⟨ts, hts, rfl⟩
      obtain ⟨ts, hts, rfl⟩ := hentries
      obtain ⟨n, hrefused⟩ := membersRefused_written es hnot hts
      simpa [bracketed, Text.ofString] using isRefused_record hrefused
  | .none, _, hnot, _ => absurd trivial hnot
  | .bool _, _, hnot, _ => absurd trivial hnot
  | .int _, _, hnot, _ => absurd trivial hnot
  | .intMember _, _, hnot, _ => absurd trivial hnot
  | .str _, _, hnot, _ => absurd trivial hnot
  | .strMember _, _, hnot, _ => absurd trivial hnot

theorem areRefused_written : ∀ (xs : List HostValue) {ts : List Text}, ¬ItemsFinite xs →
    writeItems wire xs = .ok ts → ∃ n, AreRefused (Text.joinWith ", " ts) n
  | [], _, hnot, _ => absurd trivial hnot
  | v :: xs, ts, hnot, h => by
      obtain ⟨t, us, ht, hus, rfl⟩ := writeItems_cons h
      by_cases hfinite : IsFinite v
      · have hrest : ¬ItemsFinite xs := fun hall => hnot ⟨hfinite, hall⟩
        have hsome : us ≠ [] := by
          rintro rfl
          obtain rfl := (items_eq_nil hus).mpr rfl
          exact hrest trivial
        obtain ⟨n, hmore⟩ := areRefused_written xs hrest hus
        refine ⟨n + 1, ?_⟩
        rw [joinWith_cons, if_neg (by simpa using hsome)]
        exact areRefused_later (isParsedAs_written v hfinite ht) hmore
      · exact ⟨1, areRefused_first (isRefused_written v hfinite ht) us⟩

theorem membersRefused_written : ∀ (es : List (HostValue × HostValue)) {ts : List Text},
    ¬EntriesFinite es → entryTexts es = .ok ts → ∃ n, MembersRefused (Text.joinWith ", " ts) n
  | [], _, hnot, _ => absurd trivial hnot
  | (k, v) :: es, ts, hnot, h => by
      obtain ⟨key, t, us, hkey, ht, hus, rfl⟩ := entryTexts_cons h
      by_cases hfinite : IsFinite v
      · have hrest : ¬EntriesFinite es := fun hall => hnot ⟨hfinite, hall⟩
        have hsome : us ≠ [] := by
          rintro rfl
          obtain rfl := (entries_eq_nil hus).mpr rfl
          exact hrest trivial
        obtain ⟨n, hmore⟩ := membersRefused_written es hrest hus
        refine ⟨n + 1, ?_⟩
        rw [joinWith_cons, if_neg (by simpa using hsome)]
        exact membersRefused_later key (isParsedAs_written v hfinite ht) hmore
      · exact ⟨1, membersRefused_first key (isRefused_written v hfinite ht) us⟩

end

theorem read_refused (hnot : ¬IsFinite v) (h : write wire v = .ok t) :
    ∃ e, Script.Library.JsonText.read t = .error e := by
  have hrefused := isRefused_written v hnot h
  obtain ⟨token, after, hbegins, -, -⟩ := hrefused.begins [] (by simp [Closes, closers])
  rw [List.append_nil] at hbegins
  obtain ⟨r₁, hnext, hr₁⟩ := next_standsAt (r := ⟨t, 1, .eof, []⟩) rfl hbegins
  obtain ⟨e, hread⟩ := hrefused.refuses (t.length + 2) r₁ [] (by omega) (by simp [Closes, closers])
    (by rwa [List.append_nil])
  have hwhole : readWhole t ⟨t, 1, .eof, []⟩ = .error e := by
    unfold readWhole
    rw [bind_ok hnext, bind_error hread]
  refine ⟨e, ?_⟩
  unfold Script.Library.JsonText.read
  change (readWhole t ⟨t, 1, .eof, []⟩).map (·.1) = _
  rw [hwhole]
  rfl

/-- The script's own reader takes what is written for data, if and only if all floats of the data
are finite, and then reads what the data denotes. -/
theorem read_iff (h : write wire v = .ok t) :
    (∃ d, Script.Library.JsonText.read t = .ok d) ↔ IsFinite v := by
  refine ⟨fun ⟨d, hread⟩ => Classical.byContradiction fun hnot => ?_,
    fun hfinite => ⟨_, read_written hfinite h⟩⟩
  obtain ⟨e, hrefused⟩ := read_refused hnot h
  rw [hread] at hrefused
  cases hrefused

end ScriptHost.Proofs.RefusedData
