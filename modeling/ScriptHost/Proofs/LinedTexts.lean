import ScriptHost.Proofs.StrictJson

/-!
# JSON over several lines

What can be written on one line can be written over several lines, at every depth.  The text is clean,
and it is in the grammar of JSON if the floats of the data are finite.
-/

namespace ScriptHost.Proofs.LinedTexts

open Json
open ScriptHost.Proofs.DataTexts
open ScriptHost.Proofs.DataTokens
open ScriptHost.Proofs.DataTrees
open ScriptHost.Proofs.Scanning (forall_of_all)
open ScriptHost.Proofs.StrictJson

variable {t : Text} {ts : List Text} {finite : Prop}

/-! ## Lines -/

theorem isBlank_lineBreak (depth : Nat) : IsBlank (lineBreak depth) := by
  intro c hc
  rcases List.mem_cons.mp hc with rfl | hc
  · simp
  · obtain rfl := List.eq_of_mem_replicate hc
    simp

theorem isClean_lineBreak (depth : Nat) : IsClean (lineBreak depth) := by
  intro c hc
  rcases List.mem_cons.mp hc with rfl | hc
  · decide
  · obtain rfl := List.eq_of_mem_replicate hc
    decide

theorem isClean_bracketedLines {o c : Char} (ho : 0 < o.toNat ∧ o.toNat < 128)
    (hc : 0 < c.toNat ∧ c.toNat < 128) (depth : Nat) (h : ∀ t ∈ ts, IsClean t) :
    IsClean (bracketedLines (String.singleton o) (String.singleton c) depth ts) := by
  have hmark {d : Char} (hd : 0 < d.toNat ∧ d.toNat < 128) :
      IsClean (Text.ofString (String.singleton d)) :=
    .ofChars (by simpa [AreClean] using hd)
  have hcomma : IsClean (Text.ofString ",") := .ofChars (forall_of_all (by decide))
  unfold bracketedLines
  split
  · exact (hmark ho).append (hmark hc)
  · have hopen := (hmark ho).append (isClean_lineBreak (depth + 1))
    have hitems := hopen.append (.joined (hcomma.append (isClean_lineBreak (depth + 1))) h)
    exact (hitems.append (isClean_lineBreak depth)).append (hmark hc)

theorem isValue_bracketedLines (depth : Nat) (h : ∀ t ∈ ts, IsValue t) :
    IsValue (bracketedLines "[" "]" depth ts) := by
  by_cases hne : ts = []
  · subst hne
    exact .emptyList isBlank_nil
  · have hlist := IsValue.list (areItems_joined hne h (isBlank_lineBreak (depth + 1))
      (isBlank_lineBreak (depth + 1)) (isBlank_lineBreak depth))
    unfold bracketedLines
    rw [if_neg (by simpa using hne)]
    simpa [Text.ofString] using hlist

theorem isValue_bracketedMemberLines (depth : Nat) (h : ∀ t ∈ ts, IsMember t) :
    IsValue (bracketedLines "\x7b" "\x7d" depth ts) := by
  by_cases hne : ts = []
  · subst hne
    exact .emptyRecord isBlank_nil
  · have hrecord := IsValue.record (areMembers_joined hne h (isBlank_lineBreak (depth + 1))
      (isBlank_lineBreak (depth + 1)) (isBlank_lineBreak depth))
    unfold bracketedLines
    rw [if_neg (by simpa using hne)]
    simpa [Text.ofString] using hrecord

/-! ## Written data -/

/-- What is written is clean, and it is in the grammar if the floats are finite. -/
structure IsLined (kind : Text → Prop) (finite : Prop) (t : Text) : Prop where
  clean : IsClean t
  strict : finite → kind t

mutual

/-- What can be written can be written over several lines. -/
theorem writeLines_run : ∀ (v : HostValue) (depth : Nat) {t : Text}, write wire v = .ok t →
    ∃ u, writeLines depth v = .ok u ∧ IsLined IsValue (IsFinite v) u
  | .list xs, depth, t, h | .tuple xs, depth, t, h => by
      obtain ⟨ts, hts, -⟩ := ok_of_bind h
      obtain ⟨us, hus, hlined⟩ := writeLineItems_run xs (depth + 1) hts
      refine ⟨bracketedLines "[" "]" depth us, ?_, ?_, fun hfinite => ?_⟩
      · unfold writeLines
        rw [hus]
        rfl
      · exact isClean_bracketedLines (o := '[') (c := ']') (by decide) (by decide) depth
          fun u hu => (hlined u hu).clean
      · exact isValue_bracketedLines depth fun u hu => (hlined u hu).strict hfinite
  | .dict es, depth, t, h => by
      have hentries : ∃ ts, entryTexts es = .ok ts := by
        obtain ⟨ts, hts, -⟩ := ok_of_bind h
        exact ⟨ts, hts⟩
      obtain ⟨ts, hts⟩ := hentries
      obtain ⟨us, hus, hlined⟩ := writeLineEntries_run es (depth + 1) hts
      refine ⟨bracketedLines "\x7b" "\x7d" depth us, ?_, ?_, fun hfinite => ?_⟩
      · unfold writeLines
        rw [hus]
        rfl
      · exact isClean_bracketedLines (o := '\x7b') (c := '\x7d') (by decide) (by decide) depth
          fun u hu => (hlined u hu).clean
      · exact isValue_bracketedMemberLines depth fun u hu => (hlined u hu).strict hfinite
  | .none, _, t, h | .bool _, _, t, h | .int _, _, t, h | .intMember _, _, t, h | .float _, _, t, h
  | .str _, _, t, h | .strMember _, _, t, h =>
      ⟨t, h, isClean_write _ h, fun hfinite => isValue_written _ hfinite h⟩

theorem writeLineItems_run : ∀ (xs : List HostValue) (depth : Nat) {ts : List Text},
    writeItems wire xs = .ok ts →
    ∃ us, writeLineItems depth xs = .ok us ∧ ∀ u ∈ us, IsLined IsValue (ItemsFinite xs) u
  | [], _, ts, _ => ⟨[], rfl, by simp⟩
  | v :: rest, depth, ts, h => by
      obtain ⟨t, us, ht, hus, rfl⟩ := writeItems_cons h
      obtain ⟨u, hu, hfirst⟩ := writeLines_run v depth ht
      obtain ⟨ws, hws, hrest⟩ := writeLineItems_run rest depth hus
      refine ⟨u :: ws, ?_, List.forall_mem_cons.mpr ⟨?_, fun w hw => ?_⟩⟩
      · unfold writeLineItems
        rw [hu, hws]
        rfl
      · exact ⟨hfirst.clean, fun hfinite => hfirst.strict hfinite.1⟩
      · exact ⟨(hrest w hw).clean, fun hfinite => (hrest w hw).strict hfinite.2⟩

theorem writeLineEntries_run : ∀ (es : List (HostValue × HostValue)) (depth : Nat) {ts : List Text},
    entryTexts es = .ok ts →
    ∃ us, writeLineEntries depth es = .ok us ∧ ∀ u ∈ us, IsLined IsMember (EntriesFinite es) u
  | [], _, ts, _ => ⟨[], rfl, by simp⟩
  | (k, v) :: rest, depth, ts, h => by
      obtain ⟨key, t, us, hkey, ht, hus, rfl⟩ := entryTexts_cons h
      obtain ⟨u, hu, hfirst⟩ := writeLines_run v depth ht
      obtain ⟨ws, hws, hrest⟩ := writeLineEntries_run rest depth hus
      have hcolon : IsClean (Text.ofString ": ") := .ofChars (forall_of_all (by decide))
      refine ⟨(writeString true key ++ ": " ++ u) :: ws, ?_,
        List.forall_mem_cons.mpr ⟨⟨?_, fun hfinite => ?_⟩, fun w hw => ?_⟩⟩
      · unfold writeLineEntries
        rw [hkey, hu, hws]
        rfl
      · exact ((isClean_string key).append hcolon).append hfirst.clean
      · exact ⟨_, u, isString_written key, hfirst.strict hfinite.1, by simp [Text.ofString]⟩
      · exact ⟨(hrest w hw).clean, fun hfinite => (hrest w hw).strict hfinite.2⟩

end

end ScriptHost.Proofs.LinedTexts
