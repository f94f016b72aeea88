import Mathlib.Data.List.Infix
import Mathlib.Data.List.TakeWhile
import ScriptHost.Instance.FunctionNames
import ScriptHost.Proofs.ScannedNames

/-!
# Names that are declared in a text

The scan for lexical variables goes by the text alone: it finds a name where a declaring word, blanks and
the name stand one after the other.  What is found is passed over before the next name is looked for, so
a declaration can only be missed where an earlier find reaches into its word.
-/

namespace ScriptHost.Proofs.DeclaredNames

open LexicalScan Unicode
open ScriptHost.Proofs.ScannedNames

variable {t u rest name gap before after : Text} {c : CodePoint} {n : Nat} {inWord : Bool}
  {p : CodePoint → Bool}

/-- The words that declare lexical variables. -/
def declaringWords : List Text := ["let", "const"]

/-- Blanks, one at least. -/
structure IsGap (gap : Text) : Prop where
  blank : ∀ c ∈ gap, isBlank c = true
  nonempty : gap ≠ []

/-- A name as the scan takes it. -/
inductive IsScanned : Text → Prop
  | mk {c : CodePoint} {parts : Text} (start : isNameStart c = true)
    (hparts : ∀ d ∈ parts, isNamePart d = true) : IsScanned (c :: parts)

/-- No scanned name goes on here. -/
def EndsScanned (t : Text) : Prop := ∀ c ∈ t.head?, isNamePart c = false

/-- A text starts with a declaration of a name: a declaring word, blanks and the name. -/
structure Declares (t name rest : Text) : Prop where
  spelled : ∃ w ∈ declaringWords, ∃ gap, IsGap gap ∧ t = w ++ (gap ++ (name ++ rest))
  scanned : IsScanned name
  ends : EndsScanned rest

/-! ## Characters -/

/-- The table of letters and numbers, as one list. -/
theorem alphanumericRanges_eq : alphanumericRanges =
    (alphanumericRangesPart1.toList ++ alphanumericRangesPart2.toList ++ alphanumericRangesPart3.toList ++
      alphanumericRangesPart4.toList ++ alphanumericRangesPart5.toList).toArray := by
  apply Array.ext'
  simp only [alphanumericRanges, Array.toList_append]

theorem start_below : ∀ i : Fin 128, isNameStart (CodePoint.ofNat i) = true →
    isNamePart (CodePoint.ofNat i) = true ∧ isBlank (CodePoint.ofNat i) = false := by
  simp only [isNamePart, isWord, isAlphanumeric, alphanumericRanges_eq]
  decide +kernel

theorem start_cases (h : isNameStart c = true) : isNamePart c = true ∧ isBlank c = false := by
  have hlt : c.val < 128 := by
    have hcases := isPlainStart_cases h
    omega
  have hbelow := start_below ⟨c.val, hlt⟩
  simp only [CodePoint.ofNat_val] at hbelow
  exact hbelow h

theorem word_characters : ∀ w ∈ declaringWords, w ≠ [] ∧ ∀ c ∈ w, isWord c = true ∧ isBlank c = false := by
  simp only [isWord, isAlphanumeric, alphanumericRanges_eq]
  decide +kernel

theorem isWord_of_part (h : isNamePart c = false) : isWord c = false :=
  (Bool.or_eq_false_iff.mp h).1

theorem IsScanned.parts (h : IsScanned name) : ∀ c ∈ name, isNamePart c = true := by
  cases h with
  | mk start hparts => exact List.forall_mem_cons.mpr ⟨(start_cases start).1, hparts⟩

theorem IsScanned.nonempty (h : IsScanned name) : name ≠ [] := by
  cases h with
  | mk _ _ => exact List.cons_ne_nil _ _

/-! ## One declaration -/

theorem takeWhile_stops (ht : ∀ c ∈ t, p c = true) (hrest : ∀ c ∈ rest.head?, p c = false) :
    (t ++ rest).takeWhile p = t ∧ (t ++ rest).dropWhile p = rest := by
  have hstops : rest.takeWhile p = [] ∧ rest.dropWhile p = rest := by
    cases rest with
    | nil => exact ⟨rfl, rfl⟩
    | cons c rest => simp [hrest c rfl]
  rw [List.takeWhile_append_of_pos ht, List.dropWhile_append_of_pos ht, hstops.1, hstops.2]
  exact ⟨List.append_nil t, rfl⟩

theorem head_dropWhile (p : CodePoint → Bool) (t : Text) : ∀ c ∈ (t.dropWhile p).head?, p c = false := by
  induction t with
  | nil => simp
  | cons c t ih =>
      rw [List.dropWhile_cons]
      split
      · exact ih
      · rename_i hc
        intro d hd
        obtain rfl : c = d := by simpa using hd
        simpa using hc

theorem startsWith_iff {w : Text} : Text.startsWith t w = true ↔ ∃ u, t = w ++ u := by
  induction w generalizing t with
  | nil =>
      cases t with
      | nil => simp [Text.startsWith]
      | cons c t => simp [Text.startsWith]
  | cons d w ih =>
      cases t with
      | nil => simp [Text.startsWith]
      | cons c t =>
          rw [Text.startsWith, Bool.and_eq_true, beq_iff_eq, ih]
          simp

theorem nameAfterWord?_iff : nameAfterWord? t = some (name, rest) ↔
    ∃ gap, IsGap gap ∧ t = gap ++ (name ++ rest) ∧ IsScanned name ∧ EndsScanned rest := by
  constructor
  · intro h
    unfold nameAfterWord? at h
    split at h
    · cases h
    · rename_i c t
      split at h
      · cases h
      · rename_i hblank
        split at h
        · cases h
        · rename_i d u hdropped
          split at h
          · rename_i hstart
            cases h
            refine ⟨(c :: t).takeWhile isBlank, ⟨fun e he => List.mem_takeWhile_imp he, ?_⟩, ?_,
              .mk hstart fun e he => List.mem_takeWhile_imp he, head_dropWhile _ _⟩
            · rw [List.takeWhile_cons_of_pos (by simpa using hblank)]
              exact List.cons_ne_nil _ _
            · rw [List.cons_append, List.takeWhile_append_dropWhile, ← hdropped,
                List.takeWhile_append_dropWhile]
          · cases h
  · rintro ⟨gap, hgap, rfl, hname, hrest⟩
    cases hname with
    | @mk d parts hstart hparts =>
        obtain ⟨c, gap, rfl⟩ := List.exists_cons_of_ne_nil hgap.nonempty
        have hblank : isBlank c = true := hgap.blank c List.mem_cons_self
        have hdropped : (c :: gap ++ (d :: parts ++ rest)).dropWhile isBlank = d :: (parts ++ rest) :=
          (takeWhile_stops hgap.blank (by simpa using (start_cases hstart).2)).2
        obtain ⟨htaken, hleft⟩ := takeWhile_stops hparts hrest
        unfold nameAfterWord?
        simp only [List.cons_append] at hdropped ⊢
        rw [hblank, hdropped]
        simp [hstart, htaken, hleft]

/-- The scan finds a declaration exactly where a text starts with one. -/
theorem declared?_iff : declared? t = some (name, rest) ↔ Declares t name rest := by
  constructor
  · intro h
    unfold declared? at h
    split at h
    · rename_i hlet
      obtain ⟨u, rfl⟩ := startsWith_iff.mp hlet
      obtain ⟨gap, hgap, hu, hname, hrest⟩ := nameAfterWord?_iff.mp h
      exact ⟨⟨_, List.mem_cons_self, gap, hgap, congrArg (Text.ofString "let" ++ ·) hu⟩, hname, hrest⟩
    · split at h
      · rename_i hconst
        obtain ⟨u, rfl⟩ := startsWith_iff.mp hconst
        obtain ⟨gap, hgap, hu, hname, hrest⟩ := nameAfterWord?_iff.mp h
        exact ⟨⟨_, List.mem_cons_of_mem _ List.mem_cons_self, gap, hgap,
          congrArg (Text.ofString "const" ++ ·) hu⟩, hname, hrest⟩
      · cases h
  · rintro ⟨⟨w, hw, gap, hgap, rfl⟩, hname, hrest⟩
    have hafter := nameAfterWord?_iff.mpr ⟨gap, hgap, rfl, hname, hrest⟩
    unfold declared?
    rcases List.mem_cons.mp hw with rfl | hw
    · rw [if_pos (startsWith_iff.mpr ⟨_, rfl⟩)]
      exact hafter
    · obtain rfl := List.mem_singleton.mp hw
      have hnot : Text.startsWith (Text.ofString "const" ++ (gap ++ (name ++ rest))) "let" = false := rfl
      rw [hnot, if_neg (by decide), if_pos (startsWith_iff.mpr ⟨_, rfl⟩)]
      exact hafter

/-! ## All declarations -/

/-- No find before a place reaches over it: what stands before ends in no part of a name, and in no
declaring word with blanks after it. -/
structure IsClear (before : Text) : Prop where
  apart : ∀ c ∈ before.getLast?, isNamePart c = false
  unopened : ∀ w ∈ declaringWords, ∀ gap, IsGap gap → ¬w ++ gap <:+ before

theorem isClear_nil : IsClear [] := by
  refine ⟨by simp, fun w hw gap _ h => ?_⟩
  exact (word_characters w hw).1 (List.append_eq_nil_iff.mp (List.eq_nil_of_suffix_nil h)).1

theorem IsClear.suffix (h : IsClear before) (hsuffix : after <:+ before) : IsClear after := by
  refine ⟨fun c hc => ?_, fun w hw gap hgap hends => h.unopened w hw gap hgap (hends.trans hsuffix)⟩
  obtain ⟨b, rfl⟩ := hsuffix
  cases after with
  | nil => cases hc
  | cons d after =>
      refine h.apart c ?_
      rw [List.getLast?_append_of_ne_nil b (List.cons_ne_nil d after)]
      exact hc

theorem last_of_all {w : Text} (hw : ∀ c ∈ w, p c = true) (hne : w ≠ [])
    (hc : (before ++ w).getLast? = some c) : p c = true := by
  rw [List.getLast?_append_of_ne_nil _ hne] at hc
  exact hw c (List.mem_of_mem_getLast? hc)

/-- A place is clear if a character that is neither blank nor part of a name stands before it, with blanks
at most in between. -/
theorem isClear_after (hblank : isBlank c = false) (hpart : isNamePart c = false)
    (ht : ∀ d ∈ t, isBlank d = true ∧ isNamePart d = false) : IsClear (before ++ [c] ++ t) := by
  refine ⟨fun d hd => ?_, fun w hw gap hgap hends => ?_⟩
  · cases t with
    | nil =>
        obtain rfl : c = d := by simpa using hd
        exact hpart
    | cons e t =>
        rw [List.getLast?_append_of_ne_nil _ (List.cons_ne_nil e t)] at hd
        exact (ht d (List.mem_of_mem_getLast? hd)).2
  · obtain ⟨b, hsplit⟩ := hends
    obtain ⟨hne, hword⟩ := word_characters w hw
    have hnot : b ++ w ≠ before ++ [c] := by
      intro heq
      have hcontinues : isWord c = true := last_of_all (fun d hd => (hword d hd).1) hne
        ((congrArg List.getLast? heq).trans List.getLast?_concat)
      rw [isWord_of_part hpart] at hcontinues
      cases hcontinues
    rw [← List.append_assoc] at hsplit
    -- The character stands in the blanks of the word, or the end of the word in those of the place.
    rcases List.append_eq_append_iff.mp hsplit with ⟨a, hstop, rfl⟩ | ⟨a, hstop, rfl⟩
    · by_cases ha : a = []
      · subst ha
        exact hnot (by simpa using hstop.symm)
      · have hend : (b ++ w ++ a).getLast? = some c := by rw [← hstop, List.getLast?_concat]
        have hstands : isBlank c = true :=
          last_of_all (fun d hd => hgap.blank d (List.mem_append_left t hd)) ha hend
        rw [hblank] at hstands
        cases hstands
    · by_cases ha : a = []
      · subst ha
        exact hnot (by simpa using hstop)
      · have hend : (b ++ w).getLast? = some (a.getLast ha) := by
          rw [hstop, List.getLast?_append_of_ne_nil _ ha, List.getLast?_eq_some_getLast ha]
        have hstands := (ht _ (List.mem_append_left gap (List.getLast_mem ha))).1
        have hends : (!isBlank (a.getLast ha)) = true :=
          last_of_all (p := fun d => !isBlank d) (fun d hd => by simp [(hword d hd).2]) hne hend
        rw [hstands] at hends
        cases hends

/-- A text whose characters are all parts of names stands before no place that is clear. -/
theorem eq_nil_of_parts (before : Text) (h : IsClear (before ++ t)) (ht : ∀ c ∈ t, isNamePart c = true) : t = [] := by
  by_contra hne
  have hend : (before ++ t).getLast? = some (t.getLast hne) :=
    (List.getLast?_append_of_ne_nil before hne).trans (List.getLast?_eq_some_getLast hne)
  have hlast := h.apart _ hend
  rw [last_of_all ht hne hend] at hlast
  cases hlast

theorem Declares.length_lt (h : Declares t name rest) : rest.length < t.length := by
  obtain ⟨⟨w, -, gap, -, rfl⟩, hname, -⟩ := h
  have hlength := List.length_pos_iff.mpr hname.nonempty
  simp only [List.length_append]
  omega

/-- What is found before a clear place is passed over before that place. -/
theorem Declares.past {found left : Text} (h : Declares (before ++ t) found left)
    (hbefore : before ≠ []) (hclear : IsClear before) (ht : Declares t name rest) :
    ∃ b, b ≠ [] ∧ b <:+ before ∧ left = b ++ t := by
  obtain ⟨⟨w, hw, gap, hgap, hsplit⟩, hfound, -⟩ := h
  obtain ⟨⟨w', hw', gap', -, rfl⟩, -, -⟩ := ht
  have hword : ∀ c ∈ w, isNamePart c = true := fun c hc => by
    rw [isNamePart, ((word_characters w hw).2 c hc).1, Bool.true_or]
  -- The place lies past the word, past the blanks, and past the name that were found.
  rcases List.append_eq_append_iff.mp hsplit with ⟨c, rfl, -⟩ | ⟨a, rfl, hafter⟩
  · exact absurd (eq_nil_of_parts [] hclear fun d hd =>
      hword d (List.mem_append_left c hd)) hbefore
  rcases List.append_eq_append_iff.mp hafter with ⟨b, rfl, hrest⟩ | ⟨c, rfl, hrest⟩
  · rcases List.append_eq_append_iff.mp hrest with ⟨d, rfl, hleft⟩ | ⟨d, rfl, -⟩
    · refine ⟨d, ?_, ⟨w ++ (gap ++ found), by simp⟩, hleft⟩
      rintro rfl
      refine hfound.nonempty (eq_nil_of_parts (w ++ gap) ?_ hfound.parts)
      simpa using hclear
    · obtain rfl : b = [] := eq_nil_of_parts (w ++ gap) (by simpa using hclear) fun c hc =>
        hfound.parts c (List.mem_append_left d hc)
      exact absurd (by simp) (hclear.unopened w hw gap hgap)
  · cases c with
    | nil => exact absurd (by simp) (hclear.unopened w hw a (by simpa using hgap))
    | cons d c =>
        obtain ⟨e, w', rfl⟩ := List.exists_cons_of_ne_nil (word_characters w' hw').1
        obtain rfl : e = d := (List.cons.inj hrest).1
        have hblank := hgap.blank e (by simp)
        rw [((word_characters _ hw').2 e List.mem_cons_self).2] at hblank
        cases hblank

/-- A declaration at a clear place is found. -/
theorem mem_namesFrom (ht : Declares t name rest) (hclear : IsClear before)
    (hword : before = [] → inWord = false) (hn : (before ++ t).length ≤ n) :
    name ∈ namesFrom n inWord (before ++ t) := by
  induction n generalizing before inWord with
  | zero =>
      have hlength := ht.length_lt
      rw [List.length_append] at hn
      omega
  | succ n ih =>
      cases before with
      | nil =>
          obtain rfl := hword rfl
          have hfound := declared?_iff.mpr ht
          cases t with
          | nil => cases hfound
          | cons c t => simp [namesFrom, hfound]
      | cons c before =>
          have hsuffix : before <:+ c :: before := List.suffix_cons c before
          have hnext : name ∈ namesFrom n (isWord c) (before ++ t) := by
            refine ih (hclear.suffix hsuffix) ?_ (by simpa using hn)
            rintro rfl
            exact isWord_of_part (hclear.apart c rfl)
          rw [List.cons_append, namesFrom]
          split
          · exact hnext
          · split
            · exact hnext
            · rename_i found left hfound
              have hdeclares := declared?_iff.mp hfound
              obtain ⟨b, hb, hends, rfl⟩ := Declares.past hdeclares (List.cons_ne_nil c before) hclear ht
              refine List.mem_cons_of_mem _ (ih (hclear.suffix hends) (fun h => absurd h hb) ?_)
              exact Nat.le_of_lt_succ (Nat.lt_of_lt_of_le hdeclares.length_lt hn)

/-- The last character of a text with another one put before it. -/
theorem last_append (h : t ≠ [] → ∀ c ∈ t.getLast?, p c = false)
    (h' : t = [] → ∀ c ∈ u.getLast?, p c = false) : ∀ c ∈ (u ++ t).getLast?, p c = false := by
  cases t with
  | nil => simpa using h' rfl
  | cons d t =>
      intro c hc
      refine h (List.cons_ne_nil d t) c ?_
      rwa [List.getLast?_append_of_ne_nil u (List.cons_ne_nil d t)] at hc

/-- What is found is declared, at a place that no word goes on over. -/
theorem of_mem_namesFrom (h : name ∈ namesFrom n inWord t) : ∃ before u rest, t = before ++ u ∧
    Declares u name rest ∧ (before = [] → inWord = false) ∧ ∀ c ∈ before.getLast?, isWord c = false := by
  induction n generalizing inWord t with
  | zero => cases h
  | succ n ih =>
      cases t with
      | nil => cases h
      | cons c t =>
          have hnext (h : name ∈ namesFrom n (isWord c) t) : ∃ before u rest, c :: t = before ++ u ∧
              Declares u name rest ∧ (before = [] → inWord = false) ∧
                ∀ c ∈ before.getLast?, isWord c = false := by
            obtain ⟨before, u, rest, rfl, hu, hfirst, hlast⟩ := ih h
            refine ⟨c :: before, u, rest, rfl, hu, by simp, ?_⟩
            exact last_append (u := [c]) (fun _ => hlast) (by simpa using hfirst)
          rw [namesFrom] at h
          split at h
          · exact hnext h
          · rename_i hout
            split at h
            · exact hnext h
            · rename_i found left hfound
              have hdeclares := declared?_iff.mp hfound
              rcases List.mem_cons.mp h with rfl | h
              · exact ⟨[], _, left, rfl, hdeclares, fun _ => by simpa using hout, by simp⟩
              · obtain ⟨before, u, rest, rfl, hu, hfirst, hlast⟩ := ih h
                obtain ⟨⟨w, hw, gap, hgap, hsplit⟩, hfoundName, -⟩ := hdeclares
                refine ⟨w ++ (gap ++ found) ++ before, u, rest, by simp [hsplit], hu, ?_, ?_⟩
                · simp [hgap.nonempty]
                · refine last_append (fun _ => hlast) fun hempty d hd => ?_
                  have hflag := hfirst hempty
                  rw [← List.append_assoc, List.getLast?_append_of_ne_nil _ hfoundName.nonempty] at hd
                  rw [hd] at hflag
                  exact hflag

/-- A name is declared in a text, right after a declaring word that no word goes on into. -/
def IsDeclaredIn (t name : Text) : Prop :=
  ∃ before u rest, t = before ++ u ∧ Declares u name rest ∧ ∀ c ∈ before.getLast?, isWord c = false

/-- A name is declared in a text at a clear place. -/
def IsClearlyDeclaredIn (t name : Text) : Prop :=
  ∃ before u rest, t = before ++ u ∧ Declares u name rest ∧ IsClear before

/-- What the scan of a text finds is declared in it. -/
theorem of_mem_names (h : name ∈ LexicalScan.names t) : IsDeclaredIn t name := by
  obtain ⟨before, u, rest, hsplit, hu, -, hlast⟩ := of_mem_namesFrom h
  exact ⟨before, u, rest, hsplit, hu, hlast⟩

/-- The scan of a text finds what is declared in it at a clear place. -/
theorem mem_names (h : IsClearlyDeclaredIn t name) : name ∈ LexicalScan.names t := by
  obtain ⟨before, u, rest, rfl, hu, hclear⟩ := h
  exact mem_namesFrom hu hclear (fun _ => rfl) (Nat.le_refl _)

/-- The names that are declared anywhere in a text, found ones among them. -/
def declaredNames (t : Text) : List Text :=
  t.tails.filterMap fun u => (declared? u).map (·.1)

theorem mem_declaredNames (h : IsDeclaredIn t name) : name ∈ declaredNames t := by
  obtain ⟨before, u, rest, rfl, hu, -⟩ := h
  refine List.mem_filterMap.mpr ⟨u, (List.mem_tails _ _).mpr (List.suffix_append before u), ?_⟩
  rw [declared?_iff.mpr hu]
  rfl

/-- What goes on a name, by the table as one list. -/
theorem isNamePart_eq : isNamePart = fun c =>
    (c.val == 0x5F || inRanges (alphanumericRangesPart1.toList ++ alphanumericRangesPart2.toList ++
      alphanumericRangesPart3.toList ++ alphanumericRangesPart4.toList ++
      alphanumericRangesPart5.toList).toArray c.val) || c.val == 0x24 := by
  funext c
  rw [isNamePart, isWord, isAlphanumeric, alphanumericRanges_eq]

/-- A declaration after the end of a statement stands at a clear place. -/
theorem isClearlyDeclaredIn_after_statement (ht : Declares t name rest) :
    IsClearlyDeclaredIn (before ++ Text.ofString "; " ++ t) name := by
  have hcharacters : ∀ d ∈ Text.ofString "; ", isNamePart d = false := by
    simp only [isNamePart_eq]
    decide +kernel
  have hclear : IsClear (before ++ [CodePoint.ofChar ';'] ++ [CodePoint.ofChar ' ']) :=
    isClear_after (by decide) (hcharacters _ List.mem_cons_self) fun d hd => by
      obtain rfl := List.mem_singleton.mp hd
      exact ⟨by decide, hcharacters _ (List.mem_cons_of_mem _ List.mem_cons_self)⟩
  rw [List.append_assoc before] at hclear
  exact ⟨_, t, rest, rfl, ht, hclear⟩

end ScriptHost.Proofs.DeclaredNames
