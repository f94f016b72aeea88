import ScriptHost.Host.Image
import ScriptHost.Proofs.ScannedStrings

/-!
# Scanning names

A run of plain identifier characters is scanned as one word, up to a character that no name goes on
with.
-/

namespace ScriptHost.Proofs.ScannedNames

open Script
open ScriptHost.Proofs.Scanning

variable {s : Array CodePoint} {i j fuel : Nat} {w rest : Text} {c : CodePoint}

/-- What no name goes on with. -/
def EndsName (t : Text) : Prop := ∀ c ∈ t.head?, continuesName c = false ∧ c.val ≠ 0x5C

/-- How a name is spelled. -/
def spelling (w : Text) : String := String.ofList (w.map fun c => Char.ofNat c.val)

/-- A plain identifier: it starts like one, and goes on to its end. -/
structure IsName (w : Text) : Prop where
  start : ∀ c ∈ w.head?, isPlainStart c = true
  parts : ∀ c ∈ w, isPlainPart c = true
  nonempty : w ≠ []

theorem isPlainStart_cases (h : isPlainStart c = true) :
    (0x41 ≤ c.val ∧ c.val ≤ 0x5A) ∨ (0x61 ≤ c.val ∧ c.val ≤ 0x7A) ∨ c.val = 0x5F ∨ c.val = 0x24 := by
  simpa [isPlainStart, or_assoc] using h

theorem isPlainPart_cases (h : isPlainPart c = true) :
    isPlainStart c = true ∨ (0x30 ≤ c.val ∧ c.val ≤ 0x39) := by
  simpa [isPlainPart, CodePoint.isDigit] using h

theorem startsName_plain (h : isPlainStart c = true) : startsName c = true := by
  unfold startsName
  rcases isPlainStart_cases h with ⟨hlow, hhigh⟩ | ⟨hlow, hhigh⟩ | heq | heq
  · simp [hlow, hhigh]
  · simp [hlow, hhigh]
  · simp [heq]
  · simp [heq]

theorem continuesName_plain (h : isPlainPart c = true) : continuesName c = true := by
  unfold continuesName
  rcases isPlainPart_cases h with hstart | ⟨hlow, hhigh⟩
  · simp [startsName_plain hstart]
  · simp [CodePoint.isDigit, hlow, hhigh]

theorem lt_of_isPlainPart (h : isPlainPart c = true) : 0x24 ≤ c.val ∧ c.val < 0x7B ∧ c.val ≠ 0x5C := by
  rcases isPlainPart_cases h with hstart | hdigit
  · have hcases := isPlainStart_cases hstart
    omega
  · omega

theorem endsName_nil : EndsName [] := by
  intro c hc
  cases hc

theorem endsName_cons (h : continuesName c = false) (hback : c.val ≠ 0x5C) : EndsName (c :: rest) := by
  intro d hd
  obtain rfl : c = d := by simpa using hd
  exact ⟨h, hback⟩

theorem readName_plain (h : Stands s i (w ++ rest)) (hw : ∀ c ∈ w, isPlainPart c = true)
    (hrest : EndsName rest) (hfuel : w.length < fuel) (acc : List Char) :
    readName s fuel i acc false =
      (String.ofList (acc.reverse ++ w.map fun c => Char.ofNat c.val), i + w.length, false) := by
  induction w generalizing i fuel acc with
  | nil =>
      obtain ⟨fuel, rfl⟩ : ∃ n, fuel = n + 1 := ⟨fuel - 1, by omega⟩
      unfold readName
      cases rest with
      | nil =>
          have hend : s[i]? = none := h.getElem? 0
          simp [hend]
      | cons c rest =>
          obtain ⟨hstops, hback⟩ := hrest c rfl
          rw [Stands.head (by simpa using h)]
          simp [hstops, hback]
  | cons c w ih =>
      obtain ⟨fuel, rfl⟩ : ∃ n, fuel = n + 1 := ⟨fuel - 1, by omega⟩
      have htail : Stands s (i + 1) (w ++ rest) := Stands.tail h
      have hc := hw c List.mem_cons_self
      obtain ⟨-, -, hback⟩ := lt_of_isPlainPart hc
      have hlength : w.length < fuel := by simpa using hfuel
      unfold readName
      rw [Stands.head h]
      dsimp only
      rw [if_neg (by simp [hback]), if_pos (continuesName_plain hc),
        ih htail (fun d hd => hw d (List.mem_cons_of_mem c hd)) hlength]
      simp
      omega

/-- A name is scanned as one word. -/
theorem scans_name (h : Leads s i j (w ++ rest)) (hw : IsName w) (hrest : EndsName rest) :
    Scans s i (.word (spelling w) false) (j + w.length) := by
  refine ⟨j, ?_⟩
  obtain ⟨c, w', rfl⟩ := List.exists_cons_of_ne_nil hw.nonempty
  have hplain : isPlainStart c = true := hw.start c rfl
  have hcases := isPlainStart_cases hplain
  have hhead : s[j]? = some c := h.stands.head
  have hstart : StartsToken c := by
    unfold StartsToken isLineEnd isScriptBlank
    simp
    omega
  have hfuel : (c :: w').length < s.size - i + 1 := by
    have hsize := h.stands.size
    have hle := h.le
    rw [List.length_append] at hsize
    omega
  have hread := readName_plain h.stands hw.parts hrest hfuel []
  have hother : ∀ d : Char, d.toNat < 128 → isPlainStart (CodePoint.ofChar d) = false →
      c.ascii ≠ d := by
    intro d hd hnot heq
    have hc : c = CodePoint.ofChar d := ScannedStrings.eq_of_ascii heq hd
    rw [hc, hnot] at hplain
    cases hplain
  have hdigit : c.isDigit = false := by
    unfold CodePoint.isDigit
    simp
    omega
  unfold scan
  simp only [Leads.skipTrivia h hstart, bind, Except.bind, hhead, hread]
  simp [hother '"' (by decide) (by decide), hother '\'' (by decide) (by decide),
    hother '\x60' (by decide) (by decide), hother '.' (by decide) (by decide), hdigit,
    startsName_plain hplain, tokenAt, spelling]

/-! ## Words of letters -/

theorem isPlainStart_letter {d : Char} (h : d.isAlpha = true) :
    isPlainStart (CodePoint.ofChar d) = true := by
  change (decide (0x41 ≤ d.val ∧ d.val ≤ 0x5A) || (0x61 ≤ d.val && d.val ≤ 0x7A)) = true at h
  simp only [Bool.or_eq_true, Bool.and_eq_true, decide_eq_true_eq] at h
  change (0x41 ≤ d.toNat ∧ d.toNat ≤ 0x5A) ∨ (0x61 ≤ d.toNat ∧ d.toNat ≤ 0x7A) at h
  unfold isPlainStart
  rw [val_ofChar]
  simp
  omega

theorem isName_letters {ds : List Char} (hne : ds ≠ []) (h : ∀ d ∈ ds, d.isAlpha = true) :
    IsName (ds.map CodePoint.ofChar) := by
  refine ⟨fun c hc => ?_, fun c hc => ?_, by simpa using hne⟩
  · rw [List.head?_map, Option.mem_def, Option.map_eq_some_iff] at hc
    obtain ⟨d, hd, rfl⟩ := hc
    exact isPlainStart_letter (h d (List.mem_of_mem_head? hd))
  · obtain ⟨d, hd, rfl⟩ := List.mem_map.mp hc
    unfold isPlainPart
    rw [isPlainStart_letter (h d hd), Bool.true_or]

theorem spelling_ofChars (ds : List Char) : spelling (ds.map CodePoint.ofChar) = String.ofList ds := by
  have hback : (fun c : CodePoint => Char.ofNat c.val) ∘ CodePoint.ofChar = id :=
    funext Char.ofNat_toNat
  unfold spelling
  rw [List.map_map, hback, List.map_id]

theorem endsName_closes (h : Closes rest) : EndsName rest := by
  intro c hc
  have hmem := h c hc
  simp only [closers, List.map_cons, List.map_nil, List.mem_cons, List.not_mem_nil, or_false] at hmem
  rcases hmem with rfl | rfl | rfl | rfl | rfl
  all_goals exact ⟨by decide, by decide⟩

end ScriptHost.Proofs.ScannedNames
