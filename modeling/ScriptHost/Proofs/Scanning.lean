import ScriptHost.Json.Writer
import ScriptHost.Script.Token

/-!
# Scanning data

The tokens of a script text that is written as data are: brackets and separators, words, strings
and numbers, each perhaps after a blank and all on one line.  Here are the places of tokens, and the
brackets and separators.
-/

namespace ScriptHost.Proofs.Scanning

open Script

variable {s : Array CodePoint} {i n fuel : Nat} {t rest : Text} {c : CodePoint}

/-- What can be checked of each item of a list holds of all of them. -/
theorem forall_of_all {α : Type} {p : α → Prop} [DecidablePred p] {xs : List α}
    (h : xs.all (fun x => decide (p x)) = true) : ∀ x ∈ xs, p x := by
  simpa using h

/-! ## Places in a text -/

/-- From a place on, a text stands in a source. -/
structure Stands (s : Array CodePoint) (i : Nat) (t : Text) : Prop where
  inside : i ≤ s.size
  drop : s.toList.drop i = t

namespace Stands

theorem getElem? (h : Stands s i t) (k : Nat) : s[i + k]? = t[k]? := by
  rw [← h.drop, List.getElem?_drop, Array.getElem?_toList]

theorem size (h : Stands s i t) : s.size = i + t.length := by
  have hinside := h.inside
  rw [← h.drop, List.length_drop, Array.length_toList]
  omega

theorem skip (h : Stands s i (t ++ rest)) : Stands s (i + t.length) rest := by
  have hsize := h.size
  rw [List.length_append] at hsize
  refine ⟨by omega, ?_⟩
  rw [← List.drop_drop, h.drop, List.drop_left]

theorem tail (h : Stands s i (c :: rest)) : Stands s (i + 1) rest := skip (t := [c]) h

theorem head (h : Stands s i (c :: rest)) : s[i]? = some c := h.getElem? 0

theorem charAt (h : Stands s i (c :: rest)) : Script.charAt s i = c.ascii := by
  unfold Script.charAt
  rw [h.head]
  rfl

theorem pointAt (h : Stands s i (c :: rest)) : Script.pointAt s i = c.val := by
  unfold Script.pointAt
  rw [h.head]
  rfl

theorem lt (h : Stands s i (c :: rest)) : i < s.size := by
  have hsize := h.size
  rw [List.length_cons] at hsize
  omega

end Stands

/-! ## Characters -/

@[simp]
theorem val_ofChar (c : Char) : (CodePoint.ofChar c).val = c.toNat := rfl

theorem ofChar_inj {c d : Char} : CodePoint.ofChar c = CodePoint.ofChar d ↔ c = d :=
  ⟨fun h => Char.toNat_inj.mp (congrArg CodePoint.val h), fun h => congrArg CodePoint.ofChar h⟩

theorem ascii_ofChar {c : Char} (h : c.toNat < 128) : (CodePoint.ofChar c).ascii = c := by
  unfold CodePoint.ascii
  rw [if_pos (by exact h)]
  exact Char.ofNat_toNat c

/-! ## Before a token -/

/-- A character that no white space or comment starts with. -/
def StartsToken (c : CodePoint) : Prop :=
  isLineEnd c.val = false ∧ isScriptBlank c.val = false ∧ c.val ≠ 0x2F

theorem skipTrivia_none (h : Stands s i (c :: rest)) (hc : StartsToken c) :
    skipTrivia s (fuel + 1) ⟨i, 1⟩ false = .ok (⟨i, 1⟩, false) := by
  obtain ⟨hline, hblank, hslash⟩ := hc
  have hreturn : c.val ≠ 13 := by
    intro hr
    rw [hr] at hline
    cases hline
  unfold skipTrivia
  simp [h.pointAt, Nat.not_le.mpr h.lt, hline, hblank, hslash, hreturn]

theorem skipTrivia_blank (h : Stands s i (CodePoint.ofChar ' ' :: c :: rest)) (hc : StartsToken c) :
    skipTrivia s (fuel + 2) ⟨i, 1⟩ false = .ok (⟨i + 1, 1⟩, false) := by
  unfold skipTrivia
  have htail : skipTrivia s (fuel + 1) ⟨i + 1, 1⟩ false = .ok (⟨i + 1, 1⟩, false) :=
    skipTrivia_none h.tail hc
  simp [h.pointAt, Nat.not_le.mpr h.lt, isLineEnd, isScriptBlank, htail]

theorem skipTrivia_end (h : Stands s i []) : skipTrivia s (fuel + 1) ⟨i, 1⟩ false = .ok (⟨i, 1⟩, false) := by
  have hsize := h.size
  unfold skipTrivia
  simp at hsize
  simp [hsize]

/-- A place from which a token starts, perhaps after a blank. -/
inductive Leads (s : Array CodePoint) : Nat → Nat → Text → Prop
  | here {i : Nat} {t : Text} (h : Stands s i t) : Leads s i i t
  | blank {i : Nat} {t : Text} (h : Stands s i (CodePoint.ofChar ' ' :: t)) : Leads s i (i + 1) t

namespace Leads

variable {j : Nat}

theorem stands (h : Leads s i j t) : Stands s j t := by
  cases h with
  | here h => exact h
  | blank h => exact h.tail

theorem le (h : Leads s i j t) : i ≤ j := by
  cases h with
  | here => exact Nat.le_refl _
  | blank => exact Nat.le_succ _

theorem skipTrivia (h : Leads s i j (c :: rest)) (hc : StartsToken c) :
    Script.skipTrivia s (s.size - i + 1) ⟨i, 1⟩ false = .ok (⟨j, 1⟩, false) := by
  cases h with
  | here h => exact skipTrivia_none h hc
  | blank h =>
      have hsize := h.size
      simp only [List.length_cons] at hsize
      obtain ⟨fuel, hfuel⟩ : ∃ fuel, s.size - i + 1 = fuel + 2 := ⟨s.size - i - 1, by omega⟩
      rw [hfuel]
      exact skipTrivia_blank h hc

end Leads

/-! ## Tokens -/

/-- A token of the first line. -/
def tokenAt (k : TokenKind) (i j : Nat) : Token :=
  { kind := k, start := i, stop := j, line := 1, afterNewline := false }

/-- From a place on, the next token is of a kind and ends at another place. -/
def Scans (s : Array CodePoint) (i : Nat) (k : TokenKind) (j : Nat) : Prop :=
  ∃ start, scan s false ⟨i, 1⟩ = .ok (tokenAt k start j, ⟨j, 1⟩)

theorem scans_end (h : Stands s i []) : Scans s i .eof i := by
  refine ⟨i, ?_⟩
  have hhead : s[i]? = none := h.getElem? 0
  unfold scan
  simp only [skipTrivia_end h, bind, Except.bind, hhead]
  rfl

/-- The brackets and separators of data. -/
def marks : List Char := ['(', ')', '[', ']', '\x7b', '\x7d', ',', ':', ';']

variable {j : Nat} {mark : Char}

theorem startsToken_mark (h : mark ∈ marks) : StartsToken (CodePoint.ofChar mark) := by
  have hmarks : ∀ d ∈ marks, isLineEnd (CodePoint.ofChar d).val = false ∧
      isScriptBlank (CodePoint.ofChar d).val = false ∧ (CodePoint.ofChar d).val ≠ 0x2F :=
    forall_of_all (by decide)
  exact hmarks mark h

theorem punctuatorAt_mark (h : Stands s i (CodePoint.ofChar mark :: rest)) (hmark : mark ∈ marks) :
    punctuatorAt? s i = some (String.singleton mark) := by
  unfold punctuatorAt?
  simp only [marks, List.mem_cons, List.not_mem_nil, or_false] at hmark
  rcases hmark with rfl | rfl | rfl | rfl | rfl | rfl | rfl | rfl | rfl
  all_goals
    have hchar := h.charAt
    simp [punctuators, charsAt, hchar, ascii_ofChar]

theorem scans_mark (h : Leads s i j (CodePoint.ofChar mark :: rest)) (hmark : mark ∈ marks) :
    Scans s i (.punct (String.singleton mark)) (j + 1) := by
  refine ⟨j, ?_⟩
  have hpunct := punctuatorAt_mark h.stands hmark
  have hhead := h.stands.head
  unfold scan
  simp only [h.skipTrivia (startsToken_mark hmark), bind, Except.bind, hhead, hpunct]
  simp only [marks, List.mem_cons, List.not_mem_nil, or_false] at hmark
  rcases hmark with rfl | rfl | rfl | rfl | rfl | rfl | rfl | rfl | rfl
  all_goals
    simp [ascii_ofChar, CodePoint.isDigit, startsName]
    exact ⟨rfl, rfl⟩

theorem scans_minus (h : Leads s i j (CodePoint.ofChar '-' :: c :: rest)) (hdash : c.ascii ≠ '-')
    (hequal : c.ascii ≠ '=') : Scans s i (.punct "-") (j + 1) := by
  refine ⟨j, ?_⟩
  have hhead := h.stands.head
  have hchar := h.stands.charAt
  have hnext := h.stands.tail.charAt
  have hpunct : punctuatorAt? s j = some "-" := by
    unfold punctuatorAt?
    simp [punctuators, charsAt, hchar, ascii_ofChar, hnext, hdash, hequal]
  unfold scan
  simp only [h.skipTrivia (by unfold StartsToken; decide), bind, Except.bind, hhead, hpunct]
  simp [ascii_ofChar, CodePoint.isDigit, startsName]
  exact ⟨rfl, rfl⟩

/-! ## Ends -/

/-- The characters that separate or close. -/
def closers : List Char := [',', ']', '\x7d', ')', ';']

/-- What may stand after a piece of data: nothing, or what separates or closes. -/
def Closes (t : Text) : Prop := ∀ c ∈ t.head?, c ∈ closers.map CodePoint.ofChar

theorem closes_nil : Closes [] := by simp [Closes]

theorem closes_mark {m : Char} (hm : m ∈ closers) : Closes (CodePoint.ofChar m :: rest) := by
  intro c hc
  cases hc
  exact List.mem_map_of_mem hm

end ScriptHost.Proofs.Scanning
