import ScriptHost.Pattern.Spans
import ScriptHost.Proofs.SteadyMatchers

/-!
# Matches stand in order

The matches of a pattern in a text stand one after the other, and none is left after the last one.  What stands
between them, together with what they cover, is the text; splitting and replacing keep it as it is.
-/

namespace ScriptHost.Proofs.MatchedSpans

open Pattern
open ScriptHost.Proofs.SteadyMatchers

variable {pattern : Compiled} {s : Array CodePoint} {position n : Nat} {advancing : Bool} {m : Match}
  {ms : List Match}

/-! ## One match -/

/-- A match that starts at a place or later, with a part for each group. -/
structure IsFrom (pattern : Compiled) (s : Array CodePoint) (position : Nat) (m : Match) : Prop where
  from_le : position ≤ m.start
  ordered : m.start ≤ m.stop
  within : m.stop ≤ s.size
  groups : m.captures.size = pattern.groups

theorem matchAt_some (h : position ≤ s.size) (hm : pattern.matchAt? s position advancing = some m) :
    IsFrom pattern s position m ∧ m.start = position ∧ (advancing = true → m.stop ≠ position) := by
  unfold Compiled.matchAt? at hm
  dsimp only at hm
  obtain ⟨r, hr, rfl⟩ := Option.map_eq_some_iff.mp hm
  obtain ⟨p, c, hlater, hk⟩ := isSteady_sequenceMatcher _ _ _ _ _ _ h hr
  dsimp only at hk
  split at hk
  · cases hk
  · rename_i hadvances
    cases hk
    have hsize := hlater.size
    rw [Array.size_replicate] at hsize
    refine ⟨⟨Nat.le_refl _, hlater.le, hlater.within, hsize⟩, rfl, ?_⟩
    rintro rfl hempty
    exact hadvances (by simpa using hempty)

theorem searchFrom_some (h : position + n ≤ s.size) (hm : pattern.searchFrom? s position advancing n = some m) :
    IsFrom pattern s position m ∧ (advancing = true → m.stop ≠ position) := by
  induction n generalizing position advancing with
  | zero =>
      obtain ⟨hfrom, -, hadvances⟩ := matchAt_some h hm
      exact ⟨hfrom, hadvances⟩
  | succ n ih =>
      unfold Compiled.searchFrom? at hm
      split at hm
      · rename_i hfirst
        cases hm
        obtain ⟨hfrom, -, hadvances⟩ := matchAt_some (by omega) hfirst
        exact ⟨hfrom, hadvances⟩
      · obtain ⟨hfrom, -⟩ := ih (by omega) hm
        have hlt := hfrom.from_le
        have hstop := hfrom.ordered
        exact ⟨⟨by omega, hstop, hfrom.within, hfrom.groups⟩, fun _ => by omega⟩

theorem search_some (hm : pattern.search? s position advancing = some m) :
    IsFrom pattern s position m ∧ (advancing = true → m.stop ≠ position) := by
  unfold Compiled.search? at hm
  split at hm
  · cases hm
  · exact searchFrom_some (by omega) hm

/-! ## All matches -/

/-- Matches that stand one after the other. -/
inductive InOrder (pattern : Compiled) (s : Array CodePoint) : Nat → List Match → Prop
  | none {position : Nat} (h : position ≤ s.size) : InOrder pattern s position []
  | more {position : Nat} {m : Match} {ms : List Match} (hm : IsFrom pattern s position m)
    (hms : InOrder pattern s m.stop ms) : InOrder pattern s position (m :: ms)

theorem matchesFrom_inOrder (n : Nat) (advancing : Bool) (h : position ≤ s.size) :
    InOrder pattern s position (pattern.matchesFrom s n position advancing) := by
  induction n generalizing position advancing with
  | zero => exact .none h
  | succ n ih =>
      unfold Compiled.matchesFrom
      split
      · rename_i hm
        have hfrom := (search_some hm).1
        exact .more hfrom (ih _ hfrom.within)
      · exact .none h

theorem allMatches_inOrder (pattern : Compiled) (s : Array CodePoint) :
    InOrder pattern s 0 (pattern.allMatches s) := matchesFrom_inOrder _ _ (Nat.zero_le _)

/-- How many matches there can be from a place on. -/
def matchesLeft (s : Array CodePoint) (position : Nat) (advancing : Bool) : Nat :=
  2 * (s.size - position) + (if advancing then 0 else 1)

/-- After a match there can be fewer. -/
theorem matchesLeft_lt (hm : pattern.search? s position advancing = some m) :
    matchesLeft s m.stop (m.stop == m.start) < matchesLeft s position advancing := by
  obtain ⟨hfrom, hadvances⟩ := search_some hm
  have hle := hfrom.from_le
  have hordered := hfrom.ordered
  have hwithin := hfrom.within
  unfold matchesLeft
  by_cases hempty : m.stop = m.start
  · rw [if_pos (by simpa using hempty)]
    cases advancing with
    | true =>
        have hne := hadvances rfl
        rw [if_pos rfl]
        omega
    | false =>
        rw [if_neg Bool.false_ne_true]
        omega
  · rw [if_neg (by simpa using hempty)]
    split
    · omega
    · omega

/-- Looking for more matches than there can be finds no more. -/
theorem matchesFrom_enough {k : Nat} (hn : matchesLeft s position advancing < n)
    (hk : matchesLeft s position advancing < k) :
    pattern.matchesFrom s n position advancing = pattern.matchesFrom s k position advancing := by
  induction n generalizing k position advancing with
  | zero => omega
  | succ n ih =>
      obtain ⟨k, rfl⟩ : ∃ j, k = j + 1 := ⟨k - 1, by omega⟩
      unfold Compiled.matchesFrom
      cases hm : pattern.search? s position advancing with
      | none => rfl
      | some m =>
          have hless := matchesLeft_lt hm
          have hmore := @ih m.stop (m.stop == m.start) k (by omega) (by omega)
          dsimp only
          rw [hmore]

/-- The matches of a pattern are the first one and those after it; there are none if there is no first one. -/
theorem allMatches_eq (pattern : Compiled) (s : Array CodePoint) :
    (∀ n, 2 * s.size + 2 ≤ n → pattern.allMatches s = pattern.matchesFrom s n 0 false) ∧
      (pattern.allMatches s).head? = pattern.search? s 0 false := by
  constructor
  · intro n hn
    refine matchesFrom_enough ?_ ?_
    · simp [matchesLeft]
    · simp only [matchesLeft, Nat.sub_zero, Bool.false_eq_true, if_false]
      omega
  · unfold Compiled.allMatches Compiled.matchesFrom
    cases pattern.search? s 0 false with
    | none => rfl
    | some m => rfl

/-! ## What stands between matches -/

theorem slice_append {i j k : Nat} (hij : i ≤ j) (hjk : j ≤ k) : slice s i j ++ slice s j k = slice s i k := by
  unfold slice
  rw [← Array.toList_append, Array.extract_append_extract, Nat.min_eq_left hij, Nat.max_eq_right hjk]

/-- The parts of a text before, between and after matches. -/
def gaps (s : Array CodePoint) : Nat → List Match → List Text
  | position, [] => [slice s position s.size]
  | position, m :: ms => slice s position m.start :: gaps s m.stop ms

/-- Texts with others between them. -/
def interleaved : List Text → List Text → Text
  | t :: ts, u :: us => t ++ (u ++ interleaved ts us)
  | ts, [] => ts.flatten
  | [], us => us.flatten

theorem length_gaps (s : Array CodePoint) (position : Nat) (ms : List Match) :
    (gaps s position ms).length = ms.length + 1 := by
  induction ms generalizing position with
  | nil => rfl
  | cons m ms ih => rw [gaps, List.length_cons, List.length_cons, ih]

/-- What stands between matches and what they cover make up the text. -/
theorem interleaved_gaps (h : InOrder pattern s position ms) :
    interleaved (gaps s position ms) (ms.map (·.text s)) = slice s position s.size := by
  induction h with
  | none h => exact List.append_nil _
  | @more position m ms hm hms ih =>
      have hwithin := hm.within
      rw [gaps, List.map_cons, interleaved, ih, Match.text, slice_append hm.ordered hwithin,
        slice_append hm.from_le (Nat.le_trans hm.ordered hwithin)]

theorem length_groupTexts (hm : IsFrom pattern s position m) : (m.groupTexts s).length = pattern.groups := by
  rw [Match.groupTexts, List.length_map, Array.length_toList, hm.groups]

theorem length_splitSpans (h : InOrder pattern s position ms) :
    (splitSpans s position ms).length = 1 + ms.length * (pattern.groups + 1) := by
  induction h with
  | none h => simp [splitSpans]
  | @more position m ms hm _ ih =>
      rw [splitSpans, List.length_cons, List.length_append, length_groupTexts hm, ih, List.length_cons, Nat.add_mul]
      omega

/-- The parts between matches stand among the captured parts, always as many places apart. -/
theorem splitSpans_gap (h : InOrder pattern s position ms) (i : Nat) :
    (splitSpans s position ms)[i * (pattern.groups + 1)]? = (gaps s position ms)[i]?.map some := by
  induction h generalizing i with
  | none h =>
      cases i with
      | zero => simp [splitSpans, gaps]
      | succ i => simp [splitSpans, gaps, Nat.add_mul]
  | @more position m ms hm _ ih =>
      cases i with
      | zero => simp [splitSpans, gaps]
      | succ i =>
          have hplace : (i + 1) * (pattern.groups + 1) =
              (m.groupTexts s).length + i * (pattern.groups + 1) + 1 := by
            rw [length_groupTexts hm, Nat.add_mul]
            omega
          rw [splitSpans, gaps, hplace, List.getElem?_cons_succ, List.getElem?_cons_succ,
            List.getElem?_append_right (Nat.le_add_right _ _), Nat.add_sub_cancel_left, ih]

/-- Replacing each match by one text puts the text between what stands between them. -/
theorem replaceSpans_gaps (t : Text) (position : Nat) (ms : List Match) :
    replaceSpans s (fun _ => t) position ms = Text.joinWith t (gaps s position ms) := by
  induction ms generalizing position with
  | nil => rfl
  | cons m ms ih =>
      obtain ⟨u, us, hgaps⟩ : ∃ u us, gaps s m.stop ms = u :: us := by
        cases ms with
        | nil => exact ⟨_, _, rfl⟩
        | cons m' ms => exact ⟨_, _, rfl⟩
      rw [replaceSpans, gaps, ih, hgaps]
      rfl

end ScriptHost.Proofs.MatchedSpans
